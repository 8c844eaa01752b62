import Microbatch.Proofs.Entries
import Microbatch.Proofs.Shapes

set_option relaxedAutoImplicit false
set_option autoImplicit false

/-!
# Kernels as loops over places

The kernels are written over rows and columns. The same results come from loops that go through the
places of their operands and add one term after the other into a flat buffer, in an order that is
not that of any one sum: the product goes through the columns inside, and both gradients of a
product are filled in one pass. Here every access is checked, and no check fails when the operands
have the sizes that go with the kernel. Of the terms that a pass adds, those that reach one place
come by in the order in which the sum for that place takes them, so that nothing has to be known of
addition.

Places are computed in natural numbers or in sizes, where a product or a sum may be too large. In
operands whose lengths are sizes this makes no difference, so that the loops fail only if the number
of places of a result is no size: then there is no buffer to fill.

## Main definitions

* `Microbatch.Kernel.forEach?`, `Microbatch.Kernel.addAt?` — a counted loop, and the addition of a
  term to the element at a place.
* `Microbatch.Kernel.Places`, `Microbatch.Kernel.Places.Finds` — how places are computed, and that
  those of a matrix are found.
* `Microbatch.Kernel.allocate?` — zeros for a matrix, if the number of its places is a size.
* `Microbatch.Kernel.matmulLoop?`, `Microbatch.Kernel.gradientsLoop?`,
  `Microbatch.Kernel.addLoop?`, `Microbatch.Kernel.unbroadcastLoop?` — the loops, every access
  checked.
* `Microbatch.Kernel.visits` — the order in which three nested loops come by.
* `Microbatch.Kernel.IsMatrix` — a list by its entries.

## Main results

* `Microbatch.Kernel.foldlM_eq_some`, `Microbatch.Kernel.forEach?_visits` — loops of steps that keep
  an invariant.
* `Microbatch.Kernel.filter_visits_middle`, `Microbatch.Kernel.filter_visits_outer` — the visits
  that reach one place.
* `Microbatch.Kernel.getElem?_foldl_addAt` — what a pass leaves at one place.
* `Microbatch.Kernel.isMatrix_foldl_middle`, `Microbatch.Kernel.isMatrix_foldl_outer` — what nested
  loops leave that sum up over one of their indices.
* `Microbatch.Kernel.kernels_by_place` — the kernels, their loops and their entries.
-/

namespace Microbatch.Kernel

universe u

/-! ### Loops -/

section Loops

variable {σ : Type u}

/-- **A counted loop** whose steps may fail; the first failure ends it. -/
def forEach? (count : Nat) (state : σ) (step : σ → Nat → Option σ) : Option σ :=
  (List.range count).foldlM step state

/-- **A pass of steps that keep an invariant**, from a state that satisfies it: if under the
invariant no step fails, neither does the pass. -/
lemma foldlM_eq_some {ι : Type} (Inv : σ → Prop) {positions : List ι} {step : σ → ι → Option σ}
    {next : σ → ι → σ} {state : σ} (start : Inv state)
    (each : ∀ s, Inv s → ∀ i ∈ positions, step s i = some (next s i) ∧ Inv (next s i)) :
    positions.foldlM step state = some (positions.foldl next state) ∧
      Inv (positions.foldl next state) := by
  induction positions generalizing state with
  | nil => exact ⟨rfl, start⟩
  | cons i rest ih =>
    obtain ⟨ran, kept⟩ := each state start i List.mem_cons_self
    rw [List.foldlM_cons, ran, Option.bind_eq_bind, Option.bind_some, List.foldl_cons]
    exact ih kept fun s inv j member => each s inv j (List.mem_cons_of_mem i member)

/-- A counted loop of steps that keep an invariant. -/
lemma forEach?_eq_some (Inv : σ → Prop) {count : Nat} {step : σ → Nat → Option σ}
    {next : σ → Nat → σ} {state : σ} (start : Inv state)
    (each : ∀ s, Inv s → ∀ i < count, step s i = some (next s i) ∧ Inv (next s i)) :
    forEach? count state step = some ((List.range count).foldl next state) ∧
      Inv ((List.range count).foldl next state) :=
  foldlM_eq_some Inv start fun s inv i member => each s inv i (List.mem_range.1 member)

/-- A list whose elements all have an image has the list of the images. -/
lemma mapM_eq_some {ι α : Type u} {f : ι → Option α} {g : ι → α} {xs : List ι}
    (h : ∀ x ∈ xs, f x = some (g x)) : xs.mapM f = some (xs.map g) := by
  induction xs with
  | nil => rfl
  | cons x xs ih =>
    obtain ⟨first, others⟩ := List.forall_mem_cons.1 h
    rw [List.mapM_cons, first, ih others]
    rfl

/-- **The order in which three nested loops come by**: the innermost one counts up first. -/
def visits (outer middle inner : Nat) : List (Nat × Nat × Nat) :=
  (List.range outer).flatMap fun x => (List.range middle).flatMap fun y =>
    (List.range inner).map fun z => (x, y, z)

/-- **Three nested loops are one along their visits**, where the innermost loop goes with a value
that is looked up before it: if every value is there, and under an invariant no step fails, neither
do the loops. -/
lemma forEach?_visits {γ : Type u} (Inv : σ → Prop) {outer middle inner : Nat}
    {value? : Nat → Nat → Option γ} {value : Nat → Nat → γ}
    {step : σ → Nat → Nat → Nat → γ → Option σ} {next : σ → Nat × Nat × Nat → σ} {state : σ}
    (start : Inv state) (there : ∀ x < outer, ∀ y < middle, value? x y = some (value x y))
    (each : ∀ s, Inv s → ∀ x < outer, ∀ y < middle, ∀ z < inner,
      step s x y z (value x y) = some (next s (x, y, z)) ∧ Inv (next s (x, y, z))) :
    (forEach? outer state fun s x => forEach? middle s fun s y => do
      let c ← value? x y
      forEach? inner s fun s z => step s x y z c) =
        some ((visits outer middle inner).foldl next state) := by
  simp only [visits, List.foldl_flatMap, List.foldl_map]
  refine (forEach?_eq_some Inv start fun s inv x hx => ?_).1
  refine forEach?_eq_some Inv inv fun s inv y hy => ?_
  -- the value belongs to the pair, so that it is there before the innermost loop starts
  rw [there x hx y hy, Option.bind_eq_bind, Option.bind_some]
  exact forEach?_eq_some Inv inv fun s inv z hz => each s inv x hx y hy z hz

variable {outer middle inner x y z : Nat}

lemma mem_visits_iff {v : Nat × Nat × Nat} :
    v ∈ visits outer middle inner ↔ v.1 < outer ∧ v.2.1 < middle ∧ v.2.2 < inner := by
  obtain ⟨x, y, z⟩ := v
  simp [visits]

/-- Of what is put together along a range, one number has its part. -/
lemma flatMap_range_ite {α : Type u} {count i : Nat} (inside : i < count) (part : Nat → List α) :
    ((List.range count).flatMap fun j => if j = i then part j else []) = part i := by
  have chosen : ∀ positions : List Nat, (positions.flatMap fun j => if j = i then part j else []) =
      (positions.filter fun j => j = i).flatMap part := by
    intro positions
    induction positions with
    | nil => rfl
    | cons j rest ih => by_cases here : j = i <;> simp [here, ih]
  rw [chosen, filter_range_eq, if_pos inside, List.flatMap_singleton]

/-- Of a range, one number is chosen, under a condition that does not depend on it. -/
lemma filter_range_and {count i : Nat} (inside : i < count) (p : Prop) [Decidable p] :
    ((List.range count).filter fun j => p ∧ j = i) = if p then [i] else [] := by
  by_cases holds : p
  · simp only [holds, true_and, if_true]
    rw [filter_range_eq, if_pos inside]
  · simp [holds]

/-- **The visits with one outer and one inner index** come by in the order of the middle one. -/
lemma filter_visits_middle (outside : x < outer) (inside : z < inner) :
    ((visits outer middle inner).filter fun v => v.1 = x ∧ v.2.2 = z) =
      (List.range middle).map fun y => (x, y, z) := by
  -- with another outer index nothing is left, with this one a visit for each middle index
  have rows : ∀ x' : Nat, ((List.range middle).flatMap fun y => ((List.range inner).filter fun z' =>
      x' = x ∧ z' = z).map fun z => (x', y, z)) =
        if x' = x then (List.range middle).map fun y => (x', y, z) else [] := by
    intro x'
    simp only [filter_range_and inside]
    split
    · simp [List.map_eq_flatMap]
    · simp
  simp only [visits, List.filter_flatMap, List.filter_map, Function.comp_def, rows]
  exact flatMap_range_ite outside _

/-- **The visits with one middle and one inner index** come by in the order of the outer one. -/
lemma filter_visits_outer (between : y < middle) (inside : z < inner) :
    ((visits outer middle inner).filter fun v => v.2.2 = z ∧ v.2.1 = y) =
      (List.range outer).map fun x => (x, y, z) := by
  -- with every outer index one visit is left
  have rows : ∀ x : Nat, ((List.range middle).flatMap fun y' => ((List.range inner).filter fun z' =>
      y' = y ∧ z' = z).map fun z => (x, y', z)) = [(x, y, z)] := by
    intro x
    have chosen := flatMap_range_ite between fun y' => [(x, y', z)]
    simp only [filter_range_and inside, apply_ite (List.map _), List.map_singleton, List.map_nil]
    exact chosen
  have swapped : ∀ v : Nat × Nat × Nat, decide (v.2.2 = z ∧ v.2.1 = y) =
      decide (v.2.1 = y ∧ v.2.2 = z) := fun v => decide_eq_decide.2 and_comm
  simp only [swapped, visits, List.filter_flatMap, List.filter_map, Function.comp_def, rows]
  exact List.map_eq_flatMap.symm

end Loops

variable {F : Type} [Scalar F]

/-! ### Terms that are added up in place -/

/-- **Adds a term to the element at a place.** -/
def addAt (buffer : List F) (place : Nat) (term : F) : List F :=
  buffer.modify place (Scalar.add · term)

/-- **Adds a term to the element at a place**, if there is such a place. -/
def addAt? (buffer : List F) (place : Nat) (term : F) : Option (List F) :=
  if place < buffer.length then some (addAt buffer place term) else none

@[simp] lemma length_addAt (buffer : List F) (place : Nat) (term : F) :
    (addAt buffer place term).length = buffer.length :=
  List.length_modify _ _ _

lemma addAt?_eq_some {buffer : List F} {place : Nat} (inside : place < buffer.length) (term : F) :
    addAt? buffer place term = some (addAt buffer place term) :=
  if_pos inside

section Passes

variable {ι : Type}

/-- A pass keeps the length of the buffer. -/
lemma length_foldl_addAt (positions : List ι) (place : ι → Nat) (term : ι → F) (buffer : List F) :
    (positions.foldl (fun buffer v => addAt buffer (place v) (term v)) buffer).length =
      buffer.length := by
  induction positions generalizing buffer with
  | nil => rfl
  | cons v rest ih => rw [List.foldl_cons, ih, length_addAt]

/-- **What a pass leaves at one place**: what was there, and the terms that reach the place, added
in the order in which they come by. -/
lemma getElem?_foldl_addAt (positions : List ι) (place : ι → Nat) (term : ι → F) (buffer : List F)
    (q : Nat) :
    (positions.foldl (fun buffer v => addAt buffer (place v) (term v)) buffer)[q]? =
      buffer[q]?.map fun start => ((positions.filter fun v => place v = q).map term).foldl
        Scalar.add start := by
  induction positions generalizing buffer with
  | nil => simp
  | cons v rest ih =>
    rw [List.foldl_cons, ih, addAt, List.getElem?_modify, Option.map_eq_map, Option.map_map]
    by_cases here : place v = q
    · simp [here, Function.comp_def]
    · simp [here, Function.comp_def]

/-- Two buffers that are filled in one pass are filled one by one. -/
lemma foldl_pair {σ τ : Type} (positions : List ι) (f : σ → ι → σ) (g : τ → ι → τ) (s : σ)
    (t : τ) : positions.foldl (fun buffers v => (f buffers.1 v, g buffers.2 v)) (s, t) =
      (positions.foldl f s, positions.foldl g t) := by
  induction positions generalizing s t with
  | nil => rfl
  | cons v rest ih => exact ih (f s v) (g t v)

end Passes

/-! ### Matrices by their entries -/

/-- **A list is a matrix with given entries**, row by row. -/
def IsMatrix (height width : Nat) (xs : List F) (value : Nat → Nat → F) : Prop :=
  xs.length = height * width ∧ ∀ i < height, ∀ j < width, xs[i * width + j]? = some (value i j)

section Matrices

variable {height width : Nat} {xs ys : List F} {value : Nat → Nat → F}

/-- Two places of a matrix are the same if they are in the same row and in the same column. -/
lemma place_eq_iff {i j i' j' : Nat} (hj : j < width) (hj' : j' < width) :
    i * width + j = i' * width + j' ↔ i = i' ∧ j = j' := by
  constructor
  · intro same
    have pos : 0 < width := Nat.lt_of_le_of_lt (Nat.zero_le j) hj
    have rows := congrArg (· / width) same
    have columns := congrArg (· % width) same
    simp only [Nat.mul_comm _ width, Nat.mul_add_div pos, Nat.div_eq_of_lt hj,
      Nat.div_eq_of_lt hj', Nat.mul_add_mod_self_left, Nat.mod_eq_of_lt hj, Nat.mod_eq_of_lt hj',
      Nat.add_zero] at rows columns
    exact ⟨rows, columns⟩
  · rintro ⟨rfl, rfl⟩
    rfl

omit [Scalar F] in
/-- A matrix is determined by its entries. -/
lemma IsMatrix.unique (hx : IsMatrix height width xs value) (hy : IsMatrix height width ys value) :
    xs = ys := by
  refine List.ext_getElem? fun q => ?_
  by_cases inside : q < height * width
  · obtain ⟨i, hi, j, hj, rfl⟩ := exists_place inside
    rw [hx.2 i hi j hj, hy.2 i hi j hj]
  · rw [List.getElem?_eq_none (hx.1 ▸ Nat.le_of_not_lt inside),
      List.getElem?_eq_none (hy.1 ▸ Nat.le_of_not_lt inside)]

/-- **A pass into zeros gives a matrix**: every place of it has the running sum of the terms that
reach the place, if these are numbered. -/
lemma isMatrix_foldl_addAt {ι : Type} {positions : List ι} {terms : Nat}
    {visit : Nat → Nat → Nat → ι} (row column : ι → Nat) (term : ι → F)
    (inside : ∀ v ∈ positions, column v < width)
    (reach : ∀ i < height, ∀ j < width, (positions.filter fun v => row v = i ∧ column v = j) =
      (List.range terms).map (visit i j)) :
    IsMatrix height width (positions.foldl (fun out v =>
      addAt out (row v * width + column v) (term v)) (zeros (height * width)))
        fun i j => runningSum terms fun c => term (visit i j c) := by
  have sized : (zeros (F := F) (height * width)).length = height * width := length_zeros _
  refine ⟨(length_foldl_addAt positions _ term _).trans sized, fun i hi j hj => ?_⟩
  -- columns stay below the width, so that a place says in which row and column it is
  have same_place : (positions.filter fun v => row v * width + column v = i * width + j) =
      positions.filter fun v => row v = i ∧ column v = j :=
    List.filter_congr fun v member => decide_eq_decide.2 (place_eq_iff (inside v member) hj)
  have place := covers_of_length sized i hi j hj
  rw [length_zeros] at place
  rw [getElem?_foldl_addAt, same_place, reach i hi j hj]
  simp [zeros, place, runningSum, List.foldl_map]

/-- **Three nested loops that sum up over the middle index**, at the places of the other two. -/
lemma isMatrix_foldl_middle (outer middle inner : Nat) (term : Nat × Nat × Nat → F) :
    IsMatrix outer inner ((visits outer middle inner).foldl
      (fun out v => addAt out (v.1 * inner + v.2.2) (term v)) (zeros (outer * inner)))
        fun x z => runningSum middle fun y => term (x, y, z) :=
  isMatrix_foldl_addAt (fun v => v.1) (fun v => v.2.2) term
    (fun _ member => (mem_visits_iff.1 member).2.2) fun _ hx _ hz => filter_visits_middle hx hz

/-- **Three nested loops that sum up over the outer index**, at the places of the other two. -/
lemma isMatrix_foldl_outer (outer middle inner : Nat) (term : Nat × Nat × Nat → F) :
    IsMatrix inner middle ((visits outer middle inner).foldl
      (fun out v => addAt out (v.2.2 * middle + v.2.1) (term v)) (zeros (inner * middle)))
        fun z y => runningSum outer fun x => term (x, y, z) :=
  isMatrix_foldl_addAt (fun v => v.2.2) (fun v => v.2.1) term
    (fun _ member => (mem_visits_iff.1 member).2.1) fun _ hz _ hy => filter_visits_outer hy hz

end Matrices

/-! ### Places -/

/-- **How places are computed**, from the width of a matrix, a row and a column. -/
abbrev Places := Nat → Nat → Nat → Option Nat

namespace Places

/-- Places in natural numbers. -/
def exact : Places := fun width i j => some (i * width + j)

/-- Places in sizes: the product and the sum have to be sizes. -/
def sized : Places := fun width i j => do
  let start ← Size.mul? i width
  Size.add? start j

/-- **The places of a matrix are found** row by row. -/
def Finds (place? : Places) (height width : Nat) : Prop :=
  ∀ i < height, ∀ j < width, place? width i j = some (i * width + j)

lemma exact_finds (height width : Nat) : exact.Finds height width := fun _ _ _ _ => rfl

/-- **Places are sizes** if their number is. -/
lemma sized_finds {height width : Nat} (few : height * width < Size.limit) :
    sized.Finds height width := by
  intro i hi j hj
  have place := Nat.lt_trans (Size.place_lt hi hj) few
  rw [sized, Size.mul?_of_lt (Nat.lt_of_le_of_lt (Nat.le_add_right _ _) place),
    Option.bind_eq_bind, Option.bind_some]
  exact Size.add?_eq_some_iff.2 ⟨rfl, place⟩

end Places

/-- The entry of a row and a column, if there is one. -/
def entryAt? (place? : Places) (xs : List F) (width i j : Nat) : Option F := do
  let place ← place? width i j
  xs[place]?

/-- Adds a term to the entry of a row and a column, if there is one. -/
def addEntryAt? (place? : Places) (buffer : List F) (width i j : Nat) (term : F) :
    Option (List F) := do
  let place ← place? width i j
  addAt? buffer place term

section Accesses

variable {place? : Places} {height width : Nat} (found : place?.Finds height width) {xs : List F}
  (sized : xs.length = height * width)

include found sized

lemma entryAt?_eq_some {i j : Nat} (hi : i < height) (hj : j < width) :
    entryAt? place? xs width i j = some (entry xs (i * width + j)) := by
  rw [entryAt?, found i hi j hj]
  exact getElem?_eq_entry (covers_of_length sized i hi j hj)

lemma addEntryAt?_eq_some {i j : Nat} (hi : i < height) (hj : j < width) (term : F) :
    addEntryAt? place? xs width i j term = some (addAt xs (i * width + j) term) := by
  rw [addEntryAt?, found i hi j hj]
  exact addAt?_eq_some (covers_of_length sized i hi j hj) term

end Accesses

/-- **Zeros for a matrix**, if the number of its places is a size. -/
def allocate? (height width : Nat) : Option (List F) :=
  (Size.mul? height width).map zeros

/-! ### Products -/

section Products

variable {place? : Places} {size : MatrixSize} {a b gradient : List F}

/-- **The matrix product as a loop** into a buffer: through rows and inner indices, and for each
through the columns. -/
def matmulInto? (place? : Places) (size : MatrixSize) (a b out : List F) : Option (List F) :=
  forEach? size.rows out fun out i =>
    forEach? size.inner out fun out p => do
      let factor ← entryAt? place? a size.inner i p
      forEach? size.columns out fun out j => do
        let x ← entryAt? place? b size.columns p j
        addEntryAt? place? out size.columns i j (Scalar.mul factor x)

/-- **Both gradients of a matrix product as one loop** into two buffers: through the places of the
gradient, and for each through the inner indices. -/
def gradientsInto? (place? : Places) (size : MatrixSize) (a b gradient : List F)
    (buffers : List F × List F) : Option (List F × List F) :=
  forEach? size.rows buffers fun buffers i =>
    forEach? size.columns buffers fun buffers j => do
      let g ← entryAt? place? gradient size.columns i j
      forEach? size.inner buffers fun buffers p => do
        let y ← entryAt? place? b size.columns p j
        let left ← addEntryAt? place? buffers.1 size.inner i p (Scalar.mul g y)
        let x ← entryAt? place? a size.inner i p
        let right ← addEntryAt? place? buffers.2 size.columns p j (Scalar.mul x g)
        return (left, right)

/-- The matrix product, its buffer and all places in sizes. -/
def matmulLoop? (size : MatrixSize) (a b : List F) : Option (List F) := do
  let out ← allocate? size.rows size.columns
  matmulInto? .sized size a b out

/-- Both gradients of a matrix product, their buffers and all places in sizes. -/
def gradientsLoop? (size : MatrixSize) (a b gradient : List F) : Option (List F × List F) := do
  let left ← allocate? size.rows size.inner
  let right ← allocate? size.inner size.columns
  gradientsInto? .sized size a b gradient (left, right)

/-- The term of a product at a visit of a row, an inner index and a column. -/
def productTerm (size : MatrixSize) (a b : List F) (v : Nat × Nat × Nat) : F :=
  Scalar.mul (entry a (v.1 * size.inner + v.2.1)) (entry b (v.2.1 * size.columns + v.2.2))

/-- The term of the left gradient at a visit of a row, a column and an inner index. -/
def leftTerm (size : MatrixSize) (b gradient : List F) (v : Nat × Nat × Nat) : F :=
  Scalar.mul (entry gradient (v.1 * size.columns + v.2.1)) (entry b (v.2.2 * size.columns + v.2.1))

/-- The term of the right gradient at a visit of a row, a column and an inner index. -/
def rightTerm (size : MatrixSize) (a gradient : List F) (v : Nat × Nat × Nat) : F :=
  Scalar.mul (entry a (v.1 * size.inner + v.2.2)) (entry gradient (v.1 * size.columns + v.2.1))

/-- No check of the product's loop fails. -/
lemma matmulInto?_eq_foldl (fa : place?.Finds size.rows size.inner)
    (fb : place?.Finds size.inner size.columns) (fo : place?.Finds size.rows size.columns)
    (ha : a.length = size.rows * size.inner) (hb : b.length = size.inner * size.columns) :
    matmulInto? place? size a b (zeros (size.rows * size.columns)) =
      some ((visits size.rows size.inner size.columns).foldl
        (fun out v => addAt out (v.1 * size.columns + v.2.2) (productTerm size a b v))
        (zeros (size.rows * size.columns))) := by
  refine forEach?_visits (fun out => out.length = size.rows * size.columns) (length_zeros _)
    (fun i hi p hp => entryAt?_eq_some fa ha hi hp) ?_
  intro out sized i hi p hp j hj
  rw [entryAt?_eq_some fb hb hp hj, Option.bind_eq_bind, Option.bind_some,
    addEntryAt?_eq_some fo sized hi hj]
  exact ⟨rfl, (length_addAt _ _ _).trans sized⟩

/-- No check of the gradients' loop fails. -/
lemma gradientsInto?_eq_foldl (fa : place?.Finds size.rows size.inner)
    (fb : place?.Finds size.inner size.columns) (fg : place?.Finds size.rows size.columns)
    (ha : a.length = size.rows * size.inner) (hb : b.length = size.inner * size.columns)
    (hg : gradient.length = size.rows * size.columns) :
    gradientsInto? place? size a b gradient
        (zeros (size.rows * size.inner), zeros (size.inner * size.columns)) =
      some ((visits size.rows size.columns size.inner).foldl
        (fun buffers v =>
          (addAt buffers.1 (v.1 * size.inner + v.2.2) (leftTerm size b gradient v),
            addAt buffers.2 (v.2.2 * size.columns + v.2.1) (rightTerm size a gradient v)))
        (zeros (size.rows * size.inner), zeros (size.inner * size.columns))) := by
  refine forEach?_visits (fun buffers => buffers.1.length = size.rows * size.inner ∧
    buffers.2.length = size.inner * size.columns) ⟨length_zeros _, length_zeros _⟩
    (fun i hi j hj => entryAt?_eq_some fg hg hi hj) ?_
  rintro ⟨left, right⟩ ⟨sized_left, sized_right⟩ i hi j hj p hp
  simp only [entryAt?_eq_some fb hb hp hj, entryAt?_eq_some fa ha hi hp,
    addEntryAt?_eq_some fa sized_left hi hp, addEntryAt?_eq_some fb sized_right hp hj,
    Option.bind_eq_bind, Option.bind_some]
  exact ⟨rfl, (length_addAt _ _ _).trans sized_left, (length_addAt _ _ _).trans sized_right⟩

/-- The product by its entries. -/
lemma isMatrix_matmul (ha : a.length = size.rows * size.inner)
    (hb : b.length = size.inner * size.columns) :
    IsMatrix size.rows size.columns (matmul size a b) fun i j => runningSum size.inner fun p =>
      Scalar.mul (entry a (i * size.inner + p)) (entry b (p * size.columns + j)) :=
  ⟨length_matmul size a b, fun _ hi _ hj => getElem?_matmul ha hb hi hj⟩

/-- The gradient of the left matrix by its entries. -/
lemma isMatrix_matmulLeft (hb : b.length = size.inner * size.columns)
    (hg : gradient.length = size.rows * size.columns) :
    IsMatrix size.rows size.inner (matmulLeft size b gradient) fun i p =>
      runningSum size.columns fun j =>
        Scalar.mul (entry gradient (i * size.columns + j)) (entry b (p * size.columns + j)) :=
  ⟨length_matmulLeft size b gradient, fun _ hi _ hp => getElem?_matmulLeft hb hg hi hp⟩

/-- The gradient of the right matrix by its entries. -/
lemma isMatrix_matmulRight (ha : a.length = size.rows * size.inner)
    (hg : gradient.length = size.rows * size.columns) :
    IsMatrix size.inner size.columns (matmulRight size a gradient) fun p j =>
      runningSum size.rows fun i =>
        Scalar.mul (entry a (i * size.inner + p)) (entry gradient (i * size.columns + j)) :=
  ⟨length_matmulRight size a gradient, fun _ hp _ hj => getElem?_matmulRight ha hg hp hj⟩

/-- **The loop computes the product** into zeros. -/
lemma matmulInto?_eq_some (fa : place?.Finds size.rows size.inner)
    (fb : place?.Finds size.inner size.columns) (fo : place?.Finds size.rows size.columns)
    (ha : a.length = size.rows * size.inner) (hb : b.length = size.inner * size.columns) :
    matmulInto? place? size a b (zeros (size.rows * size.columns)) = some (matmul size a b) := by
  have product := isMatrix_foldl_middle size.rows size.inner size.columns (productTerm size a b)
  rw [matmulInto?_eq_foldl fa fb fo ha hb, product.unique (isMatrix_matmul ha hb)]

/-- **The loop computes both gradients** into zeros. -/
lemma gradientsInto?_eq_some (fa : place?.Finds size.rows size.inner)
    (fb : place?.Finds size.inner size.columns) (fg : place?.Finds size.rows size.columns)
    (ha : a.length = size.rows * size.inner) (hb : b.length = size.inner * size.columns)
    (hg : gradient.length = size.rows * size.columns) :
    gradientsInto? place? size a b gradient
        (zeros (size.rows * size.inner), zeros (size.inner * size.columns)) =
      some (matmulLeft size b gradient, matmulRight size a gradient) := by
  have left := isMatrix_foldl_middle size.rows size.columns size.inner (leftTerm size b gradient)
  have right := isMatrix_foldl_outer size.rows size.columns size.inner (rightTerm size a gradient)
  rw [gradientsInto?_eq_foldl fa fb fg ha hb hg, ← left.unique (isMatrix_matmulLeft hb hg),
    ← right.unique (isMatrix_matmulRight ha hg), ← foldl_pair]

/-- **In sizes, the product is computed** exactly if the number of its places is a size. -/
lemma matmulLoop?_eq (ha : a.length = size.rows * size.inner)
    (hb : b.length = size.inner * size.columns) (small_a : a.length < Size.limit)
    (small_b : b.length < Size.limit) :
    matmulLoop? size a b =
      if size.rows * size.columns < Size.limit then some (matmul size a b) else none := by
  unfold matmulLoop? allocate?
  split
  · rename_i few
    rw [Size.mul?_of_lt few]
    exact matmulInto?_eq_some (Places.sized_finds (ha ▸ small_a))
      (Places.sized_finds (hb ▸ small_b)) (Places.sized_finds few) ha hb
  · rename_i many
    rw [Size.mul?, if_neg many]
    rfl

/-- **In sizes, both gradients are computed**: they have as many places as the operands. -/
lemma gradientsLoop?_eq_some (ha : a.length = size.rows * size.inner)
    (hb : b.length = size.inner * size.columns) (hg : gradient.length = size.rows * size.columns)
    (small_a : a.length < Size.limit) (small_b : b.length < Size.limit)
    (small_g : gradient.length < Size.limit) :
    gradientsLoop? size a b gradient =
      some (matmulLeft size b gradient, matmulRight size a gradient) := by
  rw [ha] at small_a
  rw [hb] at small_b
  rw [hg] at small_g
  unfold gradientsLoop? allocate?
  rw [Size.mul?_of_lt small_a, Size.mul?_of_lt small_b]
  exact gradientsInto?_eq_some (Places.sized_finds small_a) (Places.sized_finds small_b)
    (Places.sized_finds small_g) ha hb hg

end Products

/-! ### Repeated rows -/

section Repeated

variable {count width : Nat} {a b gradient : List F}

/-- **Addition as a loop** through the places of the first summand; the second one is read at the
remainders. An empty list has no place that could be read. -/
def addLoop? (a b : List F) : Option (List F) :=
  a.zipIdx.mapM fun e => do
    let y ← b[e.2 % b.length]?
    return Scalar.add e.1 y

/-- **The gradient of a repeated summand as a loop** through the places of the gradient, each added
at its remainder. An empty buffer has no place that could be added to. -/
def unbroadcastLoop? (gradient : List F) (length : Nat) : Option (List F) :=
  gradient.zipIdx.foldlM (fun out e => addAt? out (e.2 % length) e.1) (zeros length)

/-- A sum with a repeated row by its entries. -/
lemma isMatrix_add (ha : a.length = count * width) (hb : b.length = width) :
    IsMatrix count width (add a b) fun i j => Scalar.add (entry a (i * width + j)) (entry b j) :=
  ⟨(length_add a b).trans ha, fun _ hi _ hj => getElem?_add ha hb hi hj⟩

/-- **The loop computes the sum.** -/
lemma addLoop?_eq_some (ha : a.length = count * width) (hb : b.length = width) (pos : 0 < width) :
    addLoop? a b = some (add a b) := by
  have read : ∀ e ∈ a.zipIdx, (do
      let y ← b[e.2 % b.length]?
      return Scalar.add e.1 y) = some (Scalar.add e.1 (entry b (e.2 % b.length))) := by
    intro e _
    rw [getElem?_eq_entry (Nat.mod_lt _ (hb.symm ▸ pos))]
    rfl
  have added : IsMatrix count width
      (a.zipIdx.map fun e => Scalar.add e.1 (entry b (e.2 % b.length)))
        fun i j => Scalar.add (entry a (i * width + j)) (entry b j) := by
    refine ⟨by simpa using ha, fun i hi j hj => ?_⟩
    have column : (i * width + j) % width = j := by
      rw [Nat.mul_comm, Nat.mul_add_mod, Nat.mod_eq_of_lt hj]
    rw [List.getElem?_map, List.getElem?_zipIdx,
      getElem?_eq_entry (covers_of_length ha i hi j hj)]
    simp [hb, column]
  rw [addLoop?, mapM_eq_some read, added.unique (isMatrix_add ha hb)]

/-- **The loop computes the gradient of a repeated summand.** -/
lemma unbroadcastLoop?_eq_some (gradient : List F) (pos : 0 < width) :
    unbroadcastLoop? gradient width = some (unbroadcast gradient width) := by
  have added := foldOnto_eq_foldl Scalar.add (zeros width) gradient
  rw [length_zeros] at added
  rw [unbroadcast, added]
  refine (foldlM_eq_some (fun out => out.length = width) (length_zeros _) fun out sized e _ => ?_).1
  have inside : e.2 % width < out.length := sized.symm ▸ Nat.mod_lt _ pos
  exact ⟨addAt?_eq_some inside _, (length_addAt _ _ _).trans sized⟩

end Repeated

/-! ### All kernels -/

/-- **The kernels by place.** Whatever addition and multiplication are, for all sizes and operands
of the lengths that go with them, each kernel is what its loop computes, in which every access is
checked and finds its place; and the result is the matrix of the lengths that go with it, whose
entries are running sums from zero, in a fixed order. A product takes its terms in the order of the
inner indices, the gradient of the left matrix in the order of the columns, the gradient of the
right matrix in the order of the rows. A repeated row is added to every row, and its gradient takes
its terms in the order of the rows.

When the lengths of the operands are sizes, so are all places, and nothing on the way to them is too
large: both gradients have their buffers, and a product is computed exactly if the number of its
places is a size.

**Proof sketch.** A loop whose steps keep the lengths of its buffers does not fail, and its nested
form is one pass along its visits. What the pass leaves at a place depends only on the visits that
reach the place, and these come by in the order of the one index that the place leaves open,
wherever the loop over that index stands. -/
theorem kernels_by_place (F : Type) [Scalar F] :
    (∀ (size : MatrixSize) (a b : List F), a.length = size.rows * size.inner →
      b.length = size.inner * size.columns →
        matmulInto? .exact size a b (zeros (size.rows * size.columns)) =
          some (matmul size a b) ∧
        (a.length < Size.limit → b.length < Size.limit → matmulLoop? size a b =
          if size.rows * size.columns < Size.limit then some (matmul size a b) else none) ∧
        IsMatrix size.rows size.columns (matmul size a b) fun i j => runningSum size.inner fun p =>
          Scalar.mul (entry a (i * size.inner + p)) (entry b (p * size.columns + j))) ∧
    (∀ (size : MatrixSize) (a b gradient : List F), a.length = size.rows * size.inner →
      b.length = size.inner * size.columns → gradient.length = size.rows * size.columns →
        gradientsInto? .exact size a b gradient
            (zeros (size.rows * size.inner), zeros (size.inner * size.columns)) =
          some (matmulLeft size b gradient, matmulRight size a gradient) ∧
        (a.length < Size.limit → b.length < Size.limit → gradient.length < Size.limit →
          gradientsLoop? size a b gradient =
            some (matmulLeft size b gradient, matmulRight size a gradient)) ∧
        IsMatrix size.rows size.inner (matmulLeft size b gradient) (fun i p =>
          runningSum size.columns fun j => Scalar.mul (entry gradient (i * size.columns + j))
            (entry b (p * size.columns + j))) ∧
        IsMatrix size.inner size.columns (matmulRight size a gradient) fun p j =>
          runningSum size.rows fun i => Scalar.mul (entry a (i * size.inner + p))
            (entry gradient (i * size.columns + j))) ∧
    (∀ (count width : Nat) (a b : List F), 0 < width → a.length = count * width →
      b.length = width →
        addLoop? a b = some (add a b) ∧
        IsMatrix count width (add a b) fun i j =>
          Scalar.add (entry a (i * width + j)) (entry b j)) ∧
    ∀ (count width : Nat) (gradient : List F), 0 < width → gradient.length = count * width →
        unbroadcastLoop? gradient width = some (unbroadcast gradient width) ∧
        (unbroadcast gradient width).length = width ∧
        ∀ j < width, (unbroadcast gradient width)[j]? =
          some (runningSum count fun i => entry gradient (i * width + j)) := by
  refine ⟨fun size a b ha hb => ?_, fun size a b gradient ha hb hg => ?_,
    fun count width a b pos ha hb => ?_, fun count width gradient pos hg => ?_⟩
  · exact ⟨matmulInto?_eq_some (Places.exact_finds _ _) (Places.exact_finds _ _)
      (Places.exact_finds _ _) ha hb, matmulLoop?_eq ha hb, isMatrix_matmul ha hb⟩
  · exact ⟨gradientsInto?_eq_some (Places.exact_finds _ _) (Places.exact_finds _ _)
      (Places.exact_finds _ _) ha hb hg, gradientsLoop?_eq_some ha hb hg,
      isMatrix_matmulLeft hb hg, isMatrix_matmulRight ha hg⟩
  · exact ⟨addLoop?_eq_some ha hb pos, isMatrix_add ha hb⟩
  · exact ⟨unbroadcastLoop?_eq_some gradient pos, length_unbroadcast gradient width,
      fun j hj => getElem?_unbroadcast hg hj⟩

/-- A product, the gradients of one, and a row that is repeated and folded back. -/
theorem kernels_by_place_sample :
    matmul ⟨2, 2, 1⟩ ([1, 2, 3, 4].map Single.ofNat) ([5, 6].map Single.ofNat) =
      [17, 39].map Single.ofNat ∧
    (matmulLeft ⟨1, 2, 1⟩ ([3, 4].map Single.ofNat) ([1].map Single.ofNat),
      matmulRight ⟨1, 2, 1⟩ ([1, 2].map Single.ofNat) ([1].map Single.ofNat)) =
        ([3, 4].map Single.ofNat, [1, 2].map Single.ofNat) ∧
    add ([1, 2, 3, 4].map Single.ofNat) ([10, 20].map Single.ofNat) =
      [11, 22, 13, 24].map Single.ofNat ∧
    unbroadcast ([1, 1, 1, 1].map Single.ofNat) 2 = [2, 2].map Single.ofNat := by
  obtain ⟨products, gradients, sum, folded⟩ := kernels_by_place Single
  have product := (products ⟨2, 2, 1⟩ ([1, 2, 3, 4].map Single.ofNat) ([5, 6].map Single.ofNat)
    rfl rfl).2.1 (by decide) (by decide)
  rw [if_pos (by decide)] at product
  have both := (gradients ⟨1, 2, 1⟩ ([1, 2].map Single.ofNat) ([3, 4].map Single.ofNat)
    ([1].map Single.ofNat) rfl rfl rfl).2.1 (by decide) (by decide) (by decide)
  refine ⟨Option.some.inj (product.symm.trans ?_), Option.some.inj (both.symm.trans ?_),
    Option.some.inj ((sum 2 2 _ _ (by decide) rfl rfl).1.symm.trans ?_),
    Option.some.inj ((folded 2 2 _ (by decide) rfl).1.symm.trans ?_)⟩
  -- The loops are evaluated, with every access checked.
  all_goals decide

end Microbatch.Kernel
