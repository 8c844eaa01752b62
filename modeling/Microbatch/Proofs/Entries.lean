import Microbatch.Proofs.Kernels
import Microbatch.Proofs.Lanes

set_option relaxedAutoImplicit false
set_option autoImplicit false

/-!
# Entries of what kernels compute

The kernels go through their operands row by row. What they leave at one place is a running sum
that starts from zero and takes its terms in a fixed order, whatever addition and multiplication
are. The place in row `i` and column `j` of a matrix with `m` columns is `i * m + j`.

## Main definitions

* `Microbatch.Kernel.entry` — the element at a place of a list, zero behind its end.
* `Microbatch.Kernel.runningSum` — terms added up from zero, in order.

## Main results

* `Microbatch.Kernel.getElem?_matmul`, `Microbatch.Kernel.getElem?_matmulLeft`,
  `Microbatch.Kernel.getElem?_matmulRight` — the entries of a product and of the gradients of its
  operands.
* `Microbatch.Kernel.getElem?_add`, `Microbatch.Kernel.getElem?_unbroadcast` — the entries of a
  sum with a repeated row, and of the gradient of that row.
-/

namespace Microbatch

universe u

/-! ### Lists by their places -/

/-- A place of a matrix is one in a row. -/
lemma exists_place {height width q : Nat} (h : q < height * width) :
    ∃ i < height, ∃ j < width, q = i * width + j := by
  have pos : 0 < width := by
    rcases Nat.eq_zero_or_pos width with rfl | pos
    · exact absurd h (by simp)
    · exact pos
  refine ⟨q / width, (Nat.div_lt_iff_lt_mul pos).2 h, q % width, Nat.mod_lt q pos, ?_⟩
  rw [Nat.mul_comm]
  exact (Nat.div_add_mod q width).symm

section Places

variable {α β : Type u}

/-- Parts of one size that are put together keep their places. -/
lemma getElem?_flatMap_parts {size : Nat} {xs : List α} {f : α → List β}
    (h : ∀ x ∈ xs, (f x).length = size) {j : Nat} (hj : j < size) (i : Nat) :
    (xs.flatMap f)[i * size + j]? = xs[i]?.bind fun x => (f x)[j]? := by
  induction xs generalizing i with
  | nil => simp
  | cons x xs ih =>
    obtain ⟨first, others⟩ := List.forall_mem_cons.1 h
    rw [List.flatMap_cons]
    cases i with
    | zero =>
      rw [Nat.zero_mul, Nat.zero_add, List.getElem?_append_left (by omega)]
      rfl
    | succ i =>
      have behind : (i + 1) * size + j = size + (i * size + j) := by ring
      rw [behind, List.getElem?_append_right (by omega), first, Nat.add_sub_cancel_left, ih others]
      rfl

/-- A place in one of the rows of a list. -/
lemma getElem?_row {width : Nat} (xs : List α) (start : Nat) {j : Nat} (hj : j < width) :
    ((xs.drop start).take width)[j]? = xs[start + j]? := by
  rw [List.getElem?_take_of_lt hj, List.getElem?_drop]

/-- The rows of a list by their starts. -/
lemma rows_eq_map (count width : Nat) (xs : List α) :
    rows count width xs = (List.range count).map fun i => (xs.drop (i * width)).take width := by
  refine List.ext_getElem? fun i => ?_
  by_cases inside : i < count
  · rw [getElem?_rows xs inside]
    simp [inside]
  · rw [List.getElem?_eq_none (by rw [length_rows]; omega)]
    simp [inside]

/-- A list that is repeated, place by place. -/
lemma getElem?_cycle {xs : List α} {length i : Nat} (hi : i < length / xs.length + 1) {j : Nat}
    (hj : j < xs.length) : (cycle xs length)[i * xs.length + j]? = xs[j]? := by
  have sizes : ∀ ys ∈ List.replicate (length / xs.length + 1) xs, (id ys).length = xs.length := by
    intro ys hy
    rw [List.eq_of_mem_replicate hy]
    rfl
  have parts := getElem?_flatMap_parts sizes hj i
  rw [List.flatMap_id] at parts
  rw [cycle, parts, List.getElem?_replicate_of_lt hi]
  rfl

end Places

namespace Kernel

variable {F : Type} [Scalar F]

/-! ### Running sums -/

/-- **The element at a place** of a list; behind the end of the list it is zero. -/
def entry (xs : List F) (i : Nat) : F := xs.getD i Scalar.zero

/-- **Terms added up from zero**, the first one first. -/
def runningSum (count : Nat) (term : Nat → F) : F :=
  (List.range count).foldl (fun sum i => Scalar.add sum (term i)) Scalar.zero

/-- A place of a list has its entry. -/
lemma getElem?_eq_entry {xs : List F} {i : Nat} (h : i < xs.length) :
    xs[i]? = some (entry xs i) := by
  rw [entry, List.getD_eq_getElem?_getD, List.getElem?_eq_getElem h]
  rfl

/-- What stands at a place is its entry. -/
lemma entry_of_getElem? {xs : List F} {i : Nat} {x : F} (h : xs[i]? = some x) : entry xs i = x := by
  rw [entry, List.getD_eq_getElem?_getD, h]
  rfl

/-- A list is the list of its entries. -/
lemma eq_map_entry {xs : List F} {count : Nat} (h : xs.length = count) :
    xs = (List.range count).map (entry xs) := by
  refine List.ext_getElem? fun i => ?_
  by_cases inside : i < count
  · rw [getElem?_eq_entry (h ▸ inside)]
    simp [inside]
  · simp [inside, List.getElem?_eq_none (h ▸ Nat.le_of_not_lt inside)]

/-- A row of a list by its entries. -/
lemma row_eq_map_entry {xs : List F} {start width : Nat} (h : start + width ≤ xs.length) :
    (xs.drop start).take width = (List.range width).map fun j => entry xs (start + j) := by
  refine List.ext_getElem? fun j => ?_
  by_cases inside : j < width
  · rw [getElem?_row xs start inside, getElem?_eq_entry (by omega)]
    simp [inside]
  · simp [inside]

/-! ### Combinations -/

/-- A place of a buffer after multiples of vectors are added: the factor times the element at that
place of every vector, in order. -/
lemma getElem?_combine {count : Nat} {buffer factors : List F} {vectors : List (List F)}
    {factor : Nat → F} {vector : Nat → List F} {j : Nat} {term : Nat → F}
    (hf : factors = (List.range count).map factor)
    (hv : vectors = (List.range count).map vector)
    (ht : ∀ p < count, (vector p)[j]? = some (term p)) :
    (combine buffer factors vectors)[j]? = buffer[j]?.map fun start =>
      (List.range count).foldl (fun sum p => Scalar.add sum (Scalar.mul (factor p) (term p)))
        start := by
  have zipped : factors.zip vectors = (List.range count).map fun p => (factor p, vector p) := by
    rw [hf, hv, List.zip_map']
  rw [combine, zipped, List.foldl_map]
  have places : ∀ p ∈ List.range count, (vector p)[j]? = some (term p) :=
    fun p hp => ht p (List.mem_range.1 hp)
  generalize List.range count = positions at places
  induction positions generalizing buffer with
  | nil => simp
  | cons p rest ih =>
    obtain ⟨first, others⟩ := List.forall_mem_cons.1 places
    rw [List.foldl_cons, ih others, addMultiple, getElem?_zipOnto, Option.map_map, first]
    rfl

/-- Combinations for the rows of a matrix: in row `i` and column `j` stands the running sum over
what the vectors have at `j`, with the factors of row `i`. -/
lemma getElem?_flatMap_combine {height inner width : Nat} {xs : List F} {vectors : List (List F)}
    {vector : Nat → List F} {term : Nat → F} (hx : xs.length = height * inner)
    (hv : vectors = (List.range inner).map vector) {i j : Nat} (hi : i < height) (hj : j < width)
    (ht : ∀ p < inner, (vector p)[j]? = some (term p)) :
    ((rows height inner xs).flatMap fun row => combine (zeros width) row vectors)[i * width + j]? =
      some (runningSum inner fun p => Scalar.mul (entry xs (i * inner + p)) (term p)) := by
  have sizes : ∀ row ∈ rows height inner xs, (combine (zeros width) row vectors).length = width :=
    fun row _ => by simp
  rw [getElem?_flatMap_parts sizes hj, getElem?_rows xs hi]
  have bound : i * inner + inner ≤ xs.length := hx ▸ Size.mul_add_le_mul hi inner
  have row := row_eq_map_entry bound
  rw [Option.bind_some, getElem?_combine row hv ht]
  simp [zeros, hj, runningSum]

/-! ### Products -/

section Products

variable {size : MatrixSize}

/-- **An entry of a matrix product.** -/
lemma getElem?_matmul {a b : List F} (ha : a.length = size.rows * size.inner)
    (hb : b.length = size.inner * size.columns) {i j : Nat} (hi : i < size.rows)
    (hj : j < size.columns) :
    (matmul size a b)[i * size.columns + j]? = some (runningSum size.inner fun p =>
      Scalar.mul (entry a (i * size.inner + p)) (entry b (p * size.columns + j))) := by
  refine getElem?_flatMap_combine ha (rows_eq_map _ _ b) hi hj fun p hp => ?_
  rw [getElem?_row b _ hj, getElem?_eq_entry (covers_of_length hb p hp j hj)]

/-- A place in a column of a matrix. -/
lemma getElem?_column {height width : Nat} {xs : List F} (hx : xs.length = height * width)
    {i j : Nat} (hi : i < height) (hj : j < width) :
    ((rows height width xs).filterMap (·[j]?))[i]? = some (entry xs (i * width + j)) := by
  have chosen : (rows height width xs).filterMap (·[j]?) =
      (List.range height).map fun i => entry xs (i * width + j) := by
    rw [rows_eq_map, List.filterMap_map, ← List.filterMap_eq_map]
    refine List.filterMap_congr fun i hi => ?_
    have inside := covers_of_length hx i (List.mem_range.1 hi) j hj
    rw [Function.comp_apply, getElem?_row xs _ hj, getElem?_eq_entry (inside)]
    rfl
  rw [chosen]
  simp [hi]

omit [Scalar F] in
/-- The columns of a matrix by their places. -/
lemma columns_rows_eq_map {height width : Nat} {xs : List F} (hx : xs.length = height * width) :
    columns width (rows height width xs) =
      (List.range width).map fun j => (rows height width xs).filterMap (·[j]?) := by
  have widths : ∀ r ∈ rows height width xs, r.length = width := by
    intro r hr
    rw [rows_eq_map] at hr
    obtain ⟨i, hi, rfl⟩ := List.mem_map.1 hr
    have inside := Size.mul_add_le_mul (List.mem_range.1 hi) width
    rw [List.length_take_of_le]
    rw [List.length_drop]
    omega
  refine List.ext_getElem? fun j => ?_
  by_cases inside : j < width
  · rw [getElem?_columns widths inside]
    simp [inside]
  · rw [List.getElem?_eq_none (by rw [length_columns widths]; omega)]
    simp [inside]

/-- **An entry of the gradient of a left matrix.** -/
lemma getElem?_matmulLeft {b gradient : List F} (hb : b.length = size.inner * size.columns)
    (hg : gradient.length = size.rows * size.columns) {i p : Nat} (hi : i < size.rows)
    (hp : p < size.inner) :
    (matmulLeft size b gradient)[i * size.inner + p]? = some (runningSum size.columns fun j =>
      Scalar.mul (entry gradient (i * size.columns + j)) (entry b (p * size.columns + j))) :=
  getElem?_flatMap_combine hg (columns_rows_eq_map hb) hi hp fun _ hj => getElem?_column hb hp hj

/-- An entry of an outer product. -/
lemma getElem?_outer {xs ys : List F} {p j : Nat} {x y : F} (hx : xs[p]? = some x)
    (hj : j < ys.length) (hy : ys[j]? = some y) :
    (outer xs ys)[p * ys.length + j]? = some (Scalar.mul x y) := by
  have sizes : ∀ x ∈ xs, (ys.map (Scalar.mul x)).length = ys.length := fun x _ => List.length_map _
  rw [outer, getElem?_flatMap_parts sizes hj, hx, Option.bind_some, List.getElem?_map, hy]
  rfl

/-- A place of a buffer after lists are added, each with an element at that place. -/
lemma getElem?_foldl_addOnto {positions : List Nat} {source : Nat → List F} {place : Nat}
    {term : Nat → F} (ht : ∀ i ∈ positions, (source i)[place]? = some (term i)) (buffer : List F) :
    (positions.foldl (fun acc i => addOnto acc (source i)) buffer)[place]? =
      buffer[place]?.map fun start =>
        positions.foldl (fun sum i => Scalar.add sum (term i)) start := by
  induction positions generalizing buffer with
  | nil => simp
  | cons i rest ih =>
    obtain ⟨first, others⟩ := List.forall_mem_cons.1 ht
    rw [List.foldl_cons, ih others, addOnto, getElem?_zipOnto, Option.map_map, first]
    rfl

/-- **An entry of the gradient of a right matrix.** -/
lemma getElem?_matmulRight {a gradient : List F} (ha : a.length = size.rows * size.inner)
    (hg : gradient.length = size.rows * size.columns) {p j : Nat} (hp : p < size.inner)
    (hj : j < size.columns) :
    (matmulRight size a gradient)[p * size.columns + j]? = some (runningSum size.rows fun i =>
      Scalar.mul (entry a (i * size.inner + p)) (entry gradient (i * size.columns + j))) := by
  have zipped : (rows size.rows size.inner a).zip (rows size.rows size.columns gradient) =
      (List.range size.rows).map fun i => ((a.drop (i * size.inner)).take size.inner,
        (gradient.drop (i * size.columns)).take size.columns) := by
    rw [rows_eq_map, rows_eq_map, List.zip_map']
  have products : ∀ i ∈ List.range size.rows, (outer ((a.drop (i * size.inner)).take size.inner)
      ((gradient.drop (i * size.columns)).take size.columns))[p * size.columns + j]? =
        some (Scalar.mul (entry a (i * size.inner + p))
          (entry gradient (i * size.columns + j))) := by
    intro i hi
    have hi := List.mem_range.1 hi
    have width : ((gradient.drop (i * size.columns)).take size.columns).length = size.columns := by
      have inside := Size.mul_add_le_mul hi size.columns
      rw [List.length_take_of_le]
      rw [List.length_drop]
      omega
    have factor : ((a.drop (i * size.inner)).take size.inner)[p]? =
        some (entry a (i * size.inner + p)) := by
      rw [getElem?_row a _ hp, getElem?_eq_entry (covers_of_length ha i hi p hp)]
    have term : ((gradient.drop (i * size.columns)).take size.columns)[j]? =
        some (entry gradient (i * size.columns + j)) := by
      rw [getElem?_row gradient _ hj, getElem?_eq_entry (covers_of_length hg i hi j hj)]
    have product := getElem?_outer factor (width.symm ▸ hj) term
    rwa [width] at product
  have inside := covers_of_length (length_zeros (F := F) _) p hp j hj
  rw [length_zeros] at inside
  rw [matmulRight, zipped, List.foldl_map, getElem?_foldl_addOnto products]
  simp [zeros, inside, runningSum]

end Products

/-! ### Repeated rows -/

section Repeated

variable {count width : Nat}

/-- **An entry of a sum** whose second summand is one row of the first. -/
lemma getElem?_add {a b : List F} (ha : a.length = count * width) (hb : b.length = width)
    {i j : Nat} (hi : i < count) (hj : j < width) :
    (add a b)[i * width + j]? =
      some (Scalar.add (entry a (i * width + j)) (entry b j)) := by
  have some_element : ¬ b.isEmpty = true := by
    rw [List.isEmpty_iff_length_eq_zero, hb]
    omega
  have round : i < a.length / b.length + 1 := by
    rw [ha, hb, Nat.mul_div_cancel _ (Nat.lt_of_le_of_lt (Nat.zero_le j) hj)]
    omega
  have repeated := getElem?_cycle round (hb.symm ▸ hj)
  rw [hb] at repeated
  rw [add, mapCycling, if_neg some_element, List.getElem?_zipWith, repeated,
    getElem?_eq_entry (covers_of_length ha i hi j hj), getElem?_eq_entry (hb.symm ▸ hj)]

/-- **An entry of the gradient of a repeated row.** -/
lemma getElem?_unbroadcast {gradient : List F} (hg : gradient.length = count * width) {j : Nat}
    (hj : j < width) : (unbroadcast gradient width)[j]? =
      some (runningSum count fun i => entry gradient (i * width + j)) := by
  have reached : lane width j gradient =
      (List.range count).map fun i => entry gradient (i * width + j) := by
    have rows_reached : lane (1 * width) (0 * width + j) gradient =
        ((List.range count).filter fun i => i % 1 = 0).filterMap fun i =>
          gradient[i * width + j]? := lane_rows hj hg
    rw [Nat.one_mul, Nat.zero_mul, Nat.zero_add] at rows_reached
    rw [rows_reached, List.filter_eq_self.2 fun i _ => by simp [Nat.mod_one],
      ← List.filterMap_eq_map]
    refine List.filterMap_congr fun i hi => ?_
    rw [getElem?_eq_entry (covers_of_length hg i (List.mem_range.1 hi) j hj)]
    rfl
  rw [unbroadcast, getElem?_foldOnto, length_zeros, reached]
  simp [zeros, hj, runningSum, List.foldl_map]

end Repeated

end Kernel

end Microbatch
