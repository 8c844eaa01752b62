import Mathlib.Algebra.BigOperators.Group.List.Basic
import Mathlib.Tactic.Ring
import Microbatch.Program.Kernel
import Microbatch.Size

set_option relaxedAutoImplicit false
set_option autoImplicit false

/-!
# Sizes of what kernels compute

A kernel goes through its operands place by place. The places that it reaches are there when the
operands have the sizes that go with the kernel, and its result then has the size that goes with
it, whatever the numbers are.

## Main definitions

* `Microbatch.Kernel.Covers` — a list has all places of a matrix.
* `Microbatch.Kernel.Cycles` — a number of places finds its remainders in a list.

## Main results

* `Microbatch.Kernel.covers_of_length` — a list of the size of a matrix has all its places.
* `Microbatch.Kernel.length_matmul`, `Microbatch.Kernel.length_matmulLeft`,
  `Microbatch.Kernel.length_matmulRight`, `Microbatch.Kernel.length_add`,
  `Microbatch.Kernel.length_unbroadcast`, `Microbatch.Kernel.length_accumulate` — the sizes of
  results.
-/

namespace Microbatch

/-! ### Cyclic repetitions -/

section Cycles

universe u

variable {α : Type u}

/-- A list that is repeated is long enough, unless it is empty. -/
lemma length_le_length_cycle {xs : List α} (some_element : xs ≠ []) (length : Nat) :
    length ≤ (cycle xs length).length := by
  have pos : 0 < xs.length := List.length_pos_iff.2 some_element
  have repeated : (cycle xs length).length = (length / xs.length + 1) * xs.length := by
    rw [cycle, List.length_flatten, List.map_replicate, List.sum_replicate_nat]
  rw [repeated, Nat.succ_mul]
  have rounds := Nat.div_add_mod length xs.length
  have rest := Nat.mod_lt length pos
  rw [Nat.mul_comm] at rounds
  omega

/-- A list keeps its length when it is combined with a repetition. -/
lemma length_mapCycling (f : α → α → α) (repeated xs : List α) :
    (mapCycling f repeated xs).length = xs.length := by
  unfold mapCycling
  split
  · rfl
  · rename_i some_element
    have enough := length_le_length_cycle (by simpa using some_element) xs.length
    rw [List.length_zipWith, Nat.min_eq_left enough]

end Cycles

namespace Kernel

variable {F : Type}

/-! ### Places -/

/-- **A list has all places of a matrix** that is stored in it row by row. -/
def Covers (rows columns : Nat) (xs : List F) : Prop :=
  ∀ i < rows, ∀ j < columns, i * columns + j < xs.length

/-- **Some number of places finds its remainders in a list** of some length: the remainders are
defined, and they are places of the list. -/
def Cycles (count length : Nat) : Prop :=
  ∀ i < count, length ≠ 0 ∧ i % length < length

/-- A list of the size of a matrix has all its places. -/
lemma covers_of_length {rows columns : Nat} {xs : List F} (h : xs.length = rows * columns) :
    Covers rows columns xs := by
  intro i hi j hj
  rw [h]
  exact Size.place_lt hi hj

/-- A list that is not empty has all remainders, and an empty one is asked for none. -/
lemma cycles_of_pos {count length : Nat} (h : 0 < count → 0 < length) : Cycles count length := by
  intro i hi
  have pos := h (Nat.lt_of_le_of_lt (Nat.zero_le i) hi)
  exact ⟨Nat.ne_of_gt pos, Nat.mod_lt i pos⟩

/-! ### Results -/

variable [Scalar F]

@[simp] lemma length_zeros (n : Nat) : (zeros n : List F).length = n := List.length_replicate

@[simp] lemma length_addOnto (buffer source : List F) :
    (addOnto buffer source).length = buffer.length :=
  length_zipOnto _ _ _

/-- A buffer keeps its length while multiples of vectors are added into it. -/
@[simp] lemma length_combine (buffer factors : List F) (vectors : List (List F)) :
    (combine buffer factors vectors).length = buffer.length := by
  unfold combine
  generalize factors.zip vectors = pairs
  induction pairs generalizing buffer with
  | nil => rfl
  | cons p rest ih => rw [List.foldl_cons, ih, addMultiple, length_zipOnto]

omit [Scalar F] in
/-- Rows of one length that are put together have the size of a matrix. -/
lemma length_flatMap_rows {count width size : Nat} (xs : List F) {f : List F → List F}
    (h : ∀ row, (f row).length = size) :
    ((rows count width xs).flatMap f).length = count * size := by
  have lengths : (rows count width xs).map (fun row => (f row).length) =
      List.replicate count size := by
    simp only [h, List.map_const', length_rows]
  rw [List.length_flatMap, lengths, List.sum_replicate_nat]

/-- **The size of a matrix product.** -/
@[simp] lemma length_matmul (size : MatrixSize) (a b : List F) :
    (matmul size a b).length = size.rows * size.columns :=
  length_flatMap_rows a fun row => by simp

/-- **The size of the gradient of a left matrix.** -/
@[simp] lemma length_matmulLeft (size : MatrixSize) (b gradient : List F) :
    (matmulLeft size b gradient).length = size.rows * size.inner :=
  length_flatMap_rows gradient fun row => by simp

/-- **The size of the gradient of a right matrix.** -/
@[simp] lemma length_matmulRight (size : MatrixSize) (a gradient : List F) :
    (matmulRight size a gradient).length = size.inner * size.columns := by
  have kept : ∀ (pairs : List (List F × List F)) (buffer : List F),
      (pairs.foldl (fun acc p => addOnto acc (outer p.1 p.2)) buffer).length = buffer.length := by
    intro pairs buffer
    induction pairs generalizing buffer with
    | nil => rfl
    | cons p rest ih => rw [List.foldl_cons, ih, length_addOnto]
  exact (kept _ _).trans (length_zeros _)

/-- **A sum has the size of its first summand.** -/
@[simp] lemma length_add (a b : List F) : (add a b).length = a.length :=
  length_mapCycling _ b a

/-- **The gradient of a repeated summand** has the size that is asked for. -/
@[simp] lemma length_unbroadcast (gradient : List F) (length : Nat) :
    (unbroadcast gradient length).length = length :=
  (length_foldOnto _ _ _).trans (length_zeros length)

@[simp] lemma length_relu (xs : List F) : (relu xs).length = xs.length := List.length_map _

@[simp] lemma length_reluGradient (xs gradient : List F) :
    (reluGradient xs gradient).length = min xs.length gradient.length :=
  List.length_zipWith

@[simp] lemma length_scale (factor : F) (xs : List F) : (scale factor xs).length = xs.length :=
  List.length_map _

/-- **Gradients of one size** are added up to a gradient of that size. -/
lemma length_accumulate {sofar gradient : List F} {n : Nat} (first : sofar = [] ∨ sofar.length = n)
    (next : gradient.length = n) : (accumulate sofar gradient).length = n := by
  unfold accumulate
  split
  · exact next
  · rename_i some_element
    rcases first with rfl | first
    · exact absurd rfl some_element
    · rw [length_addOnto, first]

@[simp] lemma length_descend (learningRate weightDecay : F) (weights gradient : List F) :
    (descend learningRate weightDecay weights gradient).length = weights.length :=
  length_zipOnto _ _ _

end Kernel

end Microbatch
