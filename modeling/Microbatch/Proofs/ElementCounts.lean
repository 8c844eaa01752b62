import Mathlib.Algebra.BigOperators.Ring.List
import Mathlib.Data.List.TakeWhile
import Microbatch.Proofs.Shapes

set_option relaxedAutoImplicit false
set_option autoImplicit false

/-!
# When element counts are exact

Elements are counted from the leading dimension on, and a count is given up as soon as it is no
size. Up to the first zero the counts do not fall, and from there on they are zero; so the shapes
whose elements are counted are those with few enough elements in front of the first zero. Without a
zero these are the shapes with few enough elements. A zero behind too many elements is not reached:
such a shape has no element and no count, and with its dimensions in another order it has one.

## Main definitions

* `Microbatch.Size.ofNat?` — a number as a size.
* `Microbatch.Shape.HidesZero` — a zero dimension behind too many elements.

## Main results

* `Microbatch.Shape.count?_eq_ite` — which shapes are counted.
* `Microbatch.Shape.exact_unless_hidden` — the count and the payload size of every shape.
* `Microbatch.Shape.exists_hidden_zero` — a shape without elements that has no count.
-/

namespace Microbatch

namespace Size

/-- **A number as a size**, if it is one. -/
def ofNat? (n : Nat) : Option Nat := if n < limit then some n else none

/-- What is in front of the first zero has a positive product. -/
lemma prod_takeWhile_pos (dims : List Nat) : 0 < (dims.takeWhile (· ≠ 0)).prod :=
  Nat.pos_of_ne_zero (List.prod_ne_zero fun zero => by simpa using List.mem_takeWhile_imp zero)

/-- A product that starts from zero stays zero. -/
lemma foldlM_mul?_zero (dims : List Nat) : dims.foldlM mul? 0 = some 0 := by
  induction dims with
  | nil => rfl
  | cons d rest ih =>
    rw [List.foldlM_cons, mul?_of_lt (by rw [Nat.zero_mul]; decide), Nat.zero_mul,
      Option.bind_eq_bind, Option.bind_some, ih]

/-- **A checked product from a positive start** is given up exactly if the product up to the first
zero is no size.

**Proof sketch.** Induction on the factors. A zero ends the checks, since from there on all products
are zero. In front of it no product is above the last one. -/
lemma foldlM_mul?_eq_ite {a : Nat} (pos : 0 < a) (fits : a < limit) (dims : List Nat) :
    dims.foldlM mul? a =
      if a * (dims.takeWhile (· ≠ 0)).prod < limit then some (a * dims.prod) else none := by
  induction dims generalizing a with
  | nil => simp [fits]
  | cons d rest ih =>
    rw [List.foldlM_cons, Option.bind_eq_bind]
    rcases Nat.eq_zero_or_pos d with rfl | factor
    · rw [mul?_of_lt (by rw [Nat.mul_zero]; decide), Nat.mul_zero, Option.bind_some,
        foldlM_mul?_zero]
      simp [fits]
    · have next : (d :: rest).takeWhile (· ≠ 0) = d :: rest.takeWhile (· ≠ 0) := by
        simp [Nat.ne_of_gt factor]
      rw [next, List.prod_cons, List.prod_cons, ← Nat.mul_assoc, ← Nat.mul_assoc]
      rcases Nat.lt_or_ge (a * d) limit with below | above
      · rw [mul?_of_lt below, Option.bind_some, ih (Nat.mul_pos pos factor) below]
      · have later : limit ≤ a * d * (rest.takeWhile (· ≠ 0)).prod :=
          Nat.le_trans above (Nat.le_mul_of_pos_right _ (prod_takeWhile_pos rest))
        rw [mul?, if_neg (Nat.not_lt.2 above), if_neg (Nat.not_lt.2 later), Option.bind_none]

end Size

namespace Shape

variable {s s' : Shape}

/-- **A zero dimension behind too many elements**: the dimensions in front of the first zero have a
product that is no size. -/
structure HidesZero (s : Shape) : Prop where
  /-- A dimension is zero. -/
  zero : 0 ∈ s.dims
  /-- In front of the first zero there are too many elements. -/
  before : Size.limit ≤ (s.dims.takeWhile (· ≠ 0)).prod

instance (s : Shape) : Decidable s.HidesZero :=
  decidable_of_iff (0 ∈ s.dims ∧ Size.limit ≤ (s.dims.takeWhile (· ≠ 0)).prod)
    ⟨fun h => ⟨h.1, h.2⟩, fun h => ⟨h.zero, h.before⟩⟩

/-- **Elements are counted** exactly if the dimensions in front of the first zero have a product
that is a size, and then they are the product of all dimensions. -/
lemma count?_eq_ite (s : Shape) :
    s.count? = if (s.dims.takeWhile (· ≠ 0)).prod < Size.limit then some s.dims.prod else none := by
  have counted := Size.foldlM_mul?_eq_ite Nat.one_pos (show 1 < Size.limit by decide) s.dims
  simpa only [count?, Nat.one_mul] using counted

/-- Without a zero all dimensions are in front of the first one. -/
lemma takeWhile_eq_dims (nonzero : 0 ∉ s.dims) : s.dims.takeWhile (· ≠ 0) = s.dims := by
  refine List.takeWhile_eq_self_iff.2 fun d member => decide_eq_true ?_
  rintro rfl
  exact nonzero member

/-- **Where a zero is hidden there is no count.** -/
lemma HidesZero.count?_eq_none (hidden : s.HidesZero) : s.count? = none := by
  rw [count?_eq_ite, if_neg (Nat.not_lt.2 hidden.before)]

/-- **Where no zero is hidden** the count is exact. -/
lemma count?_of_not_hidesZero (open_zeros : ¬ s.HidesZero) :
    s.count? = Size.ofNat? s.dims.prod := by
  rw [count?_eq_ite]
  by_cases zero : 0 ∈ s.dims
  · have few : (s.dims.takeWhile (· ≠ 0)).prod < Size.limit :=
      Nat.lt_of_not_le fun many => open_zeros ⟨zero, many⟩
    rw [if_pos few, List.prod_eq_zero zero]
    rfl
  · rw [takeWhile_eq_dims zero]
    rfl

/-- Dimensions with the zero in front hide no zero. -/
lemma not_hidesZero_cons_zero (rest : List Nat) : ¬ (⟨0 :: rest⟩ : Shape).HidesZero := by
  rintro ⟨-, before⟩
  exact absurd before (by simp [Size.limit])

end Shape

/-- The payload size of a description whose shape hides no zero is exact. -/
lemma TensorInfo.byteCount?_of_not_hidesZero {info : TensorInfo}
    (open_zeros : ¬ info.shape.HidesZero) :
    info.byteCount? = Size.ofNat? (info.shape.dims.prod * info.elementType.byteSize) := by
  rw [byteCount?, Shape.count?_of_not_hidesZero open_zeros, Size.ofNat?]
  split
  · rfl
  · rename_i many
    have more : ¬ info.shape.dims.prod * info.elementType.byteSize < Size.limit := by
      have := Nat.le_mul_of_pos_right info.shape.dims.prod info.elementType.byteSize_pos
      omega
    rw [Size.ofNat?, if_neg more, Option.bind_none]

namespace Shape

/-- **Counts and payload sizes are exact unless a zero is hidden.** Take any shape. If it hides a
zero, so that it has no element, it has no count and with no element type a payload size. If it
hides none, its count is the product of its dimensions if that is a size, and its payload size is
the number of bytes if that is a size. So every shape without a zero dimension is counted exactly;
one with a zero dimension has the count zero exactly if the zero is not hidden; shapes that hide
none are counted alike in any order of their dimensions; and one that hides a zero is counted as
zero in another order.

**Proof sketch.** The count goes from the leading dimension on. Up to the first zero the partial
products do not fall, so that the last of them decides; from there on they are zero. -/
theorem exact_unless_hidden (s : Shape) :
    (s.count? = if s.HidesZero then none else Size.ofNat? s.dims.prod) ∧
    (∀ t, (⟨t, s⟩ : TensorInfo).byteCount? =
      if s.HidesZero then none else Size.ofNat? (s.dims.prod * t.byteSize)) ∧
    (s.count? = Size.ofNat? s.dims.prod ↔ ¬ s.HidesZero) ∧
    (0 ∉ s.dims → ¬ s.HidesZero) ∧
    (0 ∈ s.dims → (s.count? = some 0 ↔ ¬ s.HidesZero)) ∧
    (∀ s' : Shape, s'.dims.Perm s.dims → ¬ s.HidesZero → ¬ s'.HidesZero → s'.count? = s.count?) ∧
    (s.HidesZero → ∃ s' : Shape, s'.dims.Perm s.dims ∧ s'.count? = some 0) := by
  have zero_exact : 0 ∈ s.dims → Size.ofNat? s.dims.prod = some 0 := fun zero => by
    rw [List.prod_eq_zero zero]
    rfl
  have exact_iff : s.count? = Size.ofNat? s.dims.prod ↔ ¬ s.HidesZero := by
    refine ⟨fun exact hidden => ?_, count?_of_not_hidesZero⟩
    rw [hidden.count?_eq_none, zero_exact hidden.zero] at exact
    cases exact
  refine ⟨?_, fun t => ?_, exact_iff, fun nonzero hidden => nonzero hidden.zero, fun zero => ?_,
    fun s' same shown shown' => ?_, fun hidden => ?_⟩
  · split
    · rename_i hidden
      exact hidden.count?_eq_none
    · rename_i shown
      exact count?_of_not_hidesZero shown
  · split
    · rename_i hidden
      rw [TensorInfo.byteCount?, hidden.count?_eq_none, Option.bind_none]
    · rename_i shown
      exact TensorInfo.byteCount?_of_not_hidesZero shown
  · rw [← zero_exact zero, exact_iff]
  · rw [count?_of_not_hidesZero shown, count?_of_not_hidesZero shown', same.prod_eq]
  · refine ⟨⟨0 :: s.dims.erase 0⟩, (List.perm_cons_erase hidden.zero).symm, ?_⟩
    rw [count?_of_not_hidesZero (not_hidesZero_cons_zero _), List.prod_cons, Nat.zero_mul]
    rfl

/-- **Zeros that are not hidden**: of two shapes with the same dimensions, a zero among them, both
are counted as zero although a product of the others is no size. -/
theorem exact_unless_hidden_sample :
    (⟨[2 ^ 40, 0, 2 ^ 40]⟩ : Shape).dims.Perm [0, 2 ^ 40, 2 ^ 40] ∧
    ¬ (⟨[2 ^ 40, 0, 2 ^ 40]⟩ : Shape).HidesZero ∧ ¬ (⟨[0, 2 ^ 40, 2 ^ 40]⟩ : Shape).HidesZero ∧
    (⟨[2 ^ 40, 0, 2 ^ 40]⟩ : Shape).count? = (⟨[0, 2 ^ 40, 2 ^ 40]⟩ : Shape).count? ∧
    (⟨[0, 2 ^ 40, 2 ^ 40]⟩ : Shape).count? = some 0 := by
  have zero : 0 ∈ (⟨[0, 2 ^ 40, 2 ^ 40]⟩ : Shape).dims := by decide
  have counted : (⟨[0, 2 ^ 40, 2 ^ 40]⟩ : Shape).count? = some 0 := by decide
  obtain ⟨-, -, -, -, zero_iff, alike, -⟩ := exact_unless_hidden ⟨[0, 2 ^ 40, 2 ^ 40]⟩
  have shown := (zero_iff zero).1 counted
  have shown' : ¬ (⟨[2 ^ 40, 0, 2 ^ 40]⟩ : Shape).HidesZero := fun hidden =>
    absurd hidden.before (by decide)
  have same : (⟨[2 ^ 40, 0, 2 ^ 40]⟩ : Shape).dims.Perm [0, 2 ^ 40, 2 ^ 40] := by decide
  exact ⟨same, shown', shown, alike _ same shown shown', counted⟩

/-- **A shape without elements that has no count.** All its dimensions are sizes, and so is their
product, which is zero. It has neither a count nor a payload size; both are zero as soon as the zero
comes first. -/
theorem exists_hidden_zero : ∃ s s' : Shape, s.dims = [2 ^ 32, 2 ^ 32, 0] ∧
    s'.dims = [0, 2 ^ 32, 2 ^ 32] ∧ s'.dims.Perm s.dims ∧ (∀ d ∈ s.dims, d < Size.limit) ∧
    Size.ofNat? s.dims.prod = some 0 ∧ s.count? = none ∧ s'.count? = some 0 ∧
    ∀ t, (⟨t, s⟩ : TensorInfo).byteCount? = none ∧ (⟨t, s'⟩ : TensorInfo).byteCount? = some 0 := by
  refine ⟨⟨[2 ^ 32, 2 ^ 32, 0]⟩, ⟨[0, 2 ^ 32, 2 ^ 32]⟩, rfl, rfl, by decide, by decide, by decide,
    by decide, by decide, fun t => ?_⟩
  cases t <;> decide

end Shape

end Microbatch
