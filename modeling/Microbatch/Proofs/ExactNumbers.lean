import Mathlib.Algebra.BigOperators.Ring.Finset
import Mathlib.Algebra.Field.Rat
import Mathlib.Algebra.Order.Ring.Rat
import Mathlib.Data.Sign.Basic
import Microbatch.Decimal.Binary
import Microbatch.Proofs.Entries

set_option relaxedAutoImplicit false
set_option autoImplicit false

/-!
# Kernels over exact numbers

The kernels can be read over the rational numbers. A running sum is then a sum, its order does not
matter, and what a kernel does to a gradient is the transpose of what it does to a change of its
operands: the two have the same inner product.

## Main definitions

* `Microbatch.Reading` — how constants in single precision are read as exact numbers;
  `Microbatch.Single.toRat` is the number that a pattern stands for.
* `Microbatch.dot` — the inner product of two lists.

## Main results

* `Microbatch.Kernel.entry_matmul` and its siblings — the entries of results as sums.
* `Microbatch.dot_matmul`, `Microbatch.dot_add`, `Microbatch.dot_relu`, `Microbatch.dot_scale` —
  what a kernel does to a gradient is the transpose of what it does to a change.
-/

namespace Microbatch

open Finset

/-! ### Exact arithmetic -/

/-- **How constants in single precision are read** as exact numbers. -/
class Reading where
  /-- The number that a constant is read as. -/
  value : Single → ℚ

/-- The number that a pattern stands for. What is no finite number is read as zero. -/
def Single.toRat (x : Single) : ℚ :=
  match BinaryFormat.single.decode x.bits.toNat with
  | .finite negative mantissa exponent =>
    (if negative then -1 else 1) * mantissa * (2 : ℚ) ^ exponent
  | _ => 0

/-- Every constant is read as the number that it stands for. -/
instance (priority := low) Reading.exact : Reading := ⟨Single.toRat⟩

/-- **Exact arithmetic.** Zero has no sign, and nothing is rounded. -/
instance exactScalar [Reading] : Scalar ℚ where
  zero := 0
  negZero := 0
  one := 1
  add x y := x + y
  sub x y := x - y
  mul x y := x * y
  div x y := x / y
  abs x := |x|
  isPositive x := 0 < x
  isNegative x := x < 0
  ofNat n := n
  ofSingle := Reading.value

/-- The inner product of two lists. -/
def dot (xs ys : List ℚ) : ℚ := (List.zipWith (· * ·) xs ys).sum

variable [Reading]

lemma scalar_zero : (Scalar.zero : ℚ) = 0 := rfl

lemma scalar_add (x y : ℚ) : Scalar.add x y = x + y := rfl

lemma scalar_mul (x y : ℚ) : Scalar.mul x y = x * y := rfl

/-- A sign of an exact number. -/
lemma scalar_sign (x : ℚ) : Scalar.sign x = SignType.sign x := by
  rcases lt_trichotomy x 0 with neg | rfl | pos
  · simp [Scalar.sign, Scalar.isPositive, Scalar.isNegative, Scalar.sub, Scalar.one, Scalar.zero,
      neg, not_lt.2 neg.le]
  · simp [Scalar.sign, Scalar.isPositive, Scalar.isNegative, Scalar.zero]
  · simp [Scalar.sign, Scalar.isPositive, Scalar.one, pos]

/-- Exact terms that are added up make their sum, in whatever order. -/
lemma foldl_add (xs : List ℚ) (start : ℚ) : xs.foldl Scalar.add start = start + xs.sum := by
  induction xs generalizing start with
  | nil => simp
  | cons x xs ih => rw [List.foldl_cons, ih, List.sum_cons, scalar_add, add_assoc]

lemma scalar_sum (xs : List ℚ) : Scalar.sum xs = xs.sum := by
  rw [Scalar.sum, foldl_add]
  exact zero_add _

/-! ### Entries as sums -/

omit [Reading] in
/-- The places of a matrix are gone through row by row. -/
lemma sum_places (height width : ℕ) (f : ℕ → ℚ) :
    ∑ q ∈ range (height * width), f q =
      ∑ i ∈ range height, ∑ j ∈ range width, f (i * width + j) := by
  induction height with
  | zero => simp
  | succ height ih => rw [Nat.succ_mul, sum_range_add, ih, sum_range_succ]

namespace Kernel

lemma runningSum_eq (count : ℕ) (term : ℕ → ℚ) :
    runningSum count term = ∑ i ∈ range count, term i := by
  induction count with
  | zero => rfl
  | succ count ih =>
    rw [runningSum, List.range_succ, List.foldl_append, sum_range_succ, ← ih]
    rfl

variable {size : MatrixSize} {count width : ℕ}

/-- An entry of a matrix product is a sum of products. -/
lemma entry_matmul {a b : List ℚ} (ha : a.length = size.rows * size.inner)
    (hb : b.length = size.inner * size.columns) {i j : ℕ} (hi : i < size.rows)
    (hj : j < size.columns) : entry (matmul size a b) (i * size.columns + j) =
      ∑ p ∈ range size.inner, entry a (i * size.inner + p) * entry b (p * size.columns + j) :=
  (entry_of_getElem? (getElem?_matmul ha hb hi hj)).trans (runningSum_eq _ _)

/-- An entry of the gradient of a left matrix. -/
lemma entry_matmulLeft {b gradient : List ℚ} (hb : b.length = size.inner * size.columns)
    (hg : gradient.length = size.rows * size.columns) {i p : ℕ} (hi : i < size.rows)
    (hp : p < size.inner) : entry (matmulLeft size b gradient) (i * size.inner + p) =
      ∑ j ∈ range size.columns,
        entry gradient (i * size.columns + j) * entry b (p * size.columns + j) :=
  (entry_of_getElem? (getElem?_matmulLeft hb hg hi hp)).trans (runningSum_eq _ _)

/-- An entry of the gradient of a right matrix. -/
lemma entry_matmulRight {a gradient : List ℚ} (ha : a.length = size.rows * size.inner)
    (hg : gradient.length = size.rows * size.columns) {p j : ℕ} (hp : p < size.inner)
    (hj : j < size.columns) : entry (matmulRight size a gradient) (p * size.columns + j) =
      ∑ i ∈ range size.rows,
        entry a (i * size.inner + p) * entry gradient (i * size.columns + j) :=
  (entry_of_getElem? (getElem?_matmulRight ha hg hp hj)).trans (runningSum_eq _ _)

/-- An entry of a sum with a repeated row. -/
lemma entry_add {a b : List ℚ} (ha : a.length = count * width) (hb : b.length = width) {i j : ℕ}
    (hi : i < count) (hj : j < width) :
    entry (add a b) (i * width + j) = entry a (i * width + j) + entry b j :=
  entry_of_getElem? (getElem?_add ha hb hi hj)

/-- An entry of the gradient of a repeated row. -/
lemma entry_unbroadcast {gradient : List ℚ} (hg : gradient.length = count * width) {j : ℕ}
    (hj : j < width) :
    entry (unbroadcast gradient width) j = ∑ i ∈ range count, entry gradient (i * width + j) :=
  (entry_of_getElem? (getElem?_unbroadcast hg hj)).trans (runningSum_eq _ _)

/-- An entry of a list that is made of two lists. -/
lemma entry_zipWith (f : ℚ → ℚ → ℚ) {xs ys : List ℚ} (h : xs.length = ys.length) {i : ℕ}
    (hi : i < xs.length) : entry (List.zipWith f xs ys) i = f (entry xs i) (entry ys i) := by
  refine entry_of_getElem? ?_
  rw [List.getElem?_zipWith, getElem?_eq_entry hi, getElem?_eq_entry (h ▸ hi)]

/-- An entry of a list that is made of another. -/
lemma entry_map (f : ℚ → ℚ) {xs : List ℚ} {i : ℕ} (hi : i < xs.length) :
    entry (xs.map f) i = f (entry xs i) := by
  refine entry_of_getElem? ?_
  rw [List.getElem?_map, getElem?_eq_entry hi]
  rfl

end Kernel

/-! ### Inner products -/

open Kernel

/-- The sum of a list by its entries. -/
lemma sum_eq_sum_entry {xs : List ℚ} {count : ℕ} (h : xs.length = count) :
    xs.sum = ∑ i ∈ range count, entry xs i := by
  conv_lhs => rw [eq_map_entry h]
  rfl

/-- **An inner product by entries.** -/
lemma dot_eq_sum {xs ys : List ℚ} {count : ℕ} (hx : xs.length = count) (hy : ys.length = count) :
    dot xs ys = ∑ i ∈ range count, entry xs i * entry ys i := by
  have length : (List.zipWith (· * ·) xs ys).length = count := by
    rw [List.length_zipWith, hx, hy, Nat.min_self]
  rw [dot, sum_eq_sum_entry length]
  refine sum_congr rfl fun i hi => ?_
  exact entry_zipWith _ (hx.trans hy.symm) (hx.symm ▸ mem_range.1 hi)

omit [Reading] in
@[simp] lemma nil_dot (ys : List ℚ) : dot [] ys = 0 := rfl

/-- Lists that are added up entry by entry. -/
lemma dot_zipWith_add {g xs ys : List ℚ} (hx : xs.length = g.length) (hy : ys.length = g.length) :
    dot g (List.zipWith (· + ·) xs ys) = dot g xs + dot g ys := by
  have both : (List.zipWith (· + ·) xs ys).length = g.length := by
    rw [List.length_zipWith, hx, hy, Nat.min_self]
  rw [dot_eq_sum rfl both, dot_eq_sum rfl hx, dot_eq_sum rfl hy, ← sum_add_distrib]
  refine sum_congr rfl fun i hi => ?_
  rw [entry_zipWith _ (hx.trans hy.symm) (hx.symm ▸ mem_range.1 hi), mul_add]

/-- **A gradient that is added to the gradient so far.** -/
lemma dot_accumulate {sofar g d : List ℚ} (hg : g.length = d.length)
    (first : sofar = [] ∨ sofar.length = d.length) :
    dot (accumulate sofar g) d = dot sofar d + dot g d := by
  unfold accumulate
  split
  · rename_i empty
    rw [List.isEmpty_iff.1 empty, nil_dot, zero_add]
  · rename_i some_element
    have hs : sofar.length = d.length := by
      rcases first with rfl | first
      · exact absurd rfl some_element
      · exact first
    have length : (addOnto sofar g).length = d.length := (length_addOnto _ _).trans hs
    rw [dot_eq_sum length rfl, dot_eq_sum hs rfl, dot_eq_sum hg rfl, ← sum_add_distrib]
    refine sum_congr rfl fun i hi => ?_
    have inside := mem_range.1 hi
    have place : entry (addOnto sofar g) i = entry sofar i + entry g i := by
      have here : sofar[i]? = some (entry sofar i) := getElem?_eq_entry (hs ▸ inside)
      have added : g[i]? = some (entry g i) := getElem?_eq_entry (hg ▸ inside)
      refine entry_of_getElem? ?_
      rw [addOnto, getElem?_zipOnto, here, added]
      rfl
    rw [place, add_mul]

/-! ### Transposes -/

section Products

variable {size : MatrixSize} {a b da db g : List ℚ}

/-- A change of the left matrix, seen through the product. -/
lemma dot_matmul_left (hb : b.length = size.inner * size.columns)
    (hda : da.length = size.rows * size.inner) (hg : g.length = size.rows * size.columns) :
    dot g (matmul size da b) = dot (matmulLeft size b g) da := by
  rw [dot_eq_sum hg (length_matmul size da b), dot_eq_sum (length_matmulLeft size b g) hda,
    sum_places, sum_places]
  refine sum_congr rfl fun i hi => ?_
  have hi := mem_range.1 hi
  calc ∑ j ∈ range size.columns, entry g (i * size.columns + j) *
        entry (matmul size da b) (i * size.columns + j)
      = ∑ j ∈ range size.columns, ∑ p ∈ range size.inner, entry g (i * size.columns + j) *
          (entry da (i * size.inner + p) * entry b (p * size.columns + j)) :=
        sum_congr rfl fun j hj => by rw [entry_matmul hda hb hi (mem_range.1 hj), mul_sum]
    _ = ∑ p ∈ range size.inner, ∑ j ∈ range size.columns, entry g (i * size.columns + j) *
          (entry da (i * size.inner + p) * entry b (p * size.columns + j)) := sum_comm
    _ = ∑ p ∈ range size.inner,
          entry (matmulLeft size b g) (i * size.inner + p) * entry da (i * size.inner + p) := by
        refine sum_congr rfl fun p hp => ?_
        rw [entry_matmulLeft hb hg hi (mem_range.1 hp), sum_mul]
        exact sum_congr rfl fun j _ => by ring

/-- A change of the right matrix, seen through the product. -/
lemma dot_matmul_right (ha : a.length = size.rows * size.inner)
    (hdb : db.length = size.inner * size.columns) (hg : g.length = size.rows * size.columns) :
    dot g (matmul size a db) = dot (matmulRight size a g) db := by
  rw [dot_eq_sum hg (length_matmul size a db), dot_eq_sum (length_matmulRight size a g) hdb,
    sum_places, sum_places]
  calc ∑ i ∈ range size.rows, ∑ j ∈ range size.columns, entry g (i * size.columns + j) *
        entry (matmul size a db) (i * size.columns + j)
      = ∑ i ∈ range size.rows, ∑ p ∈ range size.inner, ∑ j ∈ range size.columns,
          entry g (i * size.columns + j) *
            (entry a (i * size.inner + p) * entry db (p * size.columns + j)) := by
        refine sum_congr rfl fun i hi => ?_
        rw [sum_comm]
        refine sum_congr rfl fun j hj => ?_
        rw [entry_matmul ha hdb (mem_range.1 hi) (mem_range.1 hj), mul_sum]
    _ = ∑ p ∈ range size.inner, ∑ j ∈ range size.columns, ∑ i ∈ range size.rows,
          entry g (i * size.columns + j) *
            (entry a (i * size.inner + p) * entry db (p * size.columns + j)) := by
        rw [sum_comm]
        exact sum_congr rfl fun p _ => sum_comm
    _ = ∑ p ∈ range size.inner, ∑ j ∈ range size.columns,
          entry (matmulRight size a g) (p * size.columns + j) *
            entry db (p * size.columns + j) := by
        refine sum_congr rfl fun p hp => sum_congr rfl fun j hj => ?_
        rw [entry_matmulRight ha hg (mem_range.1 hp) (mem_range.1 hj), sum_mul]
        exact sum_congr rfl fun i _ => by ring

/-- **The gradients of a product are transposes of the product rule.** -/
lemma dot_matmul (ha : a.length = size.rows * size.inner)
    (hb : b.length = size.inner * size.columns) (hda : da.length = size.rows * size.inner)
    (hdb : db.length = size.inner * size.columns) (hg : g.length = size.rows * size.columns) :
    dot g (List.zipWith (· + ·) (matmul size da b) (matmul size a db)) =
      dot (matmulLeft size b g) da + dot (matmulRight size a g) db := by
  rw [dot_zipWith_add ((length_matmul size da b).trans hg.symm)
    ((length_matmul size a db).trans hg.symm), dot_matmul_left hb hda hg,
    dot_matmul_right ha hdb hg]

end Products

/-- **The gradients of a sum** with a repeated row are transposes of the sum. -/
lemma dot_add {count width : ℕ} {da db g : List ℚ} (hda : da.length = count * width)
    (hdb : db.length = width) (hg : g.length = count * width) :
    dot g (add da db) = dot g da + dot (unbroadcast g width) db := by
  rw [dot_eq_sum hg ((length_add da db).trans hda), dot_eq_sum hg hda,
    dot_eq_sum (length_unbroadcast g width) hdb, sum_places, sum_places]
  calc ∑ i ∈ range count, ∑ j ∈ range width,
        entry g (i * width + j) * entry (add da db) (i * width + j)
      = ∑ i ∈ range count, ∑ j ∈ range width,
          (entry g (i * width + j) * entry da (i * width + j) +
            entry g (i * width + j) * entry db j) := by
        refine sum_congr rfl fun i hi => sum_congr rfl fun j hj => ?_
        rw [entry_add hda hdb (mem_range.1 hi) (mem_range.1 hj), mul_add]
    _ = (∑ i ∈ range count, ∑ j ∈ range width,
          entry g (i * width + j) * entry da (i * width + j)) +
        ∑ j ∈ range width, ∑ i ∈ range count, entry g (i * width + j) * entry db j := by
        simp only [sum_add_distrib]
        rw [sum_comm (f := fun i j => entry g (i * width + j) * entry db j)]
    _ = _ := by
        congr 1
        refine sum_congr rfl fun j hj => ?_
        rw [entry_unbroadcast hg (mem_range.1 hj), sum_mul]

/-- **The gradient of what is above zero** is masked as a change is. -/
lemma dot_relu {xs d g : List ℚ} (hx : xs.length = g.length) (hd : d.length = g.length) :
    dot g (List.zipWith (fun x e => if 0 < x then e else 0) xs d) = dot (reluGradient xs g) d := by
  have changed : (List.zipWith (fun x e : ℚ => if 0 < x then e else 0) xs d).length = g.length := by
    rw [List.length_zipWith, hx, hd, Nat.min_self]
  have handed : (reluGradient xs g).length = g.length := by
    rw [length_reluGradient, hx, Nat.min_self]
  rw [dot_eq_sum rfl changed, dot_eq_sum handed hd]
  refine sum_congr rfl fun i hi => ?_
  have inside : i < xs.length := hx.symm ▸ mem_range.1 hi
  have handed_entry : entry (reluGradient xs g) i = if 0 < entry xs i then entry g i else 0 := by
    rw [reluGradient, entry_zipWith _ hx inside]
    simp [Scalar.isPositive, scalar_zero]
  rw [entry_zipWith _ (hx.trans hd.symm) inside, handed_entry]
  split <;> simp

/-- **The gradient of a multiple** is multiplied as a change is. -/
lemma dot_scale {d g : List ℚ} (factor : ℚ) (hd : d.length = g.length) :
    dot g (d.map (· * factor)) = dot (scale factor g) d := by
  rw [dot_eq_sum rfl ((List.length_map _).trans hd), dot_eq_sum (length_scale factor g) hd]
  refine sum_congr rfl fun i hi => ?_
  have inside := mem_range.1 hi
  rw [entry_map _ (hd.symm ▸ inside), scale, entry_map _ inside, scalar_mul]
  ring

end Microbatch
