import Mathlib.Data.Int.Order.Basic
import Mathlib.Order.Compare
import Microbatch.Accuracy.Metric

set_option relaxedAutoImplicit false
set_option autoImplicit false

/-!
# Double-precision numbers

Errors are measured in double precision. Of its arithmetic two laws are used, that products commute
and that it does not matter for its square which way round a difference is taken; and of its order
that numbers are comparable and that what is no number is neither above nor below anything.

A double-precision number is unpacked, computed with and packed again. Packing rounds the size and
keeps the sign apart, so that numbers which differ in sign only stay so.

## Main definitions

* `Microbatch.Double.sizeOfFields` — the size that an exponent and a fraction stand for.

## Main results

* `Microbatch.Double.abs_unpack` — a pattern tells the size of its number apart from the sign.
* `Microbatch.Double.mul_comm` — products commute.
* `Microbatch.Double.square_sub_comm` — the square of a difference.
* `Microbatch.Double.le_iff_not_lt`, `Microbatch.Double.not_lt_of_isNaN` — the order.
-/

namespace Microbatch.Double

open Float.Model

/-! ### Arithmetic -/

lemma sign_mul_comm (s t : UnpackedFloat.Sign) : s * t = t * s := by
  cases s <;> cases t <;> rfl

/-- Multiplication of machine numbers commutes. -/
lemma mul_comm_unpacked (spec : Format) (x y : UnpackedFloat) :
    UnpackedFloat.mul spec x y = UnpackedFloat.mul spec y x := by
  cases x with
  | notANumber => cases y <;> rfl
  | infinity s =>
    cases y with
    | infinity t | finite t _ _ _ => exact congrArg UnpackedFloat.infinity (sign_mul_comm s t)
    | _ => rfl
  | zero s =>
    cases y with
    | zero t | finite t _ _ _ => exact congrArg UnpackedFloat.zero (sign_mul_comm s t)
    | _ => rfl
  | finite s m e _ =>
    cases y with
    | notANumber => rfl
    | infinity t => exact congrArg UnpackedFloat.infinity (sign_mul_comm s t)
    | zero t => exact congrArg UnpackedFloat.zero (sign_mul_comm s t)
    | finite t n f _ =>
      show UnpackedFloat.roundWithAccuracy spec (s * t) (m * n) (e + f) .exact =
        UnpackedFloat.roundWithAccuracy spec (t * s) (n * m) (f + e) .exact
      rw [sign_mul_comm, Nat.mul_comm, Int.add_comm]

/-- The square of a machine number is that of its size. -/
lemma mul_self_unpacked (spec : Format) (x : UnpackedFloat) :
    UnpackedFloat.mul spec x x = UnpackedFloat.mul spec x.abs x.abs := by
  have square : ∀ s : UnpackedFloat.Sign, s * s = .positive * .positive := by
    intro s
    cases s <;> rfl
  cases x with
  | notANumber => rfl
  | infinity s => exact congrArg UnpackedFloat.infinity (square s)
  | zero s => exact congrArg UnpackedFloat.zero (square s)
  | finite s m e _ =>
    exact congrArg (UnpackedFloat.roundWithAccuracy spec · (m * m) (e + e) .exact) (square s)

/-- Rounding sees no sign. -/
lemma abs_round (spec : Format) (s t : UnpackedFloat.Sign) (m : Nat) (e : Int) :
    (UnpackedFloat.round spec s m e).abs = (UnpackedFloat.round spec t m e).abs := by
  unfold UnpackedFloat.round UnpackedFloat.roundWithAccuracy
  dsimp only
  rw [apply_dite UnpackedFloat.abs, apply_dite UnpackedFloat.abs]
  rfl

lemma abs_normalize_neg (spec : Format) (m e : Int) (s : UnpackedFloat.Sign) :
    (UnpackedFloat.normalize spec (-m) e s).abs = (UnpackedFloat.normalize spec m e s).abs := by
  unfold UnpackedFloat.normalize
  rcases lt_trichotomy m 0 with h | rfl | h
  · rw [compare_lt_iff_lt.2 h, compare_gt_iff_gt.2 (show 0 < -m by omega)]
    exact abs_round _ _ _ _ _
  · rfl
  · rw [compare_gt_iff_gt.2 h, compare_lt_iff_lt.2 (show -m < 0 by omega), Int.neg_neg]
    exact abs_round _ _ _ _ _

/-- A difference has the size of the difference the other way round. -/
lemma abs_sub_unpacked (spec : Format) (x y : UnpackedFloat) :
    (UnpackedFloat.sub spec x y).abs = (UnpackedFloat.sub spec y x).abs := by
  cases x with
  | notANumber => cases y <;> rfl
  | infinity s =>
    cases y with
    | infinity t => cases s <;> cases t <;> rfl
    | _ => rfl
  | zero s =>
    cases y with
    | zero t => cases s <;> cases t <;> rfl
    | _ => rfl
  | finite s m e pos =>
    cases y with
    | finite t n f pos' =>
      unfold UnpackedFloat.sub
      dsimp only
      rw [Int.min_comm f e, ← abs_normalize_neg, Int.neg_sub]
    | _ => rfl

/-- A fraction with its leading one is not zero. -/
lemma toNat_append_pos {width : Nat} (mantissa : BitVec width) : 0 < (1#1 ++ mantissa).toNat := by
  rw [BitVec.toNat_append]
  exact Nat.lt_of_lt_of_le (Nat.two_pow_pos width) (Nat.one_shiftLeft width ▸ Nat.left_le_or)

/-- The size of the machine number with the given fields. -/
def sizeOfFields (spec : Format) (exponent : BitVec spec.exponentBits)
    (mantissa : BitVec spec.mantissaBitsWithoutImplicit) : UnpackedFloat :=
  let place : Int := exponent.toNat - (spec.exponentBias + spec.mantissaBitsWithoutImplicit)
  if exponent = -1#_ then
    if mantissa = 0#_ then .infinity .positive else .notANumber
  else if exponent = 0#_ then
    if h : mantissa = 0#_ then .zero .positive
    else .finite .positive mantissa.toNat (place + 1)
      (Nat.pos_of_ne_zero fun none => h (BitVec.eq_of_toNat_eq none))
  else .finite .positive (1#1 ++ mantissa).toNat place (toNat_append_pos mantissa)

/-- **The size of a machine number** is told by the exponent and the fraction of its pattern. -/
lemma abs_unpack (spec : Format) (b : BitVec spec.numBits) : (UnpackedFloat.unpack spec b).abs =
    sizeOfFields spec (UnpackedFloat.unpackExponent b) (UnpackedFloat.unpackMantissa b) := by
  unfold UnpackedFloat.unpack sizeOfFields
  dsimp only
  rw [apply_ite UnpackedFloat.abs, apply_ite UnpackedFloat.abs, apply_ite UnpackedFloat.abs,
    apply_dite UnpackedFloat.abs]
  rfl

lemma abs_unpack_congr {spec : Format} {b c : BitVec spec.numBits}
    (exponent : UnpackedFloat.unpackExponent b = UnpackedFloat.unpackExponent c)
    (mantissa : UnpackedFloat.unpackMantissa b = UnpackedFloat.unpackMantissa c) :
    (UnpackedFloat.unpack spec b).abs = (UnpackedFloat.unpack spec c).abs := by
  rw [abs_unpack, abs_unpack, exponent, mantissa]

/-- Packing keeps the size of a machine number, whatever its sign is. -/
lemma abs_unpack_pack_congr {spec : Format} {x y : UnpackedFloat} (h : x.abs = y.abs) :
    (UnpackedFloat.unpack spec (UnpackedFloat.pack spec x)).abs =
      (UnpackedFloat.unpack spec (UnpackedFloat.pack spec y)).abs := by
  have fields : ∀ (s t : UnpackedFloat.Sign) (e : BitVec spec.exponentBits)
      (m : BitVec spec.mantissaBitsWithoutImplicit),
      (UnpackedFloat.unpack spec (UnpackedFloat.packComponents spec s e m)).abs =
        (UnpackedFloat.unpack spec (UnpackedFloat.packComponents spec t e m)).abs := by
    intro s t e m
    apply abs_unpack_congr <;> simp
  cases x with
  | notANumber =>
    cases y with
    | notANumber => rfl
    | _ => cases h
  | infinity s =>
    cases y with
    | infinity t => exact fields s t _ _
    | _ => cases h
  | zero s =>
    cases y with
    | zero t => exact fields s t _ _
    | _ => cases h
  | finite s m e pos =>
    cases y with
    | finite t n f pos' =>
      cases h
      unfold UnpackedFloat.pack
      dsimp only
      split
      · exact fields s t _ _
      split <;> exact fields s t _ _
    | _ => cases h

/-- **Multiplication commutes.** -/
lemma mul_comm (x y : Float) : x * y = y * x :=
  congrArg (fun u => Float.ofModel (Float.Model.pack u)) (mul_comm_unpacked .binary64 _ _)

/-- **A difference has the square of the difference the other way round.** -/
lemma square_sub_comm (x y : Float) : (x - y) * (x - y) = (y - x) * (y - x) := by
  have size : ((x - y).toModel.unpack).abs = ((y - x).toModel.unpack).abs :=
    abs_unpack_pack_congr (abs_sub_unpacked .binary64 _ _)
  have square : UnpackedFloat.mul .binary64 (x - y).toModel.unpack (x - y).toModel.unpack =
      UnpackedFloat.mul .binary64 (y - x).toModel.unpack (y - x).toModel.unpack := by
    rw [mul_self_unpacked, size, ← mul_self_unpacked]
  exact congrArg (fun u => Float.ofModel (Float.Model.pack u)) square

/-! ### Order -/

/-- Comparing the other way round turns the answer. -/
lemma compare_swap_unpacked (x y : UnpackedFloat) :
    UnpackedFloat.compare y x = (UnpackedFloat.compare x y).map Ordering.swap := by
  cases x with
  | notANumber => cases y <;> rfl
  | infinity s =>
    cases y with
    | infinity t => cases s <;> cases t <;> rfl
    | finite t m e pos => cases s <;> cases t <;> rfl
    | _ => cases s <;> rfl
  | zero s =>
    cases y with
    | notANumber => rfl
    | infinity t => cases t <;> rfl
    | zero t => rfl
    | finite t m e pos => cases t <;> rfl
  | finite s m e pos =>
    cases y with
    | notANumber => rfl
    | infinity t => cases s <;> cases t <;> rfl
    | zero t => cases s <;> rfl
    | finite t n f pos' =>
      have turned : (compare f e).then (compare n m) =
          ((compare e f).then (compare m n)).swap := by
        rw [Ordering.swap_then, Int.compare_swap, Nat.compare_swap]
      cases s with
      | positive =>
        cases t with
        | positive => exact congrArg some turned
        | negative => rfl
      | negative =>
        cases t with
        | positive => rfl
        | negative => exact congrArg (fun order => some order.swap) turned

/-- Two machine numbers of which none is no number can be compared. -/
lemma exists_compare_unpacked {x y : UnpackedFloat} (hx : x.isNaN = false)
    (hy : y.isNaN = false) : ∃ o, UnpackedFloat.compare x y = some o := by
  cases x with
  | notANumber => cases hx
  | infinity s =>
    cases y with
    | notANumber => cases hy
    | infinity t => exact ⟨_, rfl⟩
    | zero t => cases s <;> exact ⟨_, rfl⟩
    | finite t m e pos => cases s <;> cases t <;> exact ⟨_, rfl⟩
  | zero s =>
    cases y with
    | notANumber => cases hy
    | infinity t => cases t <;> exact ⟨_, rfl⟩
    | zero t => exact ⟨_, rfl⟩
    | finite t m e pos => cases t <;> exact ⟨_, rfl⟩
  | finite s m e pos =>
    cases y with
    | notANumber => cases hy
    | infinity t => cases s <;> cases t <;> exact ⟨_, rfl⟩
    | zero t => cases s <;> exact ⟨_, rfl⟩
    | finite t n f pos' => cases s <;> cases t <;> exact ⟨_, rfl⟩

lemma lt_iff {x y : Float} :
    x < y ↔ UnpackedFloat.compare x.toModel.unpack y.toModel.unpack = some .lt := by
  show decide (x.toModel < y.toModel) = true ↔ _
  rw [decide_eq_true_iff]
  exact beq_iff_eq

lemma le_iff {x y : Float} :
    x ≤ y ↔ (UnpackedFloat.compare x.toModel.unpack y.toModel.unpack).any (·.isLE) = true := by
  show decide (x.toModel ≤ y.toModel) = true ↔ _
  rw [decide_eq_true_iff]
  rfl

/-- **Of numbers, one is at most the other exactly if the other is not less.** -/
lemma le_iff_not_lt {x y : Float} (hx : x.isNaN = false) (hy : y.isNaN = false) :
    x ≤ y ↔ ¬ y < x := by
  obtain ⟨o, compared⟩ := exists_compare_unpacked (x := y.toModel.unpack)
    (y := x.toModel.unpack) hy hx
  rw [le_iff, lt_iff, compare_swap_unpacked, compared]
  cases o <;> decide

/-- There is one value that is no number. -/
lemma eq_notANumber_of_isNaN {x : UnpackedFloat} (h : x.isNaN = true) : x = .notANumber := by
  cases x with
  | notANumber => rfl
  | zero | infinity | finite => cases h

/-- What is no number is not less than anything, nor is anything at most that. -/
lemma not_lt_of_isNaN {x y : Float} (hy : y.isNaN = true) : ¬ y < x ∧ ¬ x ≤ y := by
  have none : y.toModel.unpack = .notANumber := eq_notANumber_of_isNaN hy
  rw [le_iff, lt_iff, none]
  cases x.toModel.unpack <;> exact ⟨nofun, nofun⟩

end Microbatch.Double
