import Mathlib.Algebra.Group.Nat.Defs
import Microbatch.Single

set_option relaxedAutoImplicit false
set_option autoImplicit false

/-!
# Running sums in single precision

Finite numbers are added up one at a time, and every addition rounds. A running sum can exceed the
range, and is an infinity then. It stays the same infinity whatever finite number comes next, so
that the infinity of the other sign never meets it, and no running sum of finite numbers ever is no
number.

The class of a number, finite, infinite or none, is read off the exponent and fraction fields of its
pattern. Rounding leads to a finite number or a zero, and packing it into a pattern to an infinity
if its exponent has no place.

## Main definitions

* `Microbatch.Single.unpacked` — the machine number that a pattern is computed with.

## Main results

* `Microbatch.Single.isNaN_add`, `Microbatch.Single.add_of_infinite` — adding one finite number.
* `Microbatch.Single.isNaN_foldl_add` — a running sum of finite numbers is a number or an infinity.
* `Microbatch.Single.isFinite_foldl_add_iff` — it is finite exactly if it was all along.
-/

namespace Microbatch

open Float.Model

/-! ### Fields of patterns -/

namespace Single

lemma toNat_unpackExponent (b : BitVec 32) :
    (@UnpackedFloat.unpackExponent .binary32 b).toNat = b.toNat / 2 ^ 23 % 2 ^ 8 := by
  simp [UnpackedFloat.unpackExponent, BitVec.extractLsb, BitVec.extractLsb',
    Nat.shiftRight_eq_div_pow]

lemma toNat_unpackMantissa (b : BitVec 32) :
    (@UnpackedFloat.unpackMantissa .binary32 b).toNat = b.toNat % 2 ^ 23 := by
  simp [UnpackedFloat.unpackMantissa, BitVec.extractLsb, BitVec.extractLsb']

/-- The exponent field is full from the pattern of infinity on. -/
lemma unpackExponent_eq_iff (b : BitVec 32) :
    @UnpackedFloat.unpackExponent .binary32 b = -1#8 ↔
      0x7f800000 ≤ b.toNat % 2 ^ 31 := by
  have full : (-1#8 : BitVec 8).toNat = 255 := by decide
  rw [← BitVec.toNat_inj, toNat_unpackExponent, full]
  omega

lemma unpackMantissa_eq_iff (b : BitVec 32) :
    @UnpackedFloat.unpackMantissa .binary32 b = 0#23 ↔ b.toNat % 2 ^ 23 = 0 := by
  rw [← BitVec.toNat_inj, toNat_unpackMantissa]
  rfl

/-- A finite machine number is a number. -/
lemma isNaN_of_isFinite_unpacked {f : UnpackedFloat} (finite : f.isFinite = true) :
    f.isNaN = false := by
  cases f with
  | notANumber => cases finite
  | infinity | zero | finite => rfl

/-- A pattern whose exponent field is full is that of an infinity, or of no number. -/
lemma unpack_of_full {b : BitVec 32} (full : @UnpackedFloat.unpackExponent .binary32 b = -1#8) :
    UnpackedFloat.unpack .binary32 b =
      if @UnpackedFloat.unpackMantissa .binary32 b = 0#23 then
        .infinity (.ofBitVec (@UnpackedFloat.unpackSign .binary32 b))
      else .notANumber :=
  if_pos full

/-- A pattern whose exponent field is not full is finite. -/
lemma isFinite_unpack_of_ne {b : BitVec 32}
    (partial_field : @UnpackedFloat.unpackExponent .binary32 b ≠ -1#8) :
    (UnpackedFloat.unpack .binary32 b).isFinite = true := by
  unfold UnpackedFloat.unpack
  dsimp only
  rw [if_neg partial_field]
  by_cases none_set : @UnpackedFloat.unpackExponent .binary32 b = 0#8
  · rw [if_pos none_set]
    by_cases empty : @UnpackedFloat.unpackMantissa .binary32 b = 0#23
    · rw [dif_pos empty]
      rfl
    · rw [dif_neg empty]
      rfl
  · rw [if_neg none_set]
    rfl

/-- A pattern is no number if its exponent field is full and its fraction field is not empty. -/
lemma isNaN_unpack_iff (b : BitVec 32) : (UnpackedFloat.unpack .binary32 b).isNaN = true ↔
    @UnpackedFloat.unpackExponent .binary32 b = -1#8 ∧
      @UnpackedFloat.unpackMantissa .binary32 b ≠ 0#23 := by
  by_cases full : @UnpackedFloat.unpackExponent .binary32 b = -1#8
  · rw [unpack_of_full full]
    by_cases empty : @UnpackedFloat.unpackMantissa .binary32 b = 0#23
    · rw [if_pos empty]
      exact iff_of_false Bool.false_ne_true fun h => h.2 empty
    · rw [if_neg empty]
      exact iff_of_true rfl ⟨full, empty⟩
  · rw [isNaN_of_isFinite_unpacked (isFinite_unpack_of_ne full)]
    exact iff_of_false Bool.false_ne_true fun h => full h.1

/-- A pattern is finite if its exponent field is not full. -/
lemma isFinite_unpack_iff (b : BitVec 32) : (UnpackedFloat.unpack .binary32 b).isFinite = true ↔
    @UnpackedFloat.unpackExponent .binary32 b ≠ -1#8 := by
  refine ⟨fun finite full => ?_, isFinite_unpack_of_ne⟩
  rw [unpack_of_full full] at finite
  split at finite <;> cases finite

/-! ### Packing -/

/-- The exponent field of a packed number is full only if its exponent has no place. -/
lemma unpackExponent_pack_finite {s : UnpackedFloat.Sign} {m : Nat} {e : Int} (pos : 0 < m)
    (inside : (e + 127 + 23).toNat + 1 < 2 ^ 8) :
    @UnpackedFloat.unpackExponent .binary32
      (UnpackedFloat.pack .binary32 (.finite s m e pos)) ≠ -1#8 := by
  have bias : ((Format.exponentBias .binary32 : Nat) : Int) = 127 := rfl
  have width : ((Format.mantissaBitsWithoutImplicit .binary32 : Nat) : Int) = 23 := rfl
  unfold UnpackedFloat.pack
  dsimp only
  rw [bias, width, if_neg (by omega)]
  split
  · rw [UnpackedFloat.unpackExponent_packComponents, Ne, ← BitVec.toNat_inj, BitVec.toNat_ofNat,
      Nat.mod_eq_of_lt (by omega)]
    have full : (-1#8 : BitVec 8).toNat = 255 := by decide
    omega
  · rw [UnpackedFloat.unpackExponent_packComponents]
    decide

/-- **Packing keeps what is a number or an infinity.** -/
lemma isNaN_pack (f : UnpackedFloat) :
    (UnpackedFloat.unpack .binary32 (UnpackedFloat.pack .binary32 f)).isNaN = f.isNaN := by
  cases f with
  | notANumber => rfl
  | infinity s => cases s <;> rfl
  | zero s => cases s <;> rfl
  | finite s m e pos =>
    by_cases inside : (e + 127 + 23).toNat + 1 < 2 ^ 8
    · have partial_field := unpackExponent_pack_finite (s := s) pos inside
      refine Bool.eq_false_iff.2 fun none => ?_
      exact partial_field ((isNaN_unpack_iff _).1 none).1
    · have packed : UnpackedFloat.pack .binary32 (.finite s m e pos) =
          UnpackedFloat.packedInfinity .binary32 s := by
        have bias : ((Format.exponentBias .binary32 : Nat) : Int) = 127 := rfl
        have width : ((Format.mantissaBitsWithoutImplicit .binary32 : Nat) : Int) = 23 := rfl
        unfold UnpackedFloat.pack
        dsimp only
        rw [bias, width, if_pos (by omega)]
      rw [packed]
      cases s <;> rfl

/-- **Packing what has been unpacked keeps finite numbers**: their exponents have a place. -/
lemma isFinite_pack_unpack {b : BitVec 32}
    (h : (UnpackedFloat.unpack .binary32 b).isFinite = true) :
    (UnpackedFloat.unpack .binary32
      (UnpackedFloat.pack .binary32 (UnpackedFloat.unpack .binary32 b))).isFinite = true := by
  have partial_field := (isFinite_unpack_iff b).1 h
  rw [isFinite_unpack_iff]
  have below : (@UnpackedFloat.unpackExponent .binary32 b).toNat < 255 := by
    have full : (-1#8 : BitVec 8).toNat = 255 := by decide
    have within := (@UnpackedFloat.unpackExponent .binary32 b).isLt
    rw [Ne, ← BitVec.toNat_inj, full] at partial_field
    simp only at within
    omega
  have bias : ((Format.exponentBias .binary32 : Nat) : Int) = 127 := rfl
  have width : ((Format.mantissaBitsWithoutImplicit .binary32 : Nat) : Int) = 23 := rfl
  unfold UnpackedFloat.unpack
  dsimp only
  rw [if_neg partial_field]
  by_cases none_set : @UnpackedFloat.unpackExponent .binary32 b = 0#8
  · rw [if_pos none_set]
    by_cases empty : @UnpackedFloat.unpackMantissa .binary32 b = 0#23
    · rw [dif_pos empty]
      generalize UnpackedFloat.Sign.ofBitVec _ = sign
      cases sign <;> decide
    · rw [dif_neg empty]
      exact unpackExponent_pack_finite _ (by rw [bias, width, none_set]; decide)
  · rw [if_neg none_set]
    exact unpackExponent_pack_finite _ (by rw [bias, width]; omega)

/-! ### Classes of numbers -/

lemma toNat_abs (x : Single) : x.abs.bits.toNat = x.bits.toNat % 2 ^ 31 := by
  simp only [abs, UInt32.toNat_and]
  exact Nat.and_two_pow_sub_one_eq_mod x.bits.toNat 31

/-- A pattern is no number exactly if none is unpacked from it. -/
lemma isNaN_eq_isNaN_unpack (x : Single) :
    x.isNaN = (UnpackedFloat.unpack .binary32 x.bits.toBitVec).isNaN := by
  have above : x.isNaN = true ↔ 0x7f800000 < x.bits.toNat % 2 ^ 31 := by
    rw [← toNat_abs, isNaN, decide_eq_true_eq]
    exact UInt32.lt_iff_toNat_lt
  rw [Bool.eq_iff_iff, above, isNaN_unpack_iff, unpackExponent_eq_iff, Ne, unpackMantissa_eq_iff,
    UInt32.toNat_toBitVec]
  omega

/-- A pattern is finite exactly if a finite number is unpacked from it. -/
lemma isFinite_eq_isFinite_unpack (x : Single) :
    x.isFinite = (UnpackedFloat.unpack .binary32 x.bits.toBitVec).isFinite := by
  have below : x.isFinite = true ↔ x.bits.toNat % 2 ^ 31 < 0x7f800000 := by
    rw [← toNat_abs, isFinite, decide_eq_true_eq]
    exact UInt32.lt_iff_toNat_lt
  rw [Bool.eq_iff_iff, below, isFinite_unpack_iff, Ne, unpackExponent_eq_iff, UInt32.toNat_toBitVec]
  omega

/-- What is finite is a number. -/
lemma isNaN_of_isFinite {x : Single} (finite : x.isFinite = true) : x.isNaN = false := by
  rw [isFinite, decide_eq_true_eq, UInt32.lt_iff_toNat_lt] at finite
  rw [isNaN, decide_eq_false_iff_not, GT.gt, UInt32.lt_iff_toNat_lt]
  omega

/-- **The machine number that a pattern is computed with.** -/
def unpacked (x : Single) : UnpackedFloat := x.toFloat32.toModel.unpack

/-- A machine number is no number exactly if its pattern is. -/
lemma isNaN_unpacked (x : Single) : x.unpacked.isNaN = x.isNaN :=
  (isNaN_pack _).trans x.isNaN_eq_isNaN_unpack.symm

/-- A finite pattern is computed with as a finite number. -/
lemma isFinite_unpacked {x : Single} (finite : x.isFinite = true) : x.unpacked.isFinite = true :=
  isFinite_pack_unpack (x.isFinite_eq_isFinite_unpack ▸ finite)

/-- The sum of two numbers is the packed sum of their machine numbers. -/
lemma add_eq_pack {x y : Single} (hx : x.isNaN = false) (hy : y.isNaN = false)
    (number : (UnpackedFloat.add .binary32 x.unpacked y.unpacked).isNaN = false) :
    x.add y = ⟨⟨UnpackedFloat.pack .binary32
      (UnpackedFloat.add .binary32 x.unpacked y.unpacked)⟩⟩ := by
  have sum : (x.toFloat32 + y.toFloat32).isNaN = false := (isNaN_pack _).trans number
  rw [add, combine, hx, hy, ofFloat32]
  simp only [Bool.false_eq_true, if_false, sum]
  rfl

/-! ### Adding finite numbers -/

/-- Rounding leads to a number. -/
lemma isNaN_normalize (spec : Format) (m e : Int) (s : UnpackedFloat.Sign) :
    (UnpackedFloat.normalize spec m e s).isNaN = false := by
  have rounded : ∀ (s : UnpackedFloat.Sign) (m : Nat) (e : Int),
      (UnpackedFloat.round spec s m e).isNaN = false := by
    intro s m e
    unfold UnpackedFloat.round UnpackedFloat.roundWithAccuracy
    dsimp only
    rw [apply_dite UnpackedFloat.isNaN]
    exact dite_eq_ite.trans (ite_self _)
  unfold UnpackedFloat.normalize
  split
  · exact rounded _ _ _
  · rfl
  · exact rounded _ _ _

/-- A finite number added to a number or to an infinity makes no pattern that is no number. -/
lemma isNaN_add_unpacked {x y : UnpackedFloat} (hx : x.isNaN = false) (hy : y.isFinite = true) :
    (UnpackedFloat.add .binary32 x y).isNaN = false := by
  cases x with
  | notANumber => cases hx
  | infinity s =>
    cases y with
    | notANumber => cases hy
    | infinity s' => cases hy
    | zero s' => rfl
    | finite s' m e pos => rfl
  | zero s =>
    cases y with
    | notANumber => cases hy
    | infinity s' => cases hy
    | zero s' => cases s <;> cases s' <;> rfl
    | finite s' m e pos => rfl
  | finite s m e pos =>
    cases y with
    | notANumber => cases hy
    | infinity s' => cases hy
    | zero s' => rfl
    | finite s' m' e' pos' => exact isNaN_normalize _ _ _ _

/-- **A number or an infinity stays one** when a finite number is added. -/
lemma isNaN_add {x y : Single} (hx : x.isNaN = false) (hy : y.isFinite = true) :
    (x.add y).isNaN = false := by
  have number : (UnpackedFloat.add .binary32 x.unpacked y.unpacked).isNaN = false :=
    isNaN_add_unpacked (x.isNaN_unpacked.trans hx) (isFinite_unpacked hy)
  rw [add_eq_pack hx (isNaN_of_isFinite hy) number, isNaN_eq_isNaN_unpack]
  exact (isNaN_pack _).trans number

/-- What is neither finite nor no number is one of the two infinities. -/
lemma eq_infinity {x : Single} (number : x.isNaN = false) (infinite : x.isFinite = false) :
    x = ⟨0x7f800000⟩ ∨ x = ⟨0xff800000⟩ := by
  obtain ⟨bits⟩ := x
  rw [isNaN, decide_eq_false_iff_not, GT.gt, UInt32.lt_iff_toNat_lt, toNat_abs] at number
  rw [isFinite, decide_eq_false_iff_not, UInt32.lt_iff_toNat_lt, toNat_abs] at infinite
  have within := bits.toNat_lt
  simp only [mk.injEq, ← UInt32.toNat_inj]
  simp only [UInt32.reduceToNat] at number infinite ⊢
  omega

/-- **An infinity stays the same** when a finite number is added. -/
lemma add_of_infinite {x y : Single} (number : x.isNaN = false) (infinite : x.isFinite = false)
    (hy : y.isFinite = true) : x.add y = x := by
  have absorbs : ∀ (s : UnpackedFloat.Sign), x.unpacked = .infinity s →
      UnpackedFloat.add .binary32 x.unpacked y.unpacked = .infinity s := by
    intro s unpacked
    rw [unpacked]
    have finite := isFinite_unpacked hy
    cases h : y.unpacked with
    | notANumber =>
      rw [h] at finite
      cases finite
    | infinity s' =>
      rw [h] at finite
      cases finite
    | zero s' => rfl
    | finite s' m e pos => rfl
  have sum := add_eq_pack number (isNaN_of_isFinite hy)
    (isNaN_add_unpacked (x.isNaN_unpacked.trans number) (isFinite_unpacked hy))
  rw [sum]
  rcases eq_infinity number infinite with rfl | rfl
  · rw [absorbs .positive rfl]
    rfl
  · rw [absorbs .negative rfl]
    rfl

/-! ### Running sums -/

/-- **A running sum of finite numbers is a number or an infinity.** -/
lemma isNaN_foldl_add {xs : List Single} (finite : ∀ x ∈ xs, x.isFinite = true) {start : Single}
    (number : start.isNaN = false) : (xs.foldl add start).isNaN = false := by
  induction xs generalizing start with
  | nil => exact number
  | cons x xs ih =>
    obtain ⟨first, others⟩ := List.forall_mem_cons.1 finite
    exact ih others (isNaN_add number first)

/-- An infinity stays the same along a running sum of finite numbers. -/
lemma foldl_add_of_infinite {xs : List Single} (finite : ∀ x ∈ xs, x.isFinite = true)
    {start : Single} (number : start.isNaN = false) (infinite : start.isFinite = false) :
    xs.foldl add start = start := by
  induction xs with
  | nil => rfl
  | cons x xs ih =>
    obtain ⟨first, others⟩ := List.forall_mem_cons.1 finite
    rw [List.foldl_cons, add_of_infinite number infinite first, ih others]

/-- **A running sum of finite numbers is finite exactly if it was all along.** -/
lemma isFinite_foldl_add_iff {xs : List Single} (finite : ∀ x ∈ xs, x.isFinite = true)
    {start : Single} (number : start.isNaN = false) :
    (xs.foldl add start).isFinite = true ↔
      ∀ n, ((xs.take n).foldl add start).isFinite = true := by
  constructor
  · intro total n
    have before : ∀ x ∈ xs.take n, x.isFinite = true :=
      fun x hx => finite x (List.mem_of_mem_take hx)
    have behind : ∀ x ∈ xs.drop n, x.isFinite = true :=
      fun x hx => finite x (List.mem_of_mem_drop hx)
    cases sofar : ((xs.take n).foldl add start).isFinite with
    | true => rfl
    | false =>
      have stays := foldl_add_of_infinite behind (isNaN_foldl_add before number) sofar
      rw [← List.foldl_append, List.take_append_drop] at stays
      rw [stays, sofar] at total
      cases total
  · intro all
    have last := all xs.length
    rwa [List.take_length] at last

end Single

end Microbatch
