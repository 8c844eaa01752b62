import Microbatch.Single

set_option relaxedAutoImplicit false
set_option autoImplicit false

/-!
# Arithmetic of error measures

Errors are measured in a wider arithmetic than the values that are compared. Its operations are
collected in a class, so that laws of the measures can name what they assume of it.

## Main definitions

* `Microbatch.Metric` — the operations; double-precision numbers have them.
* `Microbatch.Double.ofSingle`, `Microbatch.Double.ofInt64` — double-precision numbers of values.
* `Microbatch.Metric.sum` — the running sum of a list, from negative zero.
-/

namespace Microbatch

open Float.Model (Format UnpackedFloat)

/-- **The arithmetic that error measures need.** No law is assumed of it. -/
class Metric (M : Type) where
  /-- Zero. -/
  zero : M
  /-- The start of a sum; in floating point negative zero. -/
  negZero : M
  /-- A small amount that keeps quotients of zeros defined. -/
  epsilon : M
  /-- Sum of two values. -/
  add : M → M → M
  /-- Difference of two values. -/
  sub : M → M → M
  /-- Product of two values. -/
  mul : M → M → M
  /-- Quotient of two values. -/
  div : M → M → M
  /-- Square root. -/
  sqrt : M → M
  /-- Whether a value is no number. -/
  isNaN : M → Bool
  /-- Whether a value is greater than another; never so of what is no number. -/
  exceeds : M → M → Bool
  /-- Whether a value comes before another in a total order that also places zeros by sign. -/
  precedes : M → M → Bool
  /-- The value of a single-precision number. -/
  ofSingle : Single → M
  /-- The value of an integer. -/
  ofInt64 : Int64 → M

/-- The sum of a list, left to right from negative zero. -/
def Metric.sum {M : Type} [Metric M] (xs : List M) : M := xs.foldl Metric.add Metric.negZero

/-- The bit of the sign in the pattern of a double-precision number. -/
def signBit : Nat := 0x8000000000000000

/-- The place of a double-precision number in the total order, from negative numbers up. -/
def orderKey (x : Float) : Int :=
  let bits := x.toBits.toNat
  if bits < signBit then bits else (signBit : Int) - 1 - bits

/-- The double-precision number of a single-precision number. Its size is rounded to the wider
format, which does not change it. -/
def Double.ofSingle (x : Single) : Float :=
  let wide := match UnpackedFloat.unpack Format.binary32 x.bits.toBitVec with
    | .finite sign mantissa exponent _ =>
      UnpackedFloat.round Format.binary64 sign mantissa exponent
    | special => special
  .ofModel (.pack wide)

/-- The double-precision number of an integer, rounded to nearest, ties to even. -/
def Double.ofInt64 (n : Int64) : Float := .ofModel (.ofInt64 n)

instance : Metric Float where
  zero := Float.ofBits 0
  negZero := Float.ofBits 0x8000000000000000
  epsilon := Float.ofBits 0x3e45798ee2308c3a
  add := (· + ·)
  sub := (· - ·)
  mul := (· * ·)
  div := (· / ·)
  sqrt := Float.sqrt
  isNaN := Float.isNaN
  exceeds x y := x > y
  precedes x y := orderKey x < orderKey y
  ofSingle := Double.ofSingle
  ofInt64 := Double.ofInt64

end Microbatch
