import Microbatch.Single

set_option relaxedAutoImplicit false
set_option autoImplicit false

/-!
# Arithmetic of element values

The kernels, the losses and the gradient sweep use a handful of operations on element values. They
are collected in a class, so that the same definitions run on single-precision numbers and can be
read over exact numbers.

## Main definitions

* `Microbatch.Scalar` — the operations.
* `Microbatch.Scalar.sum` — the running sum of a list, from negative zero.
* `Microbatch.Scalar.sign` — the sign of a value, zero at zero.
-/

namespace Microbatch

/-- **The arithmetic that kernels need.** No law is assumed of it. -/
class Scalar (F : Type) where
  /-- Zero, the start of every buffer. -/
  zero : F
  /-- The start of a sum; in floating point negative zero. -/
  negZero : F
  /-- One. -/
  one : F
  /-- Sum of two values. -/
  add : F → F → F
  /-- Difference of two values. -/
  sub : F → F → F
  /-- Product of two values. -/
  mul : F → F → F
  /-- Quotient of two values. -/
  div : F → F → F
  /-- Absolute value. -/
  abs : F → F
  /-- Whether a value is above zero. -/
  isPositive : F → Bool
  /-- Whether a value is below zero. -/
  isNegative : F → Bool
  /-- The value of a count. -/
  ofNat : Nat → F
  /-- The value of a constant stored in single precision. -/
  ofSingle : Single → F

namespace Scalar

variable {F : Type} [Scalar F]

/-- The sum of a list, left to right from negative zero; the empty sum is negative zero. -/
def sum (xs : List F) : F := xs.foldl add negZero

/-- One, minus one or zero; a value that is neither above nor below zero has sign zero. -/
def sign (x : F) : F :=
  if isPositive x then one
  else if isNegative x then sub zero one
  else zero

end Scalar

instance : Scalar Single where
  zero := .zero
  negZero := .negZero
  one := .one
  add := .add
  sub := .sub
  mul := .mul
  div := .div
  abs := .abs
  isPositive := Single.isPositive
  isNegative := Single.isNegative
  ofNat := .ofNat
  ofSingle := id

end Microbatch
