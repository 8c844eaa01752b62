set_option relaxedAutoImplicit false
set_option autoImplicit false

/-!
# Binary formats

A binary floating-point format has a number of fraction bits and a number of exponent bits. Its
patterns are natural numbers: from high to low the sign, the exponent and the fraction.

## Main definitions

* `Microbatch.BinaryFormat` — the two widths; `Microbatch.BinaryFormat.single` and
  `Microbatch.BinaryFormat.double`.
* `Microbatch.BinaryFormat.decode` — what a pattern stands for.
* `Microbatch.BinaryFormat.nearest` — the pattern nearest to a quotient, ties to even.
-/

namespace Microbatch

/-- **A binary floating-point format.** -/
structure BinaryFormat where
  /-- The width of the fraction. -/
  fractionBits : Nat
  /-- The width of the exponent. -/
  exponentBits : Nat
  deriving DecidableEq

/-- A power of two. -/
def twoPower (exponent : Nat) : Nat := Nat.pow 2 exponent

/-- A power of ten. -/
def tenPower (exponent : Nat) : Nat := Nat.pow 10 exponent

namespace BinaryFormat

/-- The format with 32 bits. -/
def single : BinaryFormat := ⟨23, 8⟩

/-- The format with 64 bits. -/
def double : BinaryFormat := ⟨52, 11⟩

/-- **What a pattern stands for.** -/
inductive Value where
  /-- No number. -/
  | notNumber
  /-- An infinity. -/
  | infinite (negative : Bool)
  /-- The number `mantissa * 2 ^ exponent`, or its negative. -/
  | finite (negative : Bool) (mantissa : Nat) (exponent : Int)
  deriving DecidableEq

/-- The exponent of the smallest positive number, the unit of all numbers of the format. -/
def leastExponent (f : BinaryFormat) : Int :=
  2 - (twoPower (f.exponentBits - 1) : Int) - f.fractionBits

/-- The pattern of positive infinity. -/
def infinityBits (f : BinaryFormat) : Nat :=
  (twoPower f.exponentBits - 1) * twoPower f.fractionBits

/-- The pattern of the sign alone. -/
def signBits (f : BinaryFormat) : Nat := twoPower (f.exponentBits + f.fractionBits)

/-- A pattern that stands for no number. -/
def notNumberBits (f : BinaryFormat) : Nat :=
  f.infinityBits + twoPower (f.fractionBits - 1)

/-- **What a pattern stands for.** An exponent of zero has no hidden bit. -/
def decode (f : BinaryFormat) (bits : Nat) : Value :=
  let negative := decide (f.signBits ≤ bits)
  let magnitude := bits % f.signBits
  let exponent := magnitude / twoPower f.fractionBits
  let fraction := magnitude % twoPower f.fractionBits
  if f.infinityBits < magnitude then .notNumber
  else if magnitude = f.infinityBits then .infinite negative
  else if exponent = 0 then .finite negative fraction f.leastExponent
  else
    .finite negative (twoPower f.fractionBits + fraction) (f.leastExponent + (exponent - 1 : Nat))

/-- The quotient of two natural numbers, rounded to the nearest; a tie goes to the even one. -/
def roundQuotient (numerator denominator : Nat) : Nat :=
  let q := numerator / denominator
  let twice := 2 * (numerator % denominator)
  if twice < denominator then q
  else if denominator < twice then q + 1
  else if q % 2 = 0 then q
  else q + 1

/-- The exponent of the highest power of two that is at most a positive quotient. -/
def floorLog2 (numerator denominator : Nat) : Int :=
  let guess : Int := numerator.log2 - denominator.log2
  let reached :=
    if 0 ≤ guess then denominator * twoPower guess.toNat ≤ numerator
    else denominator ≤ numerator * twoPower (-guess).toNat
  if reached then guess else guess - 1

/-- **The pattern nearest to a positive quotient**, ties to even. What lies half a unit or more
beyond the largest number becomes infinite. -/
def nearest (f : BinaryFormat) (numerator denominator : Nat) : Nat :=
  let exponent := max f.leastExponent (floorLog2 numerator denominator - f.fractionBits)
  let mantissa :=
    if 0 ≤ exponent then roundQuotient numerator (denominator * twoPower exponent.toNat)
    else roundQuotient (numerator * twoPower (-exponent).toNat) denominator
  min f.infinityBits
    ((exponent - f.leastExponent).toNat * twoPower f.fractionBits + mantissa)

end BinaryFormat

end Microbatch
