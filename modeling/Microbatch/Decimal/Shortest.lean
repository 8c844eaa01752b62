import Microbatch.Decimal.Binary

set_option relaxedAutoImplicit false
set_option autoImplicit false

/-!
# Shortest decimal notation

A double-precision number is written with the fewest decimal digits that read back as that number;
of several such numerals the nearest is taken, and of two equally near ones the larger.

## Main definitions

* `Microbatch.Decimal.Shortest.digits` — the digits and the exponent of a positive number.
* `Microbatch.Decimal.Shortest.render` — scientific notation: one digit, the rest after a point, and
  an exponent.
-/

namespace Microbatch.Decimal.Shortest

/-- A positive rational number, with the ends of the interval of numbers that round to it. All three
share one denominator. -/
structure Interval where
  /-- The lower end. -/
  low : Nat
  /-- The number. -/
  value : Nat
  /-- The upper end. -/
  high : Nat
  /-- The common denominator. -/
  denominator : Nat
  /-- Whether the ends themselves round to the number. -/
  closed : Bool

/-- The interval of a positive number `mantissa * 2 ^ exponent`. Below a power of two numbers lie
twice as dense, unless the exponent is the least. -/
def Interval.ofBinary (f : BinaryFormat) (mantissa : Nat) (exponent : Int) : Interval :=
  let low :=
    if mantissa = twoPower f.fractionBits ∧ exponent ≠ f.leastExponent then 4 * mantissa - 1
    else 4 * mantissa - 2
  let shift := exponent - 2
  let up := twoPower shift.toNat
  { low := low * up, value := 4 * mantissa * up, high := (4 * mantissa + 2) * up,
    denominator := twoPower (-shift).toNat, closed := mantissa % 2 = 0 }

/-- Decimal digits after the point up to which positive double-precision numbers are looked at; the
smallest one is above `10 ^ (-324)`. -/
def depth : Nat := 340

/-- The exponent of the highest power of ten that is at most a positive number. -/
def floorLog10 (i : Interval) : Int :=
  ((toString (i.value * tenPower depth / i.denominator)).length : Int) - 1 - depth

/-- Whether a multiple of a power of ten rounds to the number. -/
def Interval.holds (i : Interval) (count : Nat) (exponent : Int) : Bool :=
  let point := count * tenPower exponent.toNat * i.denominator
  let scale := tenPower (-exponent).toNat
  if i.closed then i.low * scale ≤ point ∧ point ≤ i.high * scale
  else i.low * scale < point ∧ point < i.high * scale

/-- The multiple of a power of ten that rounds to the number: of the two neighbours of the number,
the one that does, or the nearer if both do, or the larger if they are equally near. -/
def Interval.multiple? (i : Interval) (exponent : Int) : Option Nat :=
  let numerator := i.value * tenPower (-exponent).toNat
  let denominator := i.denominator * tenPower exponent.toNat
  let below := numerator / denominator
  let above := below + 1
  let fitsBelow := i.holds below exponent
  let fitsAbove := i.holds above exponent
  if fitsBelow ∧ (fitsAbove = false ∨ 2 * (numerator % denominator) < denominator) then some below
  else if fitsAbove then some above
  else none

/-- The first grid of decimals, from coarse to fine, with a number that reads back. -/
def search (i : Interval) (exponent : Int) : Nat → Nat × Int
  | 0 => ((i.multiple? exponent).getD 0, exponent)
  | finer + 1 =>
    match i.multiple? exponent with
    | some count => (count, exponent)
    | none => search i (exponent - 1) finer

/-- **The digits of a positive number**: a numeral without zeros at its end, and the power of ten of
its last digit. Seventeen digits always suffice. -/
def digits (mantissa : Nat) (exponent : Int) : List Char × Int :=
  let i := Interval.ofBinary .double mantissa exponent
  let (count, last) := search i (floorLog10 i) 17
  let text := (toString count).toList
  let kept := (text.reverse.dropWhile (· == '0')).reverse
  (kept, last + (text.length - kept.length : Nat))

/-- Scientific notation of a numeral whose last digit counts as a power of ten. -/
def scientific (numeral : List Char) (last : Int) : String :=
  let exponent := last + (numeral.length : Int) - 1
  match numeral with
  | [] => "0e0"
  | [d] => String.ofList [d] ++ s!"e{exponent}"
  | d :: rest => String.ofList (d :: '.' :: rest) ++ s!"e{exponent}"

/-- The sign in front of a number. -/
def sign (negative : Bool) : String := if negative then "-" else ""

/-- **Scientific notation** of a double-precision number. -/
def render (x : Float) : String :=
  match BinaryFormat.double.decode x.toBits.toNat with
  | .notNumber => "NaN"
  | .infinite negative => sign negative ++ "inf"
  | .finite negative mantissa exponent =>
    if mantissa = 0 then sign negative ++ "0e0"
    else
      let (numeral, last) := digits mantissa exponent
      sign negative ++ scientific numeral last

end Microbatch.Decimal.Shortest
