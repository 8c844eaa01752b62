import Microbatch.Decimal.Binary
import Microbatch.Single

set_option relaxedAutoImplicit false
set_option autoImplicit false

/-!
# Decimals with a fixed number of places

## Main definitions

* `Microbatch.Decimal.Fixed.render` — a single-precision number with a number of decimal places,
  rounded exactly, ties to even.
-/

namespace Microbatch.Decimal.Fixed

/-- A count of units of the last place, as a decimal with that many places. -/
def places (count places : Nat) : String :=
  let unit := tenPower places
  let fraction := (toString (count % unit)).toList
  s!"{count / unit}." ++ String.ofList (List.replicate (places - fraction.length) '0' ++ fraction)

/-- **A number with a fixed, positive number of decimal places.** The sign of zero is kept. -/
def render (decimals : Nat) (x : Single) : String :=
  match BinaryFormat.single.decode x.bits.toNat with
  | .notNumber => "NaN"
  | .infinite negative => if negative then "-inf" else "inf"
  | .finite negative mantissa exponent =>
    let count := BinaryFormat.roundQuotient
      (mantissa * tenPower decimals * twoPower exponent.toNat) (twoPower (-exponent).toNat)
    (if negative then "-" else "") ++ places count decimals

end Microbatch.Decimal.Fixed
