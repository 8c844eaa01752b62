import Microbatch.Decimal.Binary
import Microbatch.Numeral

set_option relaxedAutoImplicit false
set_option autoImplicit false

/-!
# Reading decimals

A decimal is an optional sign and either a name of infinity or of no number, in any letter case, or
digits with an optional point among or beside them and an optional exponent. It is rounded once,
from its exact value.

## Main definitions

* `Microbatch.Decimal.read` — the pattern of a decimal in a binary format, or why there is none.
-/

namespace Microbatch.Decimal

/-- **Why a text is no decimal.** -/
inductive Fault where
  /-- There is nothing to read. -/
  | empty
  /-- The text is not of the form of a decimal. -/
  | invalid
  deriving DecidableEq

/-- The wording of a fault. -/
def Fault.message : Fault → String
  | empty => "cannot parse float from empty string"
  | invalid => "invalid float literal"

/-- The digits at the front of a text, and the rest. -/
def splitDigits (cs : List Char) : List Char × List Char :=
  cs.span fun c => (Numeral.digit? c).isSome

/-- The value of a run of digits. -/
def digitsValue (ds : List Char) : Nat :=
  ds.foldl (fun n c => n * 10 + (Numeral.digit? c).getD 0) 0

/-- Takes a sign from the front of a text; the result says whether it is a minus sign. -/
def takeSign : List Char → Bool × List Char
  | '-' :: rest => (true, rest)
  | '+' :: rest => (false, rest)
  | cs => (false, cs)

/-- The exponent at the end of a decimal; there may be none, but nothing else may be left. -/
def exponent? : List Char → Option Int
  | [] => some 0
  | mark :: rest =>
    if mark = 'e' ∨ mark = 'E' then
      let (negative, digits) := takeSign rest
      match splitDigits digits with
      | ([], _) => none
      | (ds, []) => some (if negative then -(digitsValue ds : Int) else digitsValue ds)
      | _ => none
    else none

/-- A non-negative decimal: `count * 10 ^ exponent`. -/
structure Scaled where
  /-- The digits without their point. -/
  count : Nat
  /-- The power of ten that the last digit counts. -/
  exponent : Int

/-- Reads digits with an optional point and an optional exponent. -/
def scaled? (cs : List Char) : Option Scaled :=
  let (whole, rest) := splitDigits cs
  let (fraction, rest) :=
    match rest with
    | '.' :: rest => splitDigits rest
    | rest => ([], rest)
  if whole = [] ∧ fraction = [] then none
  else (exponent? rest).map fun e => ⟨digitsValue (whole ++ fraction), e - (fraction.length : Int)⟩

/-- Powers of ten beyond this one exceed every finite number of the formats in use, and those below
its inverse vanish. -/
def farExponent : Int := 400

/-- The pattern nearest to a decimal. -/
def Scaled.nearest (f : BinaryFormat) (d : Scaled) : Nat :=
  let magnitude := (toString d.count).length + d.exponent
  if d.count = 0 ∨ magnitude < -farExponent then 0
  else if farExponent < magnitude then f.infinityBits
  else f.nearest (d.count * tenPower d.exponent.toNat) (tenPower (-d.exponent).toNat)

/-- The pattern of an unsigned decimal or of a name. -/
def magnitude? (f : BinaryFormat) (cs : List Char) : Option Nat :=
  match cs.map Char.toLower with
  | ['i', 'n', 'f'] => some f.infinityBits
  | ['i', 'n', 'f', 'i', 'n', 'i', 't', 'y'] => some f.infinityBits
  | ['n', 'a', 'n'] => some f.notNumberBits
  | _ => (scaled? cs).map (·.nearest f)

/-- **The pattern of a decimal** in a binary format. -/
def read (f : BinaryFormat) (text : String) : Except Fault Nat :=
  match text.toList with
  | [] => .error .empty
  | cs =>
    let (negative, rest) := takeSign cs
    match magnitude? f rest with
    | some bits => .ok (if negative then f.signBits + bits else bits)
    | none => .error .invalid

end Microbatch.Decimal
