import Microbatch.DataFlow
import Microbatch.Decimal.Reading
import Microbatch.Numeral
import Microbatch.Size
import Microbatch.Text.Blank
import Microbatch.Text.Pieces
import Microbatch.Training

set_option relaxedAutoImplicit false
set_option autoImplicit false

/-!
# Values on the command line

## Main definitions

* `Microbatch.CommandLine.ValueFault` — why a text is no value.
* `Microbatch.CommandLine.readAnchor`, `Microbatch.CommandLine.renderAnchor` — an anchor, as a name,
  an equals sign and a policy.
* `Microbatch.CommandLine.readShape`, `Microbatch.CommandLine.renderShape` — the shape of an input,
  as a name, an equals sign and dimensions with commas.
* `Microbatch.CommandLine.readSize`, `Microbatch.CommandLine.readSingle`,
  `Microbatch.CommandLine.readDouble` — numbers.
-/

namespace Microbatch.CommandLine

/-- **Why a text is no value.** -/
inductive ValueFault where
  /-- The text is not of the form of an anchor. -/
  | notAnchor (text : String)
  /-- The policy of an anchor is not known. -/
  | policy (fault : Fault)
  /-- The text is not of the form of an input shape. -/
  | notShape (text : String)
  /-- A dimension is no size. -/
  | dimension (text : String) (cause : Numeral.Fault)
  /-- The text is no size. -/
  | size (cause : Numeral.Fault)
  /-- The text is no decimal. -/
  | decimal (cause : Decimal.Fault)
  deriving DecidableEq

/-- The wording of a fault. -/
def ValueFault.message : ValueFault → String
  | notAnchor text => s!"expected NAME=POLICY, got `{text}`"
  | policy fault => fault.message
  | notShape text => s!"expected NAME=D0,D1,..., got `{text}`"
  | dimension text cause => s!"bad dim `{text}`: {cause.message}"
  | size cause => cause.message
  | decimal cause => cause.message

/-! ### Splitting texts -/

/-- What stands before and after the first mark in a text. -/
def splitFirst? (mark : Char) : List Char → Option (List Char × List Char)
  | [] => none
  | c :: rest =>
    if c = mark then some ([], rest)
    else (splitFirst? mark rest).map fun p => (c :: p.1, p.2)

/-- What stands before and after the last mark in a text. -/
def splitLast? (mark : Char) : List Char → Option (List Char × List Char)
  | [] => none
  | c :: rest =>
    match splitLast? mark rest with
    | some (before, after) => some (c :: before, after)
    | none => if c = mark then some ([], rest) else none

/-! ### Anchors -/

/-- **Reads an anchor.** The last equals sign ends the name. -/
def readAnchor (text : String) : Except ValueFault Anchor :=
  match splitLast? '=' text.toList with
  | none => .error (.notAnchor text)
  | some (name, policy) =>
    (DataFlow.readAnchor (String.ofList name) (String.ofList policy)).mapError .policy

/-- The written form of an anchor. -/
def renderAnchor (a : Anchor) : String := a.name ++ "=" ++ a.policy.name

/-! ### Input shapes -/

/-- Reads one dimension; blanks around it do not count. -/
def readDimension (piece : List Char) : Except ValueFault Nat :=
  (Numeral.read Size.limit (trim piece)).mapError (.dimension (String.ofList piece))

/-- **Reads an input shape.** The first equals sign ends the name, and empty pieces between commas
are passed over. -/
def readShape (text : String) : Except ValueFault (String × List Nat) :=
  match splitFirst? '=' text.toList with
  | none => .error (.notShape text)
  | some (name, dims) => do
    let dims ← ((pieces ',' dims).filter fun piece => !piece.isEmpty).mapM readDimension
    return (String.ofList name, dims)

/-- The written form of an input shape. -/
def renderShape (shape : String × List Nat) : String :=
  shape.1 ++ "=" ++ ",".intercalate (shape.2.map toString)

/-! ### Numbers -/

/-- Reads a size. -/
def readSize (text : String) : Except ValueFault Nat :=
  (Numeral.read Size.limit text.toList).mapError .size

/-- Reads a single-precision number. -/
def readSingle (text : String) : Except ValueFault Single :=
  match Decimal.read .single text with
  | .ok bits => .ok ⟨UInt32.ofNat bits⟩
  | .error cause => .error (.decimal cause)

/-- Reads a double-precision number. -/
def readDouble (text : String) : Except ValueFault Float :=
  match Decimal.read .double text with
  | .ok bits => .ok (Float.ofBits (UInt64.ofNat bits))
  | .error cause => .error (.decimal cause)

end Microbatch.CommandLine
