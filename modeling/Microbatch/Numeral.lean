set_option relaxedAutoImplicit false
set_option autoImplicit false

/-!
# Reading decimal numerals

An unsigned numeral is an optional plus sign and at least one ASCII digit. It is read from left to
right, and reading stops at the first character that is no digit or that makes the value too large.

## Main definitions

* `Microbatch.Numeral.read` — the value of a numeral below a limit, or why there is none.
* `Microbatch.Numeral.Fault` — the reasons.
-/

namespace Microbatch.Numeral

/-- **Why a text is no numeral.** -/
inductive Fault where
  /-- There is nothing to read. -/
  | empty
  /-- A character is no digit, or there is only a sign. -/
  | invalidDigit
  /-- The value reaches the limit. -/
  | tooLarge
  deriving DecidableEq

/-- The wording of a fault. -/
def Fault.message : Fault → String
  | empty => "cannot parse integer from empty string"
  | invalidDigit => "invalid digit found in string"
  | tooLarge => "number too large to fit in target type"

/-- The value of an ASCII digit. -/
def digit? (c : Char) : Option Nat :=
  if '0' ≤ c ∧ c ≤ '9' then some (c.toNat - '0'.toNat) else none

/-- Appends one digit to a value below the limit. -/
def push (limit : Nat) (value : Nat) (c : Char) : Except Fault Nat :=
  match digit? c with
  | none => .error .invalidDigit
  | some d => if value * 10 + d < limit then .ok (value * 10 + d) else .error .tooLarge

/-- The value of a run of digits, below the limit. -/
def readDigits (limit : Nat) (cs : List Char) : Except Fault Nat :=
  if cs.isEmpty then .error .invalidDigit else cs.foldlM (push limit) 0

/-- **The value of an unsigned numeral** below the limit. -/
def read (limit : Nat) (cs : List Char) : Except Fault Nat :=
  match cs with
  | [] => .error .empty
  | '+' :: digits => readDigits limit digits
  | digits => readDigits limit digits

end Microbatch.Numeral
