import Microbatch.Numeral

set_option relaxedAutoImplicit false
set_option autoImplicit false

/-!
# Device targets

## Main definitions

* `Microbatch.Target` — the host, a simulator with a number of partitions, or an accelerator.
* `Microbatch.Target.render`, `Microbatch.Target.ofText?` — the written form and its reader.
-/

namespace Microbatch

/-- **Where a graph runs.** -/
inductive Target where
  /-- The host itself. -/
  | cpu
  /-- A simulated accelerator, split into partitions. -/
  | simulated (partitions : UInt32)
  /-- A physical accelerator. -/
  | accelerator (index : UInt32)
  deriving DecidableEq, Inhabited

namespace Target

/-- The written form. -/
def render : Target → String
  | cpu => "cpu"
  | simulated partitions => s!"sim:{partitions.toNat}"
  | accelerator index => s!"hw:{index.toNat}"

/-- A 32-bit number, written as an unsigned numeral. -/
def number? (cs : List Char) : Option UInt32 :=
  (Numeral.read UInt32.size cs).toOption.map UInt32.ofNat

/-- **The target with a written form.** The host is named in any letter case; a simulator has at
least one partition. -/
def ofText? (text : String) : Option Target :=
  if text.toList.map Char.toLower = ['c', 'p', 'u'] then some cpu
  else
    match text.toList with
    | 's' :: 'i' :: 'm' :: ':' :: rest =>
      (number? rest).bind fun partitions =>
        if partitions = 0 then none else some (simulated partitions)
    | 'h' :: 'w' :: ':' :: rest => (number? rest).map accelerator
    | _ => none

end Target

end Microbatch
