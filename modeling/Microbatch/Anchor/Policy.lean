import Microbatch.Tensor.Info

set_option relaxedAutoImplicit false
set_option autoImplicit false

/-!
# Anchor policies

An anchor is a tensor whose values over the micro-batches of a step are handed back to the host. Its
policy says how they become one buffer.

## Main definitions

* `Microbatch.Policy` — stack, add up, or keep the last.
* `Microbatch.Anchor` — a tensor name with a policy.
-/

namespace Microbatch

/-- **How the values of an anchor over one step become one buffer.** -/
inductive Policy where
  /-- Every micro-batch's value, stacked along the leading dimension. -/
  | all
  /-- The running sum over micro-batches, samples folded onto one group. -/
  | sum
  /-- The last micro-batch's value. -/
  | last
  deriving DecidableEq, Inhabited

namespace Policy

/-- The written form. -/
def name : Policy → String
  | all => "ALL"
  | sum => "SUM"
  | last => "FINAL"

/-- The policy with a written form, in any letter case. -/
def ofText? (text : String) : Option Policy :=
  match text.toList.map Char.toUpper with
  | ['A', 'L', 'L'] => some all
  | ['S', 'U', 'M'] => some sum
  | ['F', 'I', 'N', 'A', 'L'] => some last
  | _ => none

@[simp] theorem ofText?_name (p : Policy) : ofText? p.name = some p := by
  cases p <;> decide +kernel

end Policy

/-- **An anchor**: which tensor comes back, and how. -/
structure Anchor where
  /-- The tensor. -/
  name : String
  /-- The policy. -/
  policy : Policy
  deriving DecidableEq, Inhabited

end Microbatch
