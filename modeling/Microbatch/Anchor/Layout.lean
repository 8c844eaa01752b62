import Microbatch.Anchor.Policy
import Microbatch.Fault.Configuration

set_option relaxedAutoImplicit false
set_option autoImplicit false

/-!
# Shapes of anchor buffers

## Main definitions

* `Microbatch.Policy.bufferShape` — the shape of the buffer that an anchor fills over one step.
* `Microbatch.Layout` — the description of one micro-batch's value and of the buffer.
-/

namespace Microbatch

/-- The shape that the leading dimension of an anchor takes in its buffer, before its element count
is checked. Stacking multiplies it, summing divides it. -/
def Policy.scaleLeading (policy : Policy) (base : Shape) (leading microBatches : Nat) :
    Except ConfigurationFault Shape :=
  match policy with
  | .all =>
    match Size.mul? leading microBatches with
    | some stacked => .ok (base.withLeading stacked)
    | none => .error (.stackTooLarge leading microBatches)
  | .sum =>
    if leading % microBatches = 0 then .ok (base.withLeading (leading / microBatches))
    else .error (.indivisibleSum leading microBatches)
  | .last => .ok base

/-- **The shape of an anchor buffer** for values of a base shape. A scalar has no leading dimension:
stacked values form a vector, and a sum or a last value stays a scalar. -/
def Policy.bufferShape (policy : Policy) (base : Shape) (microBatches : Nat) :
    Except ConfigurationFault Shape :=
  if microBatches = 0 then .error .noMicroBatches
  else
    match base.leading? with
    | none =>
      match policy with
      | .all => .ok ⟨[microBatches]⟩
      | .sum => .ok .scalar
      | .last => .ok .scalar
    | some leading => do
      let shape ← policy.scaleLeading base leading microBatches
      if shape.count?.isSome then .ok shape else .error (.bufferTooLarge shape)

/-- **The layout of an anchor**: what one micro-batch yields and what a step fills. -/
structure Layout where
  /-- The anchored tensor. -/
  name : String
  /-- The policy. -/
  policy : Policy
  /-- The description of the value of one micro-batch. -/
  microBatch : TensorInfo
  /-- The description of the buffer. -/
  buffer : TensorInfo
  deriving DecidableEq, Inhabited

end Microbatch
