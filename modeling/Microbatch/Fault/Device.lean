import Microbatch.Tensor.Basic

set_option relaxedAutoImplicit false
set_option autoImplicit false

/-!
# Faults of devices

## Main definitions

* `Microbatch.DeviceFault` — why a device operation fails, with its wording.
-/

namespace Microbatch

/-- **Why a device operation fails.** -/
inductive DeviceFault where
  /-- The simulator cannot be split that far. -/
  | tooManyPartitions (most requested : Nat)
  /-- The host has no such accelerator. -/
  | noAccelerator (index : Nat)
  /-- The device was not acquired. -/
  | notAttached
  /-- The host lacks the value of a weight. -/
  | missingWeight (name : String)
  /-- A weight does not have the compiled description. -/
  | weightInfo (name : String) (actual expected : TensorInfo)
  /-- A tensor has no numbers of the wanted kind. -/
  | tensor (cause : TensorFault)
  /-- There are no weights to hand back. -/
  | noWeights
  /-- There are no weights to run with. -/
  | weightsNeverWritten
  /-- There is no optimizer to train with. -/
  | optimizerNeverWritten
  /-- A node or a loss reads a tensor that has no value. -/
  | unavailable (name : String)
  /-- A tensor was asked for that has no value. -/
  | notComputed (name : String)
  /-- A tensor was asked for that has a value but no description. -/
  | noInfo (name : String)
  /-- The device returned the wrong number of tensors. -/
  | wrongCount (returned expected : Nat)
  /-- The device gives a reason of its own. -/
  | reported (reason : String)
  deriving DecidableEq

/-- The wording of a fault. -/
def DeviceFault.message : DeviceFault → String
  | tooManyPartitions most requested =>
    s!"simulator supports at most {most} partitions, requested {requested}"
  | noAccelerator index => s!"no physical accelerator {index} is attached to this host"
  | notAttached => "device is not attached"
  | missingWeight name => s!"host has no value for weight `{name}`"
  | weightInfo name actual expected => s!"weight `{name}` is {actual}, device expects {expected}"
  | tensor cause => cause.message
  | noWeights => "device holds no weights"
  | weightsNeverWritten => "weights were never written to the device"
  | optimizerNeverWritten => "optimizer was never written to the device"
  | unavailable name => s!"`{name}` is not available"
  | notComputed name => s!"tensor `{name}` was not computed"
  | noInfo name => s!"no info for `{name}`"
  | wrongCount returned expected =>
    s!"device returned {returned} tensors for {expected} anchors"
  | reported reason => reason

end Microbatch
