import Microbatch.Fault.Configuration
import Microbatch.Fault.Device
import Microbatch.Fault.File
import Microbatch.Fault.Model
import Microbatch.Target

set_option relaxedAutoImplicit false
set_option autoImplicit false

/-!
# Faults of sessions

Every operation of a session, and of what a session is built from, fails with one type of fault. A
fault names its cause; the wording is derived from it.

## Main definitions

* `Microbatch.Hint` — what a report of an unknown tensor adds.
* `Microbatch.Fault` — the fault, with `Microbatch.Fault.message` and
  `Microbatch.Fault.isConfiguration`.
-/

namespace Microbatch

/-- **What helps with an unknown tensor.** -/
inductive Hint where
  /-- The tensor exists, but nothing leads from it to a loss. -/
  | noGradient (tensor : String)
  /-- The name is no input of the graph. -/
  | notInput
  /-- The name is a weight. -/
  | isWeight
  deriving DecidableEq

/-- The wording of a hint. -/
def Hint.message : Hint → String
  | noGradient tensor =>
    s!"`{tensor}` exists, but not every gradient can be anchored: " ++
      "a tensor that does not lead to the loss has no gradient"
  | notInput => "it is not an input of the graph"
  | isWeight => "it is a weight; only streamed inputs take a shape"

/-- **Why an operation fails.** -/
inductive Fault where
  /-- An anchor is asked for twice. -/
  | duplicateAnchor (name : String)
  /-- No tensor has this name. -/
  | unknownTensor (name : String) (hint : Option Hint)
  /-- A graph input has no data. -/
  | missingInput (name : String)
  /-- The configuration is refused. -/
  | configuration (cause : ConfigurationFault)
  /-- No policy is written like this. -/
  | unsupportedPolicy (text : String)
  /-- A tensor is not what is expected of it. -/
  | mismatch (cause : Mismatch)
  /-- The device cannot be acquired. -/
  | deviceUnavailable (target : Target) (cause : DeviceFault)
  /-- The device is acquired already. -/
  | alreadyPrepared
  /-- The device is not acquired. -/
  | deviceNotPrepared
  /-- The device does not have the current weights. -/
  | weightsStale
  /-- The device does not have the current optimizer. -/
  | optimizerStale
  /-- A step failed part-way. -/
  | sessionFaulted
  /-- The session is in use. -/
  | concurrentAccess
  /-- An anchor took a value that is not finite. -/
  | nonFinite (anchor : String)
  /-- A model is not usable. -/
  | model (cause : ModelFault)
  /-- The device fails. -/
  | device (cause : DeviceFault)
  /-- A file cannot be read or written. -/
  | file (cause : FileFault)
  deriving DecidableEq

namespace Fault

/-- The wording of a fault. -/
def message : Fault → String
  | duplicateAnchor name => s!"anchor `{name}` is already registered"
  | unknownTensor name none => s!"tensor `{name}` is not produced by the graph"
  | unknownTensor name (some hint) =>
    s!"tensor `{name}` is not produced by the graph. {hint.message}"
  | missingInput name => s!"no data supplied for graph input `{name}`"
  | configuration cause => s!"invalid configuration: {cause.message}"
  | unsupportedPolicy text => s!"unsupported reduction `{text}` (expected ALL, SUM or FINAL)"
  | mismatch cause => cause.message
  | deviceUnavailable target cause =>
    s!"device `{target.render}` is unavailable: {cause.message}"
  | alreadyPrepared => "device is already prepared"
  | deviceNotPrepared => "device has not been prepared"
  | weightsStale => "host weights changed since the last weights_from_host"
  | optimizerStale => "optimizer changed since the last optimizer_from_host"
  | sessionFaulted => "session is faulted and must be rebuilt"
  | concurrentAccess => "another step is already running on this session"
  | nonFinite anchor => s!"anchor `{anchor}` holds a non-finite value"
  | model cause => s!"model error: {cause.message}"
  | device cause => s!"device error: {cause.message}"
  | file cause => s!"IO error: {cause.message}"

/-- Whether the fault lies in how a session was set up; such a fault never goes away by itself. -/
def isConfiguration : Fault → Bool
  | duplicateAnchor _ => true
  | unknownTensor _ _ => true
  | configuration _ => true
  | unsupportedPolicy _ => true
  | _ => false

end Fault

end Microbatch
