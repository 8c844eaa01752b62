import Microbatch.Session.Basic
import Microbatch.Session.Inputs

set_option relaxedAutoImplicit false
set_option autoImplicit false

/-!
# Running steps

A step cuts its inputs into micro-batches, runs them one after the other and lets each fill the
anchor buffers. Inputs are checked before the device is touched; what fails later faults the
session.

## Main definitions

* `Microbatch.Session.runMicroBatch` — one micro-batch.
* `Microbatch.Session.runStep` — one step.
-/

namespace Microbatch.Session

variable {D : Type} [Device D]

/-- Whether a step can run: the device is attached and has current weights and, if the session
trains, the current optimizer. -/
def requireReady (s : Session D) : Except Fault Unit :=
  match s.requireDevice with
  | .error fault => .error fault
  | .ok () =>
    if s.weightSync = .stale then .error .weightsStale
    else if s.optimizer.isSome ∧ s.optimizerSync = .stale then .error .optimizerStale
    else .ok ()

/-- Takes what the device returned for one micro-batch into the buffers. -/
def takeValues (s : Session D) (values : List Tensor) : Except Fault (List Buffer) :=
  if values.length ≠ s.registry.names.length then
    .error (.device (.wrongCount values.length s.registry.names.length))
  else Buffer.fillAll s.options.checkNumerics s.buffers values

/-- **Runs one micro-batch** and fills the buffers. -/
def runMicroBatch (inputs : List (String × Tensor)) (s : Session D) :
    Except Fault Unit × Session D :=
  match Device.execute inputs s.registry.names s.device with
  | (.error cause, device) => (.error (.device cause), { s with device := device })
  | (.ok values, device) =>
    match s.takeValues values with
    | .error fault => (.error fault, { s with device := device })
    | .ok buffers => (.ok (), { s with device := device, buffers := buffers })

/-- Runs micro-batches in order; the first failure faults the session and ends the run. -/
def runMicroBatches (s : Session D) :
    List (List (String × Tensor)) → Except Fault Unit × Session D
  | [] => (.ok (), s)
  | inputs :: rest =>
    match s.runMicroBatch inputs with
    | (.error fault, s) => (.error fault, { s with state := .faulted })
    | (.ok (), s) => runMicroBatches s rest

/-- The session at the start of a step. -/
def beginStep (s : Session D) : Session D :=
  { s with state := .running, buffers := s.buffers.map Buffer.beginStep }

/-- **Runs one step.** A refused input leaves the session as it is. -/
def runStep (inputs : StepInputs) (s : Session D) : Except Fault Unit × Session D :=
  match s.requireReady with
  | .error fault => (.error fault, s)
  | .ok () =>
    match inputs.streams (Device.signature s.device).inputs s.flow.microBatches with
    | .error fault => (.error fault, s)
    | .ok streams =>
      match s.beginStep.runMicroBatches (Stream.feeds streams s.flow.microBatches) with
      | (.error fault, s) => (.error fault, s)
      | (.ok (), s) => (.ok (), { s with steps := s.steps + 1 })

/-- Runs one step and copies the anchors. -/
def runStepSnapshot (inputs : StepInputs) (s : Session D) :
    Except Fault (List (String × Tensor)) × Session D :=
  match s.runStep inputs with
  | (.error fault, s) => (.error fault, s)
  | (.ok (), s) => (s.anchors.map snapshot, s)

end Microbatch.Session
