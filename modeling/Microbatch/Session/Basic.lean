import Microbatch.Anchor.Buffer
import Microbatch.Anchor.Registry
import Microbatch.DataFlow
import Microbatch.Device.Basic
import Microbatch.Exchange.Load

set_option relaxedAutoImplicit false
set_option autoImplicit false

/-!
# Sessions

A session binds a compiled graph to a device. The host owns weights and optimizer; they reach the
device, and come back from it, by explicit transfers only, and the session knows whether the
device's copies are current.

Every operation gives its result together with the session as it is afterwards.

## Main definitions

* `Microbatch.Session` — the session, with its `Microbatch.Session.State` and two
  `Microbatch.Session.Sync` marks.
* `Microbatch.Session.build` — a session for a graph.
* `Microbatch.Session.prepare`, `Microbatch.Session.pushWeights`, `Microbatch.Session.pullWeights`,
  `Microbatch.Session.pushOptimizer`, `Microbatch.Session.updateOptimizer`,
  `Microbatch.Session.resetWeights` — what may be done with it.
-/

namespace Microbatch

/-- **The states of a session.** -/
inductive Session.State where
  /-- The device was never attached. -/
  | unbuilt
  /-- The device is attached and no step has run. -/
  | prepared
  /-- Steps are being run. -/
  | running
  /-- A step failed part-way; the session can only be released. -/
  | faulted
  /-- The device was released. -/
  | stopped
  deriving DecidableEq, Inhabited

/-- Whether the device's copy of something is current. -/
inductive Session.Sync where
  /-- It is. -/
  | synced
  /-- It may not be. -/
  | stale
  deriving DecidableEq, Inhabited

/-- **Settings of a session.** -/
structure Session.Options where
  /-- Where exported models are written. -/
  logDirectory : Option String := none
  /-- Whether a step fails when an anchor takes a value that is not finite. -/
  checkNumerics : Bool := false
  /-- Whether the model is exported when the device is released. -/
  exportOnRelease : Bool := false
  deriving DecidableEq, Inhabited

/-- **A session** on a device of some type. -/
structure Session (D : Type) where
  /-- The device. -/
  device : D
  /-- The graph that it was built from. -/
  graph : Graph
  /-- How many micro-batches make up a step and what comes back. -/
  flow : DataFlow
  /-- The anchors. -/
  registry : Registry
  /-- The anchor buffers, in the order of the anchors. -/
  buffers : List Buffer
  /-- The host's weights. -/
  weights : WeightStore
  /-- The host's optimizer; an inference session has none. -/
  optimizer : Option Optimizer
  /-- Whether the device has the host's weights, or newer ones. -/
  weightSync : Session.Sync
  /-- Whether the device has the host's optimizer. -/
  optimizerSync : Session.Sync
  /-- The state. -/
  state : Session.State
  /-- Whether the device is attached. -/
  acquired : Bool
  /-- The number of completed steps. -/
  steps : Nat
  /-- The settings. -/
  options : Session.Options

namespace Session

variable {D : Type} [Device D]

/-! ### Building -/

/-- Checks what is asked against what a backend can do. -/
def checkAbilities (backend : Backend D) (flow : DataFlow) (target : Target) (kind : Kind) :
    Except ConfigurationFault Unit :=
  if kind.isTraining = false ∧ flow.anchors = [] then .error .noAnchor
  else if kind.isTraining ∧ backend.supportsTraining = false then
    .error (.cannotTrain backend.name)
  else
    match target with
    | .simulated partitions =>
      if partitions.toNat ≤ backend.maxPartitions then .ok ()
      else .error (.tooManyPartitions backend.name backend.maxPartitions partitions.toNat)
    | .cpu => .ok ()
    | .accelerator _ => .ok ()

/-- The buffers of the registered anchors. -/
def makeBuffers (registry : Registry) (flow : DataFlow) :
    Except ConfigurationFault (List Buffer) := do
  let layouts ← registry.layouts flow.microBatches
  layouts.mapM Buffer.ofLayout

/-- **Builds a session.** The graph is compiled and the buffers are made; the device is not
touched. -/
def build (backend : Backend D) (graph : Graph) (flow : DataFlow) (target : Target) (kind : Kind)
    (options : Options) : Except Fault (Session D) := do
  (checkAbilities backend flow target kind).mapError .configuration
  let device ← (backend.compile graph kind target).mapError .model
  let registry ← (Registry.ofAvailable (Device.signature device).outputs).registerAll flow.anchors
  let buffers ← (makeBuffers registry flow).mapError .configuration
  return {
    device, graph, flow, registry, buffers, options
    weights := graph.weights
    optimizer := kind.optimizer?
    weightSync := .stale
    optimizerSync := .stale
    state := .unbuilt
    acquired := false
    steps := 0 }

/-! ### What the state allows -/

/-- A faulted session refuses. -/
def requireLive (s : Session D) : Except Fault Unit :=
  if s.state = .faulted then .error .sessionFaulted else .ok ()

/-- A session without an attached device refuses. -/
def requireDevice (s : Session D) : Except Fault Unit :=
  match s.state with
  | .faulted => .error .sessionFaulted
  | .prepared => .ok ()
  | .running => .ok ()
  | .unbuilt => .error .deviceNotPrepared
  | .stopped => .error .deviceNotPrepared

/-- The host's optimizer; an inference session has none. -/
def requireOptimizer (s : Session D) : Except Fault Optimizer :=
  match s.optimizer with
  | some optimizer => .ok optimizer
  | none => .error (.configuration .noOptimizer)

/-- **The anchor buffers** as of the last completed step. A faulted session may hold half a step, so
it shows none. -/
def anchors (s : Session D) : Except Fault (List Buffer) := s.requireLive.map fun _ => s.buffers

/-- The buffer of one anchor. -/
def anchor (s : Session D) (name : String) : Except Fault (Option Buffer) :=
  s.anchors.map fun buffers => buffers.find? fun b => b.name == name

/-- Copies of all buffers, in the order of the anchors. -/
def snapshot (buffers : List Buffer) : List (String × Tensor) :=
  buffers.map fun b => (b.name, b.toTensor)

/-! ### Attaching the device -/

/-- Whether the device can be attached in a state. -/
def requireDetached (s : Session D) : Except Fault Unit :=
  match s.state with
  | .faulted => .error .sessionFaulted
  | .prepared => .error .alreadyPrepared
  | .running => .error .alreadyPrepared
  | .unbuilt => .ok ()
  | .stopped => .ok ()

/-- **Attaches the device.** It has neither weights nor an optimizer then. A device that cannot be
attached is released. -/
def prepare (s : Session D) : Except Fault Unit × Session D :=
  match s.requireDetached with
  | .error fault => (.error fault, s)
  | .ok () =>
    match Device.acquire s.device with
    | (.error cause, device) =>
      let device := Device.release device
      (.error (.deviceUnavailable (Device.target device) cause), { s with device := device })
    | (.ok (), device) =>
      (.ok (), { s with device := device, acquired := true, state := .prepared,
                        weightSync := .stale, optimizerSync := .stale })

/-! ### Transfers -/

/-- **Hands the host's weights to the device.** -/
def pushWeights (s : Session D) : Except Fault Unit × Session D :=
  match s.requireDevice with
  | .error fault => (.error fault, s)
  | .ok () =>
    match Device.writeWeights s.weights s.device with
    | (.error cause, device) => (.error (.device cause), { s with device := device })
    | (.ok (), device) => (.ok (), { s with device := device, weightSync := .synced })

/-- **Takes the device's weights over** into the host's, if the device's are current. -/
def pullWeights (s : Session D) : Except Fault Unit × Session D :=
  match s.requireDevice with
  | .error fault => (.error fault, s)
  | .ok () =>
    if s.weightSync = .stale then (.error .weightsStale, s)
    else
      match Device.readWeights s.device with
      | (.error cause, device) => (.error (.device cause), { s with device := device })
      | (.ok weights, device) =>
        (.ok (), { s with device := device, weights := s.weights.insertAll weights.entries })

/-- **Hands the host's optimizer to the device.** -/
def pushOptimizer (s : Session D) : Except Fault Unit × Session D :=
  match s.requireDevice with
  | .error fault => (.error fault, s)
  | .ok () =>
    match s.requireOptimizer with
    | .error fault => (.error fault, s)
    | .ok optimizer =>
      match Device.writeOptimizer optimizer s.device with
      | (.error cause, device) => (.error (.device cause), { s with device := device })
      | (.ok (), device) => (.ok (), { s with device := device, optimizerSync := .synced })

/-- **Replaces the host's optimizer.** The device keeps the old one until the next transfer. -/
def updateOptimizer (next : Optimizer) (s : Session D) : Except Fault Unit × Session D :=
  match s.requireLive with
  | .error fault => (.error fault, s)
  | .ok () =>
    match s.requireOptimizer with
    | .error fault => (.error fault, s)
    | .ok current =>
      match current.checkReplacement next with
      | .error cause => (.error (.configuration cause), s)
      | .ok () => (.ok (), { s with optimizer := some next, optimizerSync := .stale })

/-- **Replaces host weights** by those of a serialized model. The result is their number. -/
def resetWeights (model : Bytes) (s : Session D) : Except Fault Nat × Session D :=
  match s.requireLive with
  | .error fault => (.error fault, s)
  | .ok () =>
    match Exchange.readWeights model with
    | .error cause => (.error (.model (.unreadable cause)), s)
    | .ok source =>
      match WeightStore.resetFrom s.weights source with
      | .error fault => (.error fault, s)
      | .ok (count, weights) => (.ok count, { s with weights := weights, weightSync := .stale })

end Session

end Microbatch
