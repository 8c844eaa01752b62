import Microbatch.CommandLine.Arguments
import Microbatch.CommandLine.Models
import Microbatch.Device.Host
import Microbatch.Session.Export

set_option relaxedAutoImplicit false
set_option autoImplicit false

/-!
# Running a model

A run loads a model, builds a session on the host for it, feeds it synthetic data for a number of
steps and reports every anchor. Once the session is built it is closed in the end, whatever happens
on the way.

## Main definitions

* `Microbatch.CommandLine.RunArguments.kind`, `Microbatch.CommandLine.RunArguments.options` — what
  the arguments of a run ask of the session.
* `Microbatch.CommandLine.syntheticDataset` — data for all inputs of a graph.
* `Microbatch.CommandLine.SessionT` — steps of a run, which keep the session when they fail.
* `Microbatch.CommandLine.run` — the run.
-/

namespace Microbatch.CommandLine

/-! ### What the arguments ask for -/

namespace RunArguments

/-- The device target. -/
def target (a : RunArguments) : Except Fault Target :=
  match Target.ofText? a.device with
  | some target => .ok target
  | none => .error (.configuration (.unsupportedTarget a.device))

/-- The descriptions of inputs; the last one of each name counts. -/
def shapes (a : RunArguments) : NameMap TensorInfo :=
  .ofList (a.inputShapes.map fun s => (s.1, .float32 s.2))

/-- What the session is for: training if a tensor to train on is named. -/
def kind (a : RunArguments) : Kind :=
  match a.trainOn with
  | none => .inference
  | some input =>
    .training [⟨input, "loss", a.lambda, a.lossReduction⟩]
      ⟨.replaceable, a.learningRate, a.weightDecay⟩

/-- The settings of the session; where there is an export directory, the model is exported to it. -/
def options (a : RunArguments) : Session.Options where
  logDirectory := a.logDirectory
  checkNumerics := a.checkNumerics
  exportOnRelease := a.logDirectory.isSome

/-- The micro-batches of the whole run. -/
def microBatches (a : RunArguments) : Nat := a.steps * a.batchesPerStep

end RunArguments

/-! ### Data -/

/-- **Data for all inputs of a graph**, enough for a number of micro-batches. An input's place in
name order tells its data from that of the others. -/
def syntheticDataset (inputs : NameMap TensorInfo) (microBatches : Nat) :
    Except Exchange.Demo.SyntheticFault (NameMap Tensor) := do
  let entries ← inputs.entries.zipIdx.mapM fun ((name, info), salt) => do
    let samples := info.shape.leading?.getD 1 * microBatches
    return (name, ← Exchange.Demo.syntheticInput info samples salt)
  return .ofList entries

/-- The samples of a micro-batch, which the first input with samples sets. -/
def batchSize? (inputs : NameMap TensorInfo) : Option Nat :=
  inputs.entries.findSome? fun e => e.2.shape.leading?

/-- The loader of synthetic data for a run. -/
def RunArguments.loader (a : RunArguments) (inputs : NameMap TensorInfo) :
    Except CommandFault Loader := do
  let dataset ← (syntheticDataset inputs a.microBatches).mapError .synthetic
  match batchSize? inputs with
  | none => .error .noBatch
  | some batchSize => (Loader.ofDataset dataset a.batchesPerStep batchSize).mapError .loader

/-! ### The session of a run -/

variable {m : Type → Type} [Monad m] [FileStore m] [Console m]

/-- **Steps of a run.** A step that fails leaves the session as it is then. -/
abbrev SessionT (m : Type → Type) (α : Type) := CommandT (StateT (Session HostDevice) m) α

/-- An operation of the session. -/
def operate {ε α : Type} (fault : ε → CommandFault)
    (operation : Session HostDevice → Except ε α × Session HostDevice) : SessionT m α :=
  attempt fault fun s => return operation s

/-- Attaches the device and hands over what the session needs there. -/
def attach (a : RunArguments) : SessionT m Unit := do
  operate .session Session.prepare
  operate .session Session.pushWeights
  if a.kind.isTraining then operate .session Session.pushOptimizer

/-- Runs steps on the data of a loader, up to a number of them, and reports every anchor. -/
def runSteps (loader : Loader) : Nat → SessionT m Unit
  | 0 => return
  | n + 1 =>
    match loader.next with
    | (none, _) => return
    | (some (.error cause), _) => throw (.slice cause)
    | (some (.ok inputs), loader) => do
      let response ← operate .ofWorker (Worker.answer inputs)
      response.anchors.forM fun (name, value) =>
        (Console.report (.anchor response.step name value) : m Unit)
      runSteps loader n

/-- Writes the model, if a file is named for it. -/
def save (path : Option String) : SessionT m Unit :=
  match path with
  | none => return
  | some path => attempt .session fun s => s.writeModel path

/-- What happens to the session of a run before it is closed. -/
def runSession (a : RunArguments) (inputs : NameMap TensorInfo) : SessionT m Unit := do
  attach a
  let loader ← expect id (a.loader inputs)
  runSteps loader a.steps
  save a.save

/-- Makes the export directory, if there is to be one. -/
def createLogDirectory (directory : Option String) : CommandT m Unit :=
  match directory with
  | none => return
  | some directory => attempt .logDirectory (FileStore.createDirectories directory)

/-- Loads the model of a run. -/
def loadModel (a : RunArguments) : CommandT m Graph := do
  let model ← attempt (fun cause => .load (.file cause)) (FileStore.load a.model)
  expect .ofLoad (Exchange.loadGraph model a.shapes)

/-- **Runs a model** on synthetic data. -/
def run (a : RunArguments) : CommandT m Unit := do
  let target ← expect .session a.target
  let graph ← loadModel a
  let flow ← expect .session (DataFlow.ofAnchors a.batchesPerStep a.anchors)
  createLogDirectory a.logDirectory
  let session ← expect .session
    (Session.build HostDevice.backend graph flow target a.kind a.options)
  attempt id do
    let (result, session) ← (runSession a graph.inputs).run.run session
    let _ ← session.close
    return result

end Microbatch.CommandLine
