import Microbatch.Device.Basic
import Microbatch.Program.Backward
import Microbatch.Program.Compile

set_option relaxedAutoImplicit false
set_option autoImplicit false

/-!
# The host as a device

The host runs programs itself, as a plain target or as a simulator with up to sixteen partitions. It
has no accelerator.

## Main definitions

* `Microbatch.HostDevice` — a program with what the device holds.
* `Microbatch.HostDevice.execute` — runs one micro-batch; a training program then moves its weights.
* `Microbatch.HostDevice.backend` — compiles graphs for the host.
-/

namespace Microbatch

/-- The values of a weight on the device. -/
structure Parameter where
  /-- The shape of the weight. -/
  shape : Shape
  /-- Its elements. -/
  values : List Single
  deriving DecidableEq, Inhabited

/-- **A program on the host**, with what the device holds of it. -/
structure HostDevice where
  /-- Where the program runs. -/
  target : Target
  /-- The program. -/
  program : Program
  /-- Whether running moves the weights. -/
  training : Bool
  /-- Whether the device is attached. -/
  attached : Bool := false
  /-- The weights, once they are written. -/
  weights : Option (NameMap Parameter) := none
  /-- The optimizer, once it is written. -/
  optimizer : Option Optimizer := none

namespace HostDevice

/-- Into how many parts the simulator can be split. -/
def maxPartitions : Nat := 16

/-! ### Attaching -/

/-- Attaches the device, if the host has it. -/
def acquire (d : HostDevice) : Except DeviceFault Unit × HostDevice :=
  match d.target with
  | .cpu => (.ok (), { d with attached := true })
  | .simulated partitions =>
    if partitions.toNat ≤ maxPartitions then (.ok (), { d with attached := true })
    else (.error (.tooManyPartitions maxPartitions partitions.toNat), d)
  | .accelerator index => (.error (.noAccelerator index.toNat), d)

/-- Detaches the device; it forgets weights and optimizer. -/
def release (d : HostDevice) : HostDevice :=
  if d.attached then { d with attached := false, weights := none, optimizer := none } else d

/-! ### Weights and optimizer -/

/-- The values that the device takes for a weight. -/
def parameter (store : WeightStore) (name : String) (info : TensorInfo) :
    Except DeviceFault Parameter :=
  match store.find? name with
  | none => .error (.missingWeight name)
  | some t =>
    if t.info = info then
      (t.toSingles.mapError .tensor).map fun values => ⟨info.shape, values⟩
    else .error (.weightInfo name t.info info)

/-- The values that the device takes for all weights of its program. -/
def parameters (weights : NameMap TensorInfo) (store : WeightStore) :
    Except DeviceFault (NameMap Parameter) := do
  let entries ← weights.entries.mapM fun e => return (e.1, ← parameter store e.1 e.2)
  return .ofList entries

/-- Takes the weights of the host. -/
def writeWeights (store : WeightStore) (d : HostDevice) : Except DeviceFault Unit × HostDevice :=
  if d.attached then
    match parameters d.program.weights store with
    | .ok weights => (.ok (), { d with weights := some weights })
    | .error cause => (.error cause, d)
  else (.error .notAttached, d)

/-- Hands the weights back as tensors. -/
def readWeights (d : HostDevice) : Except DeviceFault WeightStore × HostDevice :=
  match d.weights with
  | some weights => (.ok (weights.mapValues fun _ p => .ofSingles p.shape p.values), d)
  | none => (.error .noWeights, d)

/-- Takes the optimizer of the host. -/
def writeOptimizer (optimizer : Optimizer) (d : HostDevice) :
    Except DeviceFault Unit × HostDevice :=
  if d.attached then (.ok (), { d with optimizer := some optimizer })
  else (.error .notAttached, d)

/-! ### Running -/

/-- The values of the inputs and of the weights, from which a program starts. -/
def startValues (inputs : List (String × Tensor)) (weights : NameMap Parameter) :
    Except DeviceFault (Values Single) := do
  let fed ← inputs.mapM fun e => return (e.1, ← e.2.toSingles.mapError .tensor)
  return (NameMap.ofList fed).insertAll (weights.entries.map fun e => (e.1, e.2.values))

/-- The weights after one step of descent; weights that are not trained stay. -/
def descend (trainable : List String) (optimizer : Optimizer) (gradients : Gradients Single)
    (weights : NameMap Parameter) : NameMap Parameter :=
  weights.mapValues fun name p =>
    if trainable.contains name then
      match gradients.find? name with
      | some gradient =>
        { p with values :=
            Kernel.descend optimizer.learningRate optimizer.weightDecay p.values gradient }
      | none => p
    else p

/-- The trained weight whose gradient has a name. -/
def trainedGradient? (program : Program) (name : String) : Option String :=
  (gradientOf? name).bind fun weight =>
    if program.trainable.contains weight then some weight else none

/-- The description of a tensor that is handed out under a name. -/
def fetchInfo (program : Program) (key name : String) : Except DeviceFault TensorInfo :=
  match program.infos.find? key with
  | some info => .ok info
  | none => .error (.noInfo name)

/-- **One wanted tensor**: the gradient of a trained weight, or else a computed tensor. -/
def fetch (program : Program) (values : Values Single) (gradients : Gradients Single)
    (name : String) : Except DeviceFault Tensor :=
  match trainedGradient? program name with
  | some weight => do
    let info ← fetchInfo program weight name
    return .ofSingles info.shape
      ((gradients.find? weight).getD (Kernel.zeros info.shape.count))
  | none =>
    match values.find? name with
    | none => .error (.notComputed name)
    | some data => do
      let info ← fetchInfo program name name
      return .ofSingles info.shape data

/-- **Runs one micro-batch.** A training program moves its weights once all gradients are known; the
tensors that are handed out still show the weights that were used. -/
def execute (inputs : List (String × Tensor)) (wanted : List String) (d : HostDevice) :
    Except DeviceFault (List Tensor) × HostDevice :=
  if d.attached = false then (.error .notAttached, d)
  else
    match d.weights with
    | none => (.error .weightsNeverWritten, d)
    | some weights =>
      match startValues inputs weights >>= d.program.forward with
      | .error cause => (.error cause, d)
      | .ok values =>
        if d.training then
          match d.optimizer with
          | none => (.error .optimizerNeverWritten, d)
          | some optimizer =>
            match d.program.backward values with
            | .error cause => (.error cause, d)
            | .ok gradients =>
              (wanted.mapM (fetch d.program values gradients),
                { d with
                  weights := some (descend d.program.trainable optimizer gradients weights) })
        else (wanted.mapM (fetch d.program values .empty), d)

instance : Device HostDevice where
  target := target
  signature d := d.program.signature
  acquire := acquire
  release := release
  writeWeights := writeWeights
  readWeights := readWeights
  writeOptimizer := writeOptimizer
  execute := execute

/-- **Compiles graphs for the host.** -/
def backend : Backend HostDevice where
  name := "cpu"
  supportsTraining := true
  maxPartitions := maxPartitions
  compile graph kind target :=
    match Program.compile graph kind with
    | .ok program => .ok { target := target, program := program, training := kind.isTraining }
    | .error cause => .error (.uncompiled cause)

end HostDevice

end Microbatch
