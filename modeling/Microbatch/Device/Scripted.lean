import Microbatch.Device.Basic

set_option relaxedAutoImplicit false
set_option autoImplicit false

/-!
# A device that follows a script

A scripted device computes nothing. It plays back prepared results and failures, so that what a
session does around a device can be rehearsed.

## Main definitions

* `Microbatch.Script` — what the device is to do.
* `Microbatch.ScriptedDevice` — the device, which counts what was asked of it.
* `Microbatch.ScriptedDevice.backend` — a backend of such devices.
-/

namespace Microbatch

/-- The outcome of one execution. -/
inductive Script.Run where
  /-- These tensors are returned, whatever was wanted. -/
  | values (tensors : List Tensor)
  /-- The execution fails. -/
  | failure (reason : String)

/-- **What a scripted device is to do.** -/
structure Script where
  /-- Whether the backend trains. -/
  supportsTraining : Bool := false
  /-- Into how many parts the backend can be split. -/
  maxPartitions : Nat := 1
  /-- Why compilation fails, if it does. -/
  compileFailure : Option String := none
  /-- The tensors that can be anchored. -/
  outputs : NameMap TensorInfo := .empty
  /-- How many attempts to attach the device fail first. -/
  acquireFailures : Nat := 0
  /-- Why taking weights fails, if it does. -/
  writeFailure : Option String := none
  /-- Why taking an optimizer fails, if it does. -/
  optimizerFailure : Option String := none
  /-- Why handing weights back fails, if it does. -/
  readFailure : Option String := none
  /-- Weights that are handed back in place of those that were taken. -/
  ownWeights : List (String × Tensor) := []
  /-- The outcomes of executions, over and over; without any, executions echo their first input. -/
  runs : List Script.Run := []

/-- **A device that follows a script.** -/
structure ScriptedDevice where
  /-- The script. -/
  script : Script
  /-- Where the device runs. -/
  target : Target
  /-- What it takes and gives. -/
  signature : Signature
  /-- The weights that were taken last. -/
  weights : WeightStore := .empty
  /-- How often the device was asked to attach. -/
  acquisitions : Nat := 0
  /-- How often it was asked to execute. -/
  executions : Nat := 0
  /-- How often it was released. -/
  releases : Nat := 0

namespace ScriptedDevice

/-- Succeeds unless the script gives a reason to fail. -/
def succeedUnless (failure : Option String) : Except DeviceFault Unit :=
  match failure with
  | none => .ok ()
  | some reason => .error (.reported reason)

/-- Fails as often as the script says. -/
def acquire (d : ScriptedDevice) : Except DeviceFault Unit × ScriptedDevice :=
  (if d.acquisitions < d.script.acquireFailures then .error (.reported "device busy") else .ok (),
    { d with acquisitions := d.acquisitions + 1 })

/-- Counts the release. -/
def release (d : ScriptedDevice) : ScriptedDevice := { d with releases := d.releases + 1 }

/-- Takes weights unless the script says otherwise. -/
def writeWeights (store : WeightStore) (d : ScriptedDevice) :
    Except DeviceFault Unit × ScriptedDevice :=
  match d.script.writeFailure with
  | some reason => (.error (.reported s!"script weights: {reason}"), d)
  | none => (.ok (), { d with weights := store })

/-- Hands back the weights taken last, with the script's own put over them. -/
def readWeights (d : ScriptedDevice) : Except DeviceFault WeightStore × ScriptedDevice :=
  ((succeedUnless d.script.readFailure).map fun _ => d.weights.insertAll d.script.ownWeights, d)

/-- Takes an optimizer unless the script says otherwise. -/
def writeOptimizer (_ : Optimizer) (d : ScriptedDevice) :
    Except DeviceFault Unit × ScriptedDevice :=
  (succeedUnless d.script.optimizerFailure, d)

/-- The outcome of the execution with a number. -/
def outcome (script : Script) (number : Nat) (inputs : List (String × Tensor))
    (wanted : List String) : Except DeviceFault (List Tensor) :=
  match script.runs[number % script.runs.length]?, inputs with
  | some (.values tensors), _ => .ok tensors
  | some (.failure reason), _ => .error (.reported s!"execution {number}: {reason}")
  | none, [] => .error (.reported "script has no input to echo")
  | none, (_, first) :: _ => .ok (wanted.map fun _ => first)

/-- Plays the next outcome. -/
def execute (inputs : List (String × Tensor)) (wanted : List String) (d : ScriptedDevice) :
    Except DeviceFault (List Tensor) × ScriptedDevice :=
  (outcome d.script d.executions inputs wanted, { d with executions := d.executions + 1 })

instance : Device ScriptedDevice where
  target := target
  signature := signature
  acquire := acquire
  release := release
  writeWeights := writeWeights
  readWeights := readWeights
  writeOptimizer := writeOptimizer
  execute := execute

/-- **A backend of scripted devices.** -/
def backend (script : Script) : Backend ScriptedDevice where
  name := "script"
  supportsTraining := script.supportsTraining
  maxPartitions := script.maxPartitions
  compile graph _ target :=
    match script.compileFailure with
    | some reason => .error (.refused s!"script compile: {reason}")
    | none => .ok { script, target, signature := ⟨graph.inputs, script.outputs⟩ }

end ScriptedDevice

end Microbatch
