import Microbatch.Fault.Device
import Microbatch.Program.Basic

set_option relaxedAutoImplicit false
set_option autoImplicit false

/-!
# Running a program forward

## Main definitions

* `Microbatch.Values` — the elements of every tensor computed so far.
* `Microbatch.Expression.evaluate`, `Microbatch.Loss.value` — one result.
* `Microbatch.Program.forward` — all nodes, then all losses, in order.
-/

namespace Microbatch

variable {F : Type} [Scalar F]

/-- **The elements of the tensors known so far.** -/
abbrev Values (F : Type) := NameMap (List F)

/-- The elements of a tensor that is read. -/
def Values.read (values : Values F) (name : String) : Except DeviceFault (List F) :=
  match values.find? name with
  | some xs => .ok xs
  | none => .error (.unavailable name)

/-- **The elements of an expression.** -/
def Expression.evaluate (values : Values F) : Expression → Except DeviceFault (List F)
  | matmul size left right => do
    let a ← values.read left
    let b ← values.read right
    return Kernel.matmul size a b
  | add left right => do
    let a ← values.read left
    let b ← values.read right
    return Kernel.add a b
  | relu operand => return Kernel.relu (← values.read operand)
  | identity operand => values.read operand
  | scale factor operand => return Kernel.scale (Scalar.ofSingle factor) (← values.read operand)

/-- How many elements a mean divides by; an empty tensor counts as one. -/
def meanDivisor (xs : List F) : F := Scalar.ofNat (max xs.length 1)

/-- The value of a loss on the elements of its input. -/
def Loss.value (loss : Loss) (xs : List F) : F :=
  let total := Scalar.mul (Scalar.ofSingle loss.lambda) (Scalar.sum (xs.map Scalar.abs))
  match loss.reduction with
  | .sum => total
  | .mean => Scalar.div total (meanDivisor xs)

namespace Program

/-- Adds the result of a node. -/
def runNode (values : Values F) (node : Node) : Except DeviceFault (Values F) := do
  return values.insert node.output (← node.expression.evaluate values)

/-- Adds the value of a loss. -/
def runLoss (values : Values F) (loss : Loss) : Except DeviceFault (Values F) := do
  return values.insert loss.output [loss.value (← values.read loss.input)]

/-- **Computes every tensor of a program** from the values of its inputs and weights. -/
def forward (program : Program) (values : Values F) : Except DeviceFault (Values F) := do
  let values ← program.nodes.foldlM runNode values
  program.losses.foldlM runLoss values

end Program

end Microbatch
