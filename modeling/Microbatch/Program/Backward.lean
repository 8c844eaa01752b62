import Microbatch.Program.Forward

set_option relaxedAutoImplicit false
set_option autoImplicit false

/-!
# Gradients

Gradients start at the inputs of the losses and are handed back from each node's result to its
operands, from the last node to the first. What reaches one tensor on several ways is added up.

## Main definitions

* `Microbatch.Loss.seed` — the gradient that a loss gives to its input.
* `Microbatch.Node.handBack` — what a node gives to its operands.
* `Microbatch.Program.backward` — the gradient of every tensor that one reaches.
-/

namespace Microbatch

variable {F : Type} [Scalar F]

/-- **The gradients known so far.** A tensor that none has reached has no entry. -/
abbrev Gradients (F : Type) := NameMap (List F)

/-- Adds to the gradient of a tensor. -/
def Gradients.push (gradients : Gradients F) (name : String) (gradient : List F) : Gradients F :=
  gradients.insert name (Kernel.accumulate ((gradients.find? name).getD []) gradient)

/-- The weight of one element in a loss. -/
def Loss.elementWeight (loss : Loss) (xs : List F) : F :=
  match loss.reduction with
  | .sum => Scalar.ofSingle loss.lambda
  | .mean => Scalar.div (Scalar.ofSingle loss.lambda) (meanDivisor xs)

/-- **The gradient that a loss gives to its input.** -/
def Loss.gradient (loss : Loss) (xs : List F) : List F :=
  let weight := loss.elementWeight xs
  xs.map fun x => Scalar.mul weight (Scalar.sign x)

/-- Adds the gradient of a loss. -/
def Loss.seed (values : Values F) (gradients : Gradients F) (loss : Loss) :
    Except DeviceFault (Gradients F) := do
  return gradients.push loss.input (loss.gradient (← values.read loss.input))

/-- Hands the gradient of a result back to the operands of its expression. -/
def Expression.handBack (values : Values F) (gradient : List F) (gradients : Gradients F) :
    Expression → Except DeviceFault (Gradients F)
  | matmul size left right => do
    let a ← values.read left
    let b ← values.read right
    return (gradients.push left (Kernel.matmulLeft size b gradient)).push right
      (Kernel.matmulRight size a gradient)
  | add left right => do
    let b ← values.read right
    return (gradients.push left gradient).push right (Kernel.unbroadcast gradient b.length)
  | relu operand => do
    let x ← values.read operand
    return gradients.push operand (Kernel.reluGradient x gradient)
  | identity operand => return gradients.push operand gradient
  | scale factor operand =>
    return gradients.push operand (Kernel.scale (Scalar.ofSingle factor) gradient)

/-- **Hands the gradient of a node's result back**, if one has reached it. -/
def Node.handBack (values : Values F) (node : Node) (gradients : Gradients F) :
    Except DeviceFault (Gradients F) :=
  match gradients.find? node.output with
  | none => .ok gradients
  | some gradient => node.expression.handBack values gradient gradients

/-- **The gradients of a program**: the seeds of all losses, handed back through the nodes from the
last to the first. -/
def Program.backward (program : Program) (values : Values F) :
    Except DeviceFault (Gradients F) := do
  let seeds ← program.losses.foldlM (fun g loss => loss.seed values g) .empty
  program.nodes.foldrM (fun node g => node.handBack values g) seeds

end Microbatch
