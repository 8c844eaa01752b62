import Microbatch.Graph
import Microbatch.Program.Kernel

set_option relaxedAutoImplicit false
set_option autoImplicit false

/-!
# Programs

A program is a graph ready to run: nodes in execution order, each reading tensors that are known by
then, and the description of every tensor.

## Main definitions

* `Microbatch.Expression` — one operation on named tensors.
* `Microbatch.Node` — an expression with the name and the description of its result.
* `Microbatch.Program` — nodes, losses and descriptions.
-/

namespace Microbatch

/-- **An operation on named tensors.** -/
inductive Expression where
  /-- The product of two matrices. -/
  | matmul (size : MatrixSize) (left right : String)
  /-- The sum of a tensor and one that is of the same shape or one row of it. -/
  | add (left right : String)
  /-- What is above zero. -/
  | relu (operand : String)
  /-- The operand itself. -/
  | identity (operand : String)
  /-- A multiple of the operand. -/
  | scale (factor : Single) (operand : String)
  deriving DecidableEq, Inhabited

/-- The tensors that an expression reads, in order. -/
def Expression.inputs : Expression → List String
  | matmul _ left right => [left, right]
  | add left right => [left, right]
  | relu operand => [operand]
  | identity operand => [operand]
  | scale _ operand => [operand]

/-- **A node**: an expression with its result. -/
structure Node where
  /-- How the result is computed. -/
  expression : Expression
  /-- The tensor that is produced. -/
  output : String
  /-- Its description. -/
  info : TensorInfo
  deriving DecidableEq, Inhabited

/-- **A graph ready to run.** -/
structure Program where
  /-- The nodes in execution order. -/
  nodes : List Node
  /-- The losses in order. -/
  losses : List Loss
  /-- The description of every tensor. -/
  infos : NameMap TensorInfo
  /-- The descriptions of the weights. -/
  weights : NameMap TensorInfo
  /-- The weights that some loss depends on, in name order. -/
  trainable : List String
  /-- What the program takes and gives. -/
  signature : Signature

end Microbatch
