import Microbatch.Tensor.Info

set_option relaxedAutoImplicit false
set_option autoImplicit false

/-!
# Faults of models

Reading a model file and compiling its graph each have their own causes.

## Main definitions

* `Microbatch.ReadFault` — why a model file, or a part of it, cannot be read.
* `Microbatch.ShapeFault`, `Microbatch.CompileFault` — why a graph cannot be compiled.
* `Microbatch.ModelFault` — the causes that a session reports.
-/

namespace Microbatch

/-- **Why a model cannot be read.** -/
inductive ReadFault where
  /-- The bytes are no model message. -/
  | undecodable
  /-- The model message has no graph. -/
  | noGraph
  /-- The element type of an initializer is not supported. -/
  | unsupportedType (tensor : String) (code : Int32)
  /-- A dimension of an initializer is negative. -/
  | negativeDimension (tensor : String) (dimension : Int64)
  /-- Numbers are stored for another element type. -/
  | misplacedFloats (tensor : String) (elementType : ElementType)
  /-- The payload of an initializer has the wrong size. -/
  | payloadSize (tensor : String) (size expected : Nat) (info : TensorInfo)
  /-- A graph value is no tensor. -/
  | notTensor (value : String)
  /-- The element type of a graph value is not supported. -/
  | unsupportedElement (value : String) (code : Int32)
  deriving DecidableEq

/-- The wording of a fault. -/
def ReadFault.message : ReadFault → String
  | undecodable => "failed to decode model protobuf"
  | noGraph => "model has no graph"
  | unsupportedType tensor code => s!"tensor `{tensor}` has unsupported data type {code.toInt}"
  | negativeDimension tensor dimension =>
    s!"negative dim {dimension.toInt} in `{tensor}`: number too small to fit in target type"
  | misplacedFloats tensor elementType =>
    s!"tensor `{tensor}` stores float_data but is {elementType}"
  | payloadSize tensor size expected info =>
    s!"tensor `{tensor}` holds {size} bytes, expected {expected} for {info}"
  | notTensor value => s!"value `{value}` is not a tensor"
  | unsupportedElement value code => s!"value `{value}` has unsupported element type {code.toInt}"

/-- **Why a node has no result shape.** -/
inductive ShapeFault where
  /-- A matrix product needs two matrices. -/
  | notMatrices (left right : TensorInfo)
  /-- The inner dimensions of a matrix product differ. -/
  | innerDimensions (left right : Nat)
  /-- The second summand is neither of the first's shape nor one row of it. -/
  | noBroadcast (summand onto : Shape)
  deriving DecidableEq

/-- The wording of a fault. -/
def ShapeFault.message : ShapeFault → String
  | notMatrices left right => s!"MatMul needs rank-2 operands, got {left} and {right}"
  | innerDimensions left right => s!"MatMul inner dims differ: {left} vs {right}"
  | noBroadcast summand onto => s!"Add cannot broadcast {summand} onto {onto}"

/-- **Why a graph cannot be compiled.** -/
inductive CompileFault where
  /-- The model cannot be read. -/
  | read (cause : ReadFault)
  /-- An input or a weight is not of single-precision numbers. -/
  | notFloat (name : String) (info : TensorInfo)
  /-- A scaling node has no factor. -/
  | missingFactor
  /-- The host has no such operation. -/
  | unknownOperation (operation : String)
  /-- A node has the wrong number of inputs. -/
  | arity (operation : String) (expected actual : Nat)
  /-- A node does not have exactly one output. -/
  | outputCount (operation : String)
  /-- A node reads a tensor that nothing before it produces. -/
  | unproduced (output input : String)
  /-- The operands of a node do not fit together. -/
  | shape (output : String) (cause : ShapeFault)
  /-- A tensor has two producers. -/
  | producedTwice (name : String)
  /-- A loss reads a tensor that the graph does not have. -/
  | unknownLossInput (name : String)
  /-- A loss writes a tensor that the graph already has. -/
  | lossCollision (name : String)
  /-- Training needs something to minimise. -/
  | noLoss
  deriving DecidableEq

/-- The wording of a fault. -/
def CompileFault.message : CompileFault → String
  | read cause => cause.message
  | notFloat name info => s!"cpu device only executes FLOAT tensors; `{name}` is {info}"
  | missingFactor => "Scale node needs a `scale` attribute"
  | unknownOperation operation => s!"cpu device does not implement op `{operation}`"
  | arity operation expected actual => s!"{operation} expects {expected} inputs, got {actual}"
  | outputCount operation => s!"{operation} must have exactly one output"
  | unproduced output input => s!"`{output}` reads `{input}` before it is produced"
  | shape output cause => s!"shape inference failed for `{output}`: {cause.message}"
  | producedTwice name => s!"tensor `{name}` is produced twice"
  | unknownLossInput name => s!"loss reads unknown tensor `{name}`"
  | lossCollision name => s!"loss output `{name}` collides with a graph tensor"
  | noLoss => "a training session needs at least one loss"

/-- **Why a session has no usable model.** -/
inductive ModelFault where
  /-- The graph does not compile for the host. -/
  | uncompiled (cause : CompileFault)
  /-- The backend refuses the graph for a reason of its own. -/
  | refused (reason : String)
  /-- A model cannot be read. -/
  | unreadable (cause : ReadFault)
  /-- A model has no weight in common with the session. -/
  | unrelated
  deriving DecidableEq

/-- The wording of a fault. -/
def ModelFault.message : ModelFault → String
  | uncompiled cause => s!"failed to compile graph for cpu: {cause.message}"
  | refused reason => reason
  | unreadable cause => cause.message
  | unrelated => "source model shares no weights with this session"

end Microbatch
