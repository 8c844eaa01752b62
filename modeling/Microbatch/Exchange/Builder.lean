import Microbatch.Exchange.Encoding
import Microbatch.Exchange.Initializer

set_option relaxedAutoImplicit false
set_option autoImplicit false

/-!
# Building models

A model is built one call at a time. Every operation produces one tensor, named after the operation
and a running number.

## Main definitions

* `Microbatch.Exchange.Builder` — the graph so far and the next number.
* `Microbatch.Exchange.Builder.Call`, `Microbatch.Exchange.Builder.perform` — one step of building.
* `Microbatch.Exchange.Builder.model`, `Microbatch.Exchange.Builder.encode` — the finished model.
-/

namespace Microbatch.Exchange

/-- **A model being built.** -/
structure Builder where
  /-- The graph so far. -/
  graph : GraphMessage
  /-- The number that the next operation takes. -/
  next : Nat := 0

namespace Builder

/-- A model without inputs and operations. -/
def named (name : String) : Builder := { graph := { name := name } }

/-- One step of building. -/
inductive Call where
  /-- Declares a streamed input. -/
  | input (name : String) (info : TensorInfo)
  /-- Declares a streamed input with open dimensions. -/
  | dynamic (name : String) (elementType : ElementType) (dims : List (Option Nat))
  /-- Adds a weight with its initial value. -/
  | weight (name : String) (value : Tensor)
  /-- Declares an output. -/
  | output (name : String)
  /-- Multiplies two matrices. -/
  | matmul (left right : String)
  /-- Adds two tensors. -/
  | add (left right : String)
  /-- Cuts off what is below zero. -/
  | relu (operand : String)
  /-- Hands a tensor on. -/
  | identity (operand : String)
  /-- Multiplies a tensor by a factor. -/
  | scale (operand : String) (factor : Single)

/-- The code of attribute values that are numbers. -/
def numberKind : Int32 := 1

/-- The version of the operator set that built models use. -/
def operatorSetVersion : Int64 := 11

/-- The declaration of one dimension; an open one gets a name from its position. -/
def dimension (axis : Nat) : Option Nat → DimensionMessage
  | some n => { value := some (Int64.ofNat n) }
  | none => { parameter := some s!"d{axis}" }

/-- The type of a tensor. -/
def tensorType (elementType : ElementType) (dims : List (Option Nat)) : TypeMessage where
  tensorType := some {
    elementCode := elementType.code
    shape := some { dims := dims.zipIdx.map fun d => dimension d.2 d.1 } }

/-- The type of a tensor with a description. -/
def infoType (info : TensorInfo) : TypeMessage :=
  tensorType info.elementType (info.shape.dims.map some)

/-- Adds a declared input. -/
def declare (b : Builder) (name : String) (type : TypeMessage) : Builder :=
  { b with graph := { b.graph with inputs := b.graph.inputs ++ [{ name := name, type := type }] } }

/-- Adds the value of a weight. -/
def addInitializer (b : Builder) (name : String) (value : Tensor) : Builder :=
  { b with graph := { b.graph with
      initializers := b.graph.initializers ++ [.ofTensor name value] } }

/-- Adds an operation and says what its result is called. -/
def operation (b : Builder) (operation : String) (inputs : List String)
    (attributes : List AttributeMessage := []) : String × Builder :=
  let result := s!"{operation}:{b.next}"
  let node : NodeMessage := { inputs := inputs, outputs := [result], name := result,
                              operation := operation, attributes := attributes }
  (result, { graph := { b.graph with nodes := b.graph.nodes ++ [node] }, next := b.next + 1 })

/-- **Performs one call.** The result is the name of the tensor that the call adds, if it adds
one. -/
def perform (b : Builder) : Call → Option String × Builder
  | .input name info => (some name, b.declare name (infoType info))
  | .dynamic name elementType dims => (some name, b.declare name (tensorType elementType dims))
  | .weight name value =>
    (some name, (b.addInitializer name value).declare name (infoType value.info))
  | .output name =>
    (none, { b with graph := { b.graph with outputs := b.graph.outputs ++ [{ name := name }] } })
  | .matmul left right => (b.operation "MatMul" [left, right]).map some id
  | .add left right => (b.operation "Add" [left, right]).map some id
  | .relu operand => (b.operation "Relu" [operand]).map some id
  | .identity operand => (b.operation "Identity" [operand]).map some id
  | .scale operand factor =>
    (b.operation "Scale" [operand]
      [{ name := "scale", number := factor, kindCode := numberKind }]).map some id

/-- Performs calls in order and lists the tensors that they add. -/
def performAll (b : Builder) : List Call → List String × Builder
  | [] => ([], b)
  | call :: rest =>
    let (name, b) := b.perform call
    let (names, b) := b.performAll rest
    (name.toList ++ names, b)

/-- **The finished model.** -/
def model (b : Builder) : ModelMessage where
  formatVersion := 6
  producer := "stepport"
  graph := some b.graph
  operatorSets := [{ version := operatorSetVersion }]

/-- The finished model as bytes. -/
def encode (b : Builder) : Bytes := b.model.encode

end Builder

end Microbatch.Exchange
