import Microbatch.Single

set_option relaxedAutoImplicit false
set_option autoImplicit false

/-!
# Messages of a model file

A model file is one message. These are the message types that it is made of, each field with the
value that it has when the file does not write it.

## Main definitions

* `Microbatch.Exchange.ModelMessage` — a whole file.
* `Microbatch.Exchange.GraphMessage` — nodes, initializers and the graph's inputs and outputs.
* `Microbatch.Exchange.TensorMessage` — an initializer.
* `Microbatch.Exchange.ValueMessage` — the declaration of an input or an output.
-/

namespace Microbatch.Exchange

/-- A dimension: a value, a symbolic name, both or neither. -/
structure DimensionMessage where
  /-- The value. -/
  value : Option Int64 := none
  /-- The symbolic name. -/
  parameter : Option String := none
  deriving DecidableEq, Inhabited

/-- The dimensions of a declared tensor. -/
structure ShapeMessage where
  /-- The dimensions, outermost first. -/
  dims : List DimensionMessage := []
  deriving DecidableEq, Inhabited

/-- A tensor type: element type and dimensions. -/
structure TensorTypeMessage where
  /-- The code of the element type. -/
  elementCode : Int32 := 0
  /-- The dimensions, if declared. -/
  shape : Option ShapeMessage := none
  deriving DecidableEq, Inhabited

/-- The type of a value; only tensor types are known. -/
structure TypeMessage where
  /-- The tensor type. -/
  tensorType : Option TensorTypeMessage := none
  deriving DecidableEq, Inhabited

/-- **The declaration of a graph input or output.** -/
structure ValueMessage where
  /-- The tensor that is declared. -/
  name : String := ""
  /-- Its type, if declared. -/
  type : Option TypeMessage := none
  deriving DecidableEq, Inhabited

/-- **An initializer**: the value of a weight. -/
structure TensorMessage where
  /-- The dimensions. -/
  dims : List Int64 := []
  /-- The code of the element type. -/
  elementCode : Int32 := 0
  /-- The elements as numbers. -/
  floats : List Single := []
  /-- The tensor that is initialized. -/
  name : String := ""
  /-- The elements as bytes. -/
  raw : Bytes := []
  deriving DecidableEq, Inhabited

/-- A named setting of a node. -/
structure AttributeMessage where
  /-- The name of the setting. -/
  name : String := ""
  /-- The value as a number. -/
  number : Single := .zero
  /-- The value as an integer. -/
  integer : Int64 := 0
  /-- The code of the kind of value. -/
  kindCode : Int32 := 0
  deriving DecidableEq, Inhabited

/-- **A node**: one operation of a graph. -/
structure NodeMessage where
  /-- The tensors that it reads. -/
  inputs : List String := []
  /-- The tensors that it produces. -/
  outputs : List String := []
  /-- The name of the node. -/
  name : String := ""
  /-- The operation. -/
  operation : String := ""
  /-- The settings of the operation. -/
  attributes : List AttributeMessage := []
  /-- Where the operation is defined. -/
  domain : String := ""
  deriving DecidableEq, Inhabited

/-- **A graph.** -/
structure GraphMessage where
  /-- The nodes in execution order. -/
  nodes : List NodeMessage := []
  /-- The name of the graph. -/
  name : String := ""
  /-- The values of weights. -/
  initializers : List TensorMessage := []
  /-- The declared inputs, weights among them. -/
  inputs : List ValueMessage := []
  /-- The declared outputs. -/
  outputs : List ValueMessage := []
  deriving DecidableEq, Inhabited

/-- The version of an operator set that a model uses. -/
structure OperatorSetMessage where
  /-- The operator set. -/
  domain : String := ""
  /-- Its version. -/
  version : Int64 := 0
  deriving DecidableEq, Inhabited

/-- **A model file.** -/
structure ModelMessage where
  /-- The version of the format. -/
  formatVersion : Int64 := 0
  /-- What wrote the file. -/
  producer : String := ""
  /-- The graph. -/
  graph : Option GraphMessage := none
  /-- The operator sets that the graph uses. -/
  operatorSets : List OperatorSetMessage := []
  deriving DecidableEq, Inhabited

end Microbatch.Exchange
