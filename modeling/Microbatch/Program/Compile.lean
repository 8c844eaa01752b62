import Microbatch.Anchor.Registry
import Microbatch.Exchange.Load
import Microbatch.Program.Basic

set_option relaxedAutoImplicit false
set_option autoImplicit false

/-!
# Compiling graphs

Compilation reads the model of a graph once more and types its nodes in order. Every input and
weight holds single-precision numbers, a node reads what is known by then, and every tensor has one
producer.

## Main definitions

* `Microbatch.Node.ofMessage` — types one node.
* `Microbatch.Program.live` — the tensors that some loss depends on.
* `Microbatch.Program.compile` — the program of a graph.
-/

namespace Microbatch

open Exchange

/-! ### Result shapes -/

/-- The size of a matrix product and the description of its result. -/
def matmulInfo (a b : TensorInfo) : Except ShapeFault (MatrixSize × TensorInfo) :=
  match a.shape.dims, b.shape.dims with
  | [n, k], [k', m] =>
    if k = k' then .ok (⟨n, k, m⟩, .float32 [n, m]) else .error (.innerDimensions k k')
  | _, _ => .error (.notMatrices a b)

/-- Whether a shape is one row of another. -/
def Shape.isRowOf (row matrix : Shape) : Bool :=
  match matrix.dims, row.dims with
  | [_, m], [m'] => m = m'
  | _, _ => false

/-- The description of a sum. -/
def addInfo (a b : TensorInfo) : Except ShapeFault TensorInfo :=
  if a.shape = b.shape ∨ b.shape.isRowOf a.shape then .ok a
  else .error (.noBroadcast b.shape a.shape)

/-! ### Nodes -/

/-- The only input of a node. -/
def Exchange.NodeMessage.one (m : NodeMessage) : Except CompileFault String :=
  match m.inputs with
  | [x] => .ok x
  | inputs => .error (.arity m.operation 1 inputs.length)

/-- The two inputs of a node. -/
def Exchange.NodeMessage.two (m : NodeMessage) : Except CompileFault (String × String) :=
  match m.inputs with
  | [x, y] => .ok (x, y)
  | inputs => .error (.arity m.operation 2 inputs.length)

/-- The only output of a node. -/
def Exchange.NodeMessage.result (m : NodeMessage) : Except CompileFault String :=
  match m.outputs with
  | [x] => .ok x
  | _ => .error (.outputCount m.operation)

/-- The factor of a scaling node: the number of its first setting of that name. -/
def Exchange.NodeMessage.factor (m : NodeMessage) : Except CompileFault Single :=
  match m.attributes.find? fun a => a.name == "scale" with
  | some a => .ok a.number
  | none => .error .missingFactor

/-- The description of a tensor that a node reads. -/
def operandInfo (infos : NameMap TensorInfo) (output input : String) :
    Except CompileFault TensorInfo :=
  match infos.find? input with
  | some info => .ok info
  | none => .error (.unproduced output input)

/-- A node that hands the description of its only input on. -/
def Node.unary (infos : NameMap TensorInfo) (m : NodeMessage) (expression : String → Expression) :
    Except CompileFault Node := do
  let x ← m.one
  let output ← m.result
  let info ← operandInfo infos output x
  return ⟨expression x, output, info⟩

/-- **Types a node**, given the descriptions of what is known so far. -/
def Node.ofMessage (infos : NameMap TensorInfo) (m : NodeMessage) : Except CompileFault Node :=
  match m.operation with
  | "MatMul" => do
    let (left, right) ← m.two
    let output ← m.result
    let a ← operandInfo infos output left
    let b ← operandInfo infos output right
    let (size, info) ← (matmulInfo a b).mapError (.shape output)
    return ⟨.matmul size left right, output, info⟩
  | "Add" => do
    let (left, right) ← m.two
    let output ← m.result
    let a ← operandInfo infos output left
    let b ← operandInfo infos output right
    let info ← (addInfo a b).mapError (.shape output)
    return ⟨.add left right, output, info⟩
  | "Relu" => Node.unary infos m .relu
  | "Identity" => Node.unary infos m .identity
  | "Scale" => do
    let factor ← m.factor
    Node.unary infos m (.scale factor)
  | operation => .error (.unknownOperation operation)

/-! ### Programs -/

namespace Program

/-- The descriptions of inputs and weights. -/
def sources (graph : Graph) : NameMap TensorInfo :=
  graph.inputs.insertAll (graph.weights.mapValues fun _ t => t.info).entries

/-- Checks that every input and weight holds single-precision numbers. -/
def checkSources (infos : NameMap TensorInfo) : Except CompileFault Unit :=
  match infos.entries.find? fun e => e.2.elementType != .float32 with
  | none => .ok ()
  | some (name, info) => .error (.notFloat name info)

/-- Types nodes in order; each makes its result known. -/
def typeNodes (infos : NameMap TensorInfo) :
    List NodeMessage → Except CompileFault (List Node × NameMap TensorInfo)
  | [] => .ok ([], infos)
  | m :: rest => do
    let node ← Node.ofMessage infos m
    if infos.contains node.output then .error (.producedTwice node.output)
    else do
      let (nodes, infos) ← typeNodes (infos.insert node.output node.info) rest
      return (node :: nodes, infos)

/-- Types losses in order; each makes its result known as a scalar. -/
def typeLosses (infos : NameMap TensorInfo) : List Loss → Except CompileFault (NameMap TensorInfo)
  | [] => .ok infos
  | loss :: rest =>
    if infos.contains loss.input = false then .error (.unknownLossInput loss.input)
    else if infos.contains loss.output then .error (.lossCollision loss.output)
    else typeLosses (infos.insert loss.output (.float32 [])) rest

/-- **The tensors that some loss depends on**: going through the nodes from the last to the first,
the inputs of a node whose result is one of them. -/
def live (nodes : List Node) (losses : List Loss) : List String :=
  nodes.foldr (fun node names =>
    if names.contains node.output then node.expression.inputs ++ names else names)
    (losses.map (·.input))

/-- The weights that a session of some kind trains, in name order. -/
def trainableWeights (weights : NameMap TensorInfo) (nodes : List Node) (kind : Kind) :
    List String :=
  if kind.isTraining then weights.names.filter fun name => (live nodes kind.losses).contains name
  else []

/-- Every tensor that can be anchored: all tensors, and the gradients of trained weights. -/
def outputs (infos : NameMap TensorInfo) (trainable : List String) : NameMap TensorInfo :=
  infos.insertAll (trainable.filterMap fun name =>
    (infos.find? name).map fun info => (gradientName name, info))

/-- **Compiles a graph** for a kind of session. -/
def compile (graph : Graph) (kind : Kind) : Except CompileFault Program := do
  let message ← (ModelMessage.decode graph.model).mapError .read
  let graphMessage ← message.requireGraph.mapError .read
  let known := sources graph
  checkSources known
  let (nodes, infos) ← typeNodes known graphMessage.nodes
  let infos ← typeLosses infos kind.losses
  if kind.isTraining ∧ kind.losses = [] then .error .noLoss
  else
    let weights := graph.weights.mapValues fun _ t => t.info
    let trainable := trainableWeights weights nodes kind
    return ⟨nodes, kind.losses, infos, weights, trainable,
      ⟨graph.inputs, outputs infos trainable⟩⟩

end Program

end Microbatch
