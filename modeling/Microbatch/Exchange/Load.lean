import Microbatch.Exchange.Decoding
import Microbatch.Exchange.Encoding
import Microbatch.Exchange.Initializer

set_option relaxedAutoImplicit false
set_option autoImplicit false

/-!
# Loading models and merging weights

## Main definitions

* `Microbatch.Exchange.readWeights` — the weights of a serialized model.
* `Microbatch.Exchange.loadGraph` — a serialized model with its streamed inputs described.
* `Microbatch.Exchange.mergeWeights` — a serialized model with other weights.
-/

namespace Microbatch.Exchange

/-- **Why a model cannot be loaded.** -/
inductive LoadFault where
  /-- The file cannot be read. -/
  | file (cause : FileFault)
  /-- The bytes are no usable model. -/
  | read (cause : ReadFault)
  /-- The inputs are not described as they must be. -/
  | refused (cause : Fault)
  deriving DecidableEq

/-- The wording of a fault. -/
def LoadFault.message : LoadFault → String
  | file cause => s!"failed to read model: {cause.message}"
  | read cause => cause.message
  | refused cause => cause.message

/-- **The weights of a serialized model.** -/
def readWeights (model : Bytes) : Except ReadFault WeightStore := do
  let message ← ModelMessage.decode model
  let graph ← message.requireGraph
  graph.weights

/-- The description of a streamed input: the one supplied, else the one declared. -/
def inputInfo (shapes : NameMap TensorInfo) (value : ValueMessage) : Except LoadFault TensorInfo :=
  match shapes.find? value.name with
  | some info => .ok info
  | none =>
    match value.declaration with
    | .error cause => .error (.read cause)
    | .ok declaration => declaration.resolve.mapError fun cause => .refused (.configuration cause)

/-- The streamed inputs among the declared inputs: those that are no weights, the last declaration
of each name. -/
def streamedInputs (weights : WeightStore) (shapes : NameMap TensorInfo)
    (values : List ValueMessage) : Except LoadFault (NameMap TensorInfo) :=
  values.foldlM (fun inputs value =>
    if weights.contains value.name then .ok inputs
    else do return inputs.insert value.name (← inputInfo shapes value)) .empty

/-- Checks that every supplied description is of a streamed input. -/
def checkShapes (weights : WeightStore) (inputs shapes : NameMap TensorInfo) : Except Fault Unit :=
  match shapes.names.find? fun name => !inputs.contains name with
  | none => .ok ()
  | some name =>
    .error (.unknownTensor name (some (if weights.contains name then .isWeight else .notInput)))

/-- **Loads a graph.** Inputs that are initializers are weights; the other inputs are streamed, and
each is described by the supplied shapes or else by the model. -/
def loadGraph (model : Bytes) (shapes : NameMap TensorInfo) : Except LoadFault Graph := do
  let message ← (ModelMessage.decode model).mapError .read
  let graph ← message.requireGraph.mapError .read
  let weights ← graph.weights.mapError .read
  let inputs ← streamedInputs weights shapes graph.inputs
  (checkShapes weights inputs shapes).mapError .refused
  return ⟨model, inputs, weights⟩

/-- A model with new weights, and the weights that it has no place for. -/
structure Merged where
  /-- The serialized model. -/
  model : Bytes
  /-- The weights without an initializer, in name order. -/
  unplaced : List String
  deriving DecidableEq

/-- The initializer with the value that a store has for it, if it has one. -/
def TensorMessage.update (weights : WeightStore) (m : TensorMessage) : TensorMessage :=
  match weights.find? m.name with
  | some t => .ofTensor m.name t
  | none => m

/-- The model whose initializers have the values of a store. -/
def GraphMessage.update (weights : WeightStore) (g : GraphMessage) : GraphMessage :=
  { g with initializers := g.initializers.map (·.update weights) }

/-- **Puts weights into a serialized model**: every initializer that the store names takes the
stored value, and everything else stays. -/
def mergeWeights (model : Bytes) (weights : WeightStore) : Except ReadFault Merged := do
  let message ← ModelMessage.decode model
  let graph ← message.requireGraph
  let places := graph.initializers.map (·.name)
  return {
    model := ModelMessage.encode { message with graph := some (graph.update weights) }
    unplaced := weights.names.filter fun name => !places.contains name }

end Microbatch.Exchange
