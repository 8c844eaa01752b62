import Microbatch.Exchange.Message
import Microbatch.Fault.Model
import Microbatch.Graph

set_option relaxedAutoImplicit false
set_option autoImplicit false

/-!
# Initializers and declarations as tensors

An initializer message stores its elements either as bytes or as numbers; bytes take precedence. It
stands for a tensor whose payload has exactly the described size.

## Main definitions

* `Microbatch.Exchange.TensorMessage.toTensor` — the tensor of an initializer.
* `Microbatch.Exchange.TensorMessage.ofTensor` — the initializer of a tensor.
* `Microbatch.Exchange.ValueMessage.declaration` — what a graph value declares.
* `Microbatch.Exchange.GraphMessage.weights` — all initializers of a graph, by name.
-/

namespace Microbatch.Exchange

/-- A dimension as a size. -/
def sizeOfDimension? (d : Int64) : Option Nat := if d < 0 then none else some d.toInt.toNat

/-- The dimensions of an initializer as sizes; the first negative one is reported. -/
def TensorMessage.sizes (m : TensorMessage) : Except ReadFault (List Nat) :=
  m.dims.mapM fun d =>
    match sizeOfDimension? d with
    | some n => .ok n
    | none => .error (.negativeDimension m.name d)

/-- The payload of an initializer of an element type: its bytes if there are any, else its
numbers. -/
def TensorMessage.payload (m : TensorMessage) (elementType : ElementType) :
    Except ReadFault Bytes :=
  if m.raw ≠ [] then .ok m.raw
  else if m.floats = [] then .ok []
  else if elementType = .float32 then .ok (Single.bytesOfList m.floats)
  else .error (.misplacedFloats m.name elementType)

/-- **The tensor of an initializer.** -/
def TensorMessage.toTensor (m : TensorMessage) : Except ReadFault Tensor := do
  match ElementType.ofCode? m.elementCode with
  | none => .error (.unsupportedType m.name m.elementCode)
  | some elementType =>
    let dims ← m.sizes
    let payload ← m.payload elementType
    let info : TensorInfo := ⟨elementType, ⟨dims⟩⟩
    if payload.length = info.byteCount then .ok ⟨info, payload⟩
    else .error (.payloadSize m.name payload.length info.byteCount info)

/-- **The initializer of a tensor**: its elements are stored as bytes. -/
def TensorMessage.ofTensor (name : String) (t : Tensor) : TensorMessage where
  dims := t.info.shape.dims.map Int64.ofNat
  elementCode := t.info.elementType.code
  name := name
  raw := t.payload

/-- The size of a declared dimension; a dimension without a value or with a negative one is open. -/
def DimensionMessage.size? (m : DimensionMessage) : Option Nat := m.value.bind sizeOfDimension?

/-- **What a graph value declares.** A tensor type without dimensions declares a scalar. -/
def ValueMessage.declaration (m : ValueMessage) : Except ReadFault Declaration :=
  match m.type.bind (·.tensorType) with
  | none => .error (.notTensor m.name)
  | some type =>
    match ElementType.ofCode? type.elementCode with
    | none => .error (.unsupportedElement m.name type.elementCode)
    | some elementType =>
      .ok ⟨m.name, elementType, (type.shape.getD {}).dims.map DimensionMessage.size?⟩

/-- **The weights of a graph**: its initializers, the last one of each name. -/
def GraphMessage.weights (g : GraphMessage) : Except ReadFault WeightStore := do
  let entries ← g.initializers.mapM fun m => return (m.name, ← m.toTensor)
  return .ofList entries

end Microbatch.Exchange
