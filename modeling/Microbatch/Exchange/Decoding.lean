import Microbatch.Exchange.Message
import Microbatch.Exchange.Wire
import Microbatch.Fault.Model

set_option relaxedAutoImplicit false
set_option autoImplicit false

/-!
# Reading model files

A message is read field by field, starting from its default. The last value of a plain field wins,
the contents of a message field that occurs twice are joined, and lists grow. A known field must
have its own wire type; lists of numbers may be packed or not. Unknown fields are passed over.

## Main definitions

* `Microbatch.Exchange.ModelMessage.decode` — the model file that some bytes hold.
* `Microbatch.Exchange.ModelMessage.step` and its siblings — what one field does to each message.
-/

namespace Microbatch.Exchange

open Wire

/-! ### Plain values -/

/-- The text that some bytes are the encoding of. -/
def textOfBytes? (bs : Bytes) : Option String := String.fromUTF8? ⟨bs.toArray⟩

/-- A field's value as bytes. -/
def Wire.Value.content? : Value → Option Bytes
  | .bytes content => some content
  | _ => none

/-- A field's value as text. -/
def Wire.Value.text? (v : Value) : Option String := v.content?.bind textOfBytes?

/-- A field's value as a 64-bit integer. -/
def Wire.Value.int64? : Value → Option Int64
  | .varint n => some n.toInt64
  | _ => none

/-- A field's value as a 32-bit integer: the low half of the number. -/
def Wire.Value.int32? : Value → Option Int32
  | .varint n => some n.toUInt32.toInt32
  | _ => none

/-- A field's value as a number. -/
def Wire.Value.single? : Value → Option Single
  | .fixed32 w => some ⟨w⟩
  | _ => none

/-- A field's value as some 64-bit integers, packed or single. -/
def Wire.Value.int64s? : Value → Option (List Int64)
  | .varint n => some [n.toInt64]
  | .bytes content => (varints content).map (·.map UInt64.toInt64)
  | _ => none

/-- A field's value as some numbers, packed or single. -/
def Wire.Value.singles? : Value → Option (List Single)
  | .fixed32 w => some [⟨w⟩]
  | .bytes content => if content.length % 4 = 0 then some (Single.listOfBytes content) else none
  | _ => none

/-! ### Messages -/

/-- Takes the fields of some bytes into a message of the given depth. -/
def absorb {M : Type} (depth : Nat) (step : M → Field → Option M) (start : M) (content : Bytes) :
    Option M :=
  match fields depth content with
  | none => none
  | some fs => fs.foldlM step start

/-- A field's value as a message of the given depth, on top of what is already known of it. -/
def Wire.Value.message? {M : Type} (depth : Nat) (step : M → Field → Option M) (start : M)
    (v : Value) : Option M :=
  v.content?.bind (absorb depth step start)

/-- Takes one field into a dimension. -/
def DimensionMessage.step (m : DimensionMessage) (f : Field) : Option DimensionMessage :=
  match f.number with
  | 1 => f.value.int64?.map fun v => { m with value := some v }
  | 2 => f.value.text?.map fun s => { m with parameter := some s }
  | _ => some m

/-- Takes one field into a list of dimensions. -/
def ShapeMessage.step (m : ShapeMessage) (f : Field) : Option ShapeMessage :=
  match f.number with
  | 1 => (f.value.message? 6 DimensionMessage.step {}).map fun d => { m with dims := m.dims ++ [d] }
  | _ => some m

/-- Takes one field into a tensor type. -/
def TensorTypeMessage.step (m : TensorTypeMessage) (f : Field) : Option TensorTypeMessage :=
  match f.number with
  | 1 => f.value.int32?.map fun v => { m with elementCode := v }
  | 2 => (f.value.message? 5 ShapeMessage.step (m.shape.getD {})).map fun s =>
      { m with shape := some s }
  | _ => some m

/-- Takes one field into a type. -/
def TypeMessage.step (m : TypeMessage) (f : Field) : Option TypeMessage :=
  match f.number with
  | 1 => (f.value.message? 4 TensorTypeMessage.step (m.tensorType.getD {})).map fun t =>
      { m with tensorType := some t }
  | _ => some m

/-- Takes one field into a declaration. -/
def ValueMessage.step (m : ValueMessage) (f : Field) : Option ValueMessage :=
  match f.number with
  | 1 => f.value.text?.map fun s => { m with name := s }
  | 2 => (f.value.message? 3 TypeMessage.step (m.type.getD {})).map fun t =>
      { m with type := some t }
  | _ => some m

/-- Takes one field into an initializer. -/
def TensorMessage.step (m : TensorMessage) (f : Field) : Option TensorMessage :=
  match f.number with
  | 1 => f.value.int64s?.map fun vs => { m with dims := m.dims ++ vs }
  | 2 => f.value.int32?.map fun v => { m with elementCode := v }
  | 4 => f.value.singles?.map fun xs => { m with floats := m.floats ++ xs }
  | 8 => f.value.text?.map fun s => { m with name := s }
  | 9 => f.value.content?.map fun bs => { m with raw := bs }
  | _ => some m

/-- Takes one field into a setting. -/
def AttributeMessage.step (m : AttributeMessage) (f : Field) : Option AttributeMessage :=
  match f.number with
  | 1 => f.value.text?.map fun s => { m with name := s }
  | 2 => f.value.single?.map fun x => { m with number := x }
  | 3 => f.value.int64?.map fun v => { m with integer := v }
  | 20 => f.value.int32?.map fun v => { m with kindCode := v }
  | _ => some m

/-- Takes one field into a node. -/
def NodeMessage.step (m : NodeMessage) (f : Field) : Option NodeMessage :=
  match f.number with
  | 1 => f.value.text?.map fun s => { m with inputs := m.inputs ++ [s] }
  | 2 => f.value.text?.map fun s => { m with outputs := m.outputs ++ [s] }
  | 3 => f.value.text?.map fun s => { m with name := s }
  | 4 => f.value.text?.map fun s => { m with operation := s }
  | 5 => (f.value.message? 3 AttributeMessage.step {}).map fun a =>
      { m with attributes := m.attributes ++ [a] }
  | 7 => f.value.text?.map fun s => { m with domain := s }
  | _ => some m

/-- Takes one field into a graph. -/
def GraphMessage.step (m : GraphMessage) (f : Field) : Option GraphMessage :=
  match f.number with
  | 1 => (f.value.message? 2 NodeMessage.step {}).map fun n => { m with nodes := m.nodes ++ [n] }
  | 2 => f.value.text?.map fun s => { m with name := s }
  | 5 => (f.value.message? 2 TensorMessage.step {}).map fun t =>
      { m with initializers := m.initializers ++ [t] }
  | 11 =>
    (f.value.message? 2 ValueMessage.step {}).map fun v => { m with inputs := m.inputs ++ [v] }
  | 12 => (f.value.message? 2 ValueMessage.step {}).map fun v =>
      { m with outputs := m.outputs ++ [v] }
  | _ => some m

/-- Takes one field into an operator set. -/
def OperatorSetMessage.step (m : OperatorSetMessage) (f : Field) : Option OperatorSetMessage :=
  match f.number with
  | 1 => f.value.text?.map fun s => { m with domain := s }
  | 2 => f.value.int64?.map fun v => { m with version := v }
  | _ => some m

/-- Takes one field into a model. -/
def ModelMessage.step (m : ModelMessage) (f : Field) : Option ModelMessage :=
  match f.number with
  | 1 => f.value.int64?.map fun v => { m with formatVersion := v }
  | 2 => f.value.text?.map fun s => { m with producer := s }
  | 7 => (f.value.message? 1 GraphMessage.step (m.graph.getD {})).map fun g =>
      { m with graph := some g }
  | 8 => (f.value.message? 1 OperatorSetMessage.step {}).map fun o =>
      { m with operatorSets := m.operatorSets ++ [o] }
  | _ => some m

/-- **The model file that some bytes hold**, if they hold one. -/
def ModelMessage.decode? (bs : Bytes) : Option ModelMessage := absorb 0 ModelMessage.step {} bs

/-- The model file that some bytes hold. -/
def ModelMessage.decode (bs : Bytes) : Except ReadFault ModelMessage :=
  match decode? bs with
  | some m => .ok m
  | none => .error .undecodable

/-- The graph of a model. -/
def ModelMessage.requireGraph (m : ModelMessage) : Except ReadFault GraphMessage :=
  match m.graph with
  | some g => .ok g
  | none => .error .noGraph

end Microbatch.Exchange
