import Microbatch.Exchange.Message
import Microbatch.Exchange.Wire

set_option relaxedAutoImplicit false
set_option autoImplicit false

/-!
# Writing model files

Every message becomes a list of fields in increasing field number. A plain field is left out when it
has its default value, negative zero counting as zero; optional fields and messages are written
whenever they are present, and lists of numbers are packed into one field unless they are empty.

## Main definitions

* `Microbatch.Exchange.ModelMessage.encode` — a model file as bytes.
* `Microbatch.Exchange.ModelMessage.toFields` and its siblings — the fields of each message.
-/

namespace Microbatch.Exchange

open Wire

/-! ### Fields of plain values -/

/-- The bytes of a text. -/
def textBytes (s : String) : Bytes := s.toUTF8.data.toList

/-- The number that stands for a 64-bit integer. -/
def int64Number (v : Int64) : UInt64 := v.toUInt64

/-- The number that stands for a 32-bit integer: its sign is extended to 64 bits. -/
def int32Number (v : Int32) : UInt64 := v.toInt64.toUInt64

/-- The field of a text, unless it is empty. -/
def textField (number : Nat) (s : String) : List Field :=
  if s = "" then [] else [⟨number, .bytes (textBytes s)⟩]

/-- The field of a byte string, unless it is empty. -/
def bytesField (number : Nat) (content : Bytes) : List Field :=
  if content = [] then [] else [⟨number, .bytes content⟩]

/-- The field of a 64-bit integer, unless it is zero. -/
def int64Field (number : Nat) (v : Int64) : List Field :=
  if v = 0 then [] else [⟨number, .varint (int64Number v)⟩]

/-- The field of a 32-bit integer, unless it is zero. -/
def int32Field (number : Nat) (v : Int32) : List Field :=
  if v = 0 then [] else [⟨number, .varint (int32Number v)⟩]

/-- The field of a number, unless it is positive or negative zero. -/
def singleField (number : Nat) (x : Single) : List Field :=
  if x = .zero ∨ x = .negZero then [] else [⟨number, .fixed32 x.bits⟩]

/-- The packed field of a list of 64-bit integers, unless it is empty. -/
def int64sField (number : Nat) (vs : List Int64) : List Field :=
  bytesField number (vs.flatMap fun v => writeVarint (int64Number v).toNat)

/-- The packed field of a list of numbers, unless it is empty. -/
def singlesField (number : Nat) (xs : List Single) : List Field :=
  bytesField number (Single.bytesOfList xs)

/-! ### Fields of messages -/

/-- The field of a message, given by its fields. -/
def messageField (number : Nat) (fs : List Field) : Field := ⟨number, .bytes (render fs)⟩

/-- The field of a message, if it is present. -/
def optionalField {M : Type} (toFields : M → List Field) (number : Nat) : Option M → List Field
  | none => []
  | some m => [messageField number (toFields m)]

/-- One field for each message of a list. -/
def repeatedField {M : Type} (toFields : M → List Field) (number : Nat) (ms : List M) :
    List Field :=
  ms.map fun m => messageField number (toFields m)

/-- The fields of a dimension. -/
def DimensionMessage.toFields (m : DimensionMessage) : List Field :=
  (m.value.map fun v => (⟨1, .varint (int64Number v)⟩ : Field)).toList
    ++ (m.parameter.map fun s => (⟨2, .bytes (textBytes s)⟩ : Field)).toList

/-- The fields of a list of dimensions. -/
def ShapeMessage.toFields (m : ShapeMessage) : List Field :=
  repeatedField DimensionMessage.toFields 1 m.dims

/-- The fields of a tensor type. -/
def TensorTypeMessage.toFields (m : TensorTypeMessage) : List Field :=
  int32Field 1 m.elementCode ++ optionalField ShapeMessage.toFields 2 m.shape

/-- The fields of a type. -/
def TypeMessage.toFields (m : TypeMessage) : List Field :=
  optionalField TensorTypeMessage.toFields 1 m.tensorType

/-- The fields of a declaration. -/
def ValueMessage.toFields (m : ValueMessage) : List Field :=
  textField 1 m.name ++ optionalField TypeMessage.toFields 2 m.type

/-- The fields of an initializer. -/
def TensorMessage.toFields (m : TensorMessage) : List Field :=
  int64sField 1 m.dims ++ int32Field 2 m.elementCode ++ singlesField 4 m.floats
    ++ textField 8 m.name ++ bytesField 9 m.raw

/-- The fields of a setting. -/
def AttributeMessage.toFields (m : AttributeMessage) : List Field :=
  textField 1 m.name ++ singleField 2 m.number ++ int64Field 3 m.integer ++ int32Field 20 m.kindCode

/-- One field for each text of a list; empty texts are written too. -/
def textsField (number : Nat) (texts : List String) : List Field :=
  texts.map fun s => ⟨number, .bytes (textBytes s)⟩

/-- The fields of a node. -/
def NodeMessage.toFields (m : NodeMessage) : List Field :=
  textsField 1 m.inputs ++ textsField 2 m.outputs ++ textField 3 m.name ++ textField 4 m.operation
    ++ repeatedField AttributeMessage.toFields 5 m.attributes ++ textField 7 m.domain

/-- The fields of a graph. -/
def GraphMessage.toFields (m : GraphMessage) : List Field :=
  repeatedField NodeMessage.toFields 1 m.nodes ++ textField 2 m.name
    ++ repeatedField TensorMessage.toFields 5 m.initializers
    ++ repeatedField ValueMessage.toFields 11 m.inputs
    ++ repeatedField ValueMessage.toFields 12 m.outputs

/-- The fields of an operator set. -/
def OperatorSetMessage.toFields (m : OperatorSetMessage) : List Field :=
  textField 1 m.domain ++ int64Field 2 m.version

/-- The fields of a model. -/
def ModelMessage.toFields (m : ModelMessage) : List Field :=
  int64Field 1 m.formatVersion ++ textField 2 m.producer
    ++ optionalField GraphMessage.toFields 7 m.graph
    ++ repeatedField OperatorSetMessage.toFields 8 m.operatorSets

/-- **A model file as bytes.** -/
def ModelMessage.encode (m : ModelMessage) : Bytes := render m.toFields

end Microbatch.Exchange
