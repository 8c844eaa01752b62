import Microbatch.Tensor.Info
import Microbatch.Single

set_option relaxedAutoImplicit false
set_option autoImplicit false

/-!
# Tensors

A tensor is a description and a payload of little-endian elements in row-major order. Nothing forces
the payload to have the described size; `Microbatch.Tensor.Fits` says when it does.

## Main definitions

* `Microbatch.Tensor` — a description with a payload.
* `Microbatch.TensorInfo.validate` — checks a tensor against a description.
* `Microbatch.Tensor.view`, `Microbatch.Tensor.reshape`, `Microbatch.Tensor.addStepDimension` —
  parts of a payload and payloads under another shape.
* `Microbatch.Tensor.toSingles`, `Microbatch.Tensor.ofSingles` — numbers of a tensor.
* `Microbatch.TensorFault`, `Microbatch.Mismatch` — why these refuse.
-/

namespace Microbatch

/-- **A tensor**: a description and a payload. -/
structure Tensor where
  /-- Element type and shape. -/
  info : TensorInfo
  /-- The elements, little-endian and row-major. -/
  payload : Bytes
  deriving DecidableEq, Inhabited

/-! ### Faults -/

/-- **Why an operation on a tensor is refused.** -/
inductive TensorFault where
  /-- Numbers were asked of a tensor of another element type. -/
  | notFloat (info : TensorInfo)
  /-- Numbers were asked of an anchor of another element type. -/
  | anchorNotFloat (name : String) (info : TensorInfo)
  /-- A payload of numbers is not made of whole words. -/
  | partialWord
  /-- A view reaches past the end of the payload. -/
  | viewOutside (size offset available : Nat)
  /-- Two shapes hold different numbers of elements. -/
  | countsDiffer (current wanted : Shape)
  /-- A step needs at least one micro-batch. -/
  | noMicroBatches
  /-- A scalar has no outer dimension to divide. -/
  | scalarStep
  /-- The outer dimension is no multiple of the number of micro-batches. -/
  | indivisible (outer microBatches : Nat)
  deriving DecidableEq

/-- The wording of a fault. -/
def TensorFault.message : TensorFault → String
  | notFloat info => s!"expected a FLOAT tensor, got {info}"
  | anchorNotFloat name info => s!"anchor `{name}` is {info}"
  | partialWord => "f32 payload has invalid byte length"
  | viewOutside size offset available =>
    s!"view of {size} bytes at offset {offset} exceeds tensor of {available} bytes"
  | countsDiffer current wanted => s!"cannot reshape {current} to {wanted}"
  | noMicroBatches => "micro-batch count must be at least 1"
  | scalarStep => "cannot add a step dimension to a scalar"
  | indivisible outer microBatches =>
    s!"outer dimension {outer} is not divisible into {microBatches} micro-batches"

/-- **How a named tensor differs from what is expected of it.** -/
inductive Mismatch where
  /-- Description or payload size differs. -/
  | payload (name : String) (expected actual : TensorInfo) (size : Nat)
  /-- The tensor has neither of the two layouts of a step input. -/
  | layout (name : String) (flat stepped actual : TensorInfo)
  deriving DecidableEq

namespace Mismatch

/-- The tensor in question. -/
def name : Mismatch → String
  | payload name .. => name
  | layout name .. => name

/-- What was expected. -/
def expected : Mismatch → String
  | payload _ expected .. => expected.render
  | layout _ flat stepped _ => s!"{flat} or {stepped}"

/-- What was found. -/
def actual : Mismatch → String
  | payload _ _ actual size => s!"{actual} ({size} bytes)"
  | layout _ _ _ actual => actual.render

/-- The wording of a mismatch. -/
def message (m : Mismatch) : String :=
  s!"shape mismatch for `{m.name}`: expected {m.expected}, got {m.actual}"

end Mismatch

/-! ### Descriptions and payloads -/

namespace Tensor

/-- A tensor has a description: its own description is that one and its payload has that size. -/
def Fits (info : TensorInfo) (t : Tensor) : Prop :=
  t.info = info ∧ info.byteCount? = some t.payload.length

instance (info : TensorInfo) (t : Tensor) : Decidable (Fits info t) :=
  inferInstanceAs (Decidable (_ ∧ _))

/-- A tensor is well formed when its payload has the size that it describes. -/
def WellFormed (t : Tensor) : Prop := t.info.byteCount? = some t.payload.length

instance (t : Tensor) : Decidable t.WellFormed := inferInstanceAs (Decidable (_ = _))

theorem fits_self_iff {t : Tensor} : Fits t.info t ↔ t.WellFormed :=
  ⟨fun h => h.2, fun h => ⟨rfl, h⟩⟩

end Tensor

/-- Checks that a tensor has exactly this description and a payload of the matching size. -/
def TensorInfo.validate (info : TensorInfo) (name : String) (t : Tensor) : Except Mismatch Unit :=
  if t.Fits info then .ok () else .error (.payload name info t.info t.payload.length)

theorem TensorInfo.validate_eq_ok_iff {info : TensorInfo} {name : String} {t : Tensor} :
    info.validate name t = .ok () ↔ t.Fits info := by
  unfold TensorInfo.validate
  split <;> simp [*]

namespace Tensor

/-- The tensor of all zero bytes with a description. -/
def zeros (info : TensorInfo) : Tensor := ⟨info, List.replicate info.byteCount 0⟩

/-- The tensor of single-precision numbers with a shape. -/
def ofSingles (shape : Shape) (values : List Single) : Tensor :=
  ⟨⟨.float32, shape⟩, Single.bytesOfList values⟩

/-- The tensor of 32-bit integers with a shape. -/
def ofInts (shape : Shape) (values : List Int32) : Tensor :=
  ⟨⟨.int32, shape⟩, Bytes.ofWords32 (values.map Int32.toUInt32)⟩

/-- The numbers of a payload made of whole words. -/
def singlesOfBytes (payload : Bytes) : Except TensorFault (List Single) :=
  if payload.length % 4 = 0 then .ok (Single.listOfBytes payload) else .error .partialWord

/-- The numbers of a tensor of single-precision numbers. -/
def toSingles (t : Tensor) : Except TensorFault (List Single) :=
  if t.info.elementType = .float32 then singlesOfBytes t.payload else .error (.notFloat t.info)

/-- The part of the payload from an offset on, under a description that says how long it is. -/
def view (t : Tensor) (offset : Nat) (info : TensorInfo) : Except TensorFault Tensor :=
  if offset + info.byteCount ≤ t.payload.length then
    .ok ⟨info, (t.payload.drop offset).take info.byteCount⟩
  else
    .error (.viewOutside info.byteCount offset t.payload.length)

/-- The same payload under another shape with the same element count. -/
def reshape (t : Tensor) (shape : Shape) : Except TensorFault Tensor :=
  if shape.count = t.info.shape.count then .ok ⟨⟨t.info.elementType, shape⟩, t.payload⟩
  else .error (.countsDiffer t.info.shape shape)

/-- Splits the outer dimension of a flat step input into a step dimension and a batch dimension. -/
def addStepDimension (t : Tensor) (microBatches : Nat) : Except TensorFault Tensor :=
  if microBatches = 0 then .error .noMicroBatches
  else
    match t.info.shape.leading? with
    | none => .error .scalarStep
    | some outer =>
      if outer % microBatches = 0 then
        t.reshape ((t.info.shape.withLeading (outer / microBatches)).withOuter microBatches)
      else
        .error (.indivisible outer microBatches)

@[simp] theorem toSingles_ofSingles (shape : Shape) (values : List Single) :
    (ofSingles shape values).toSingles = .ok values := by
  simp [toSingles, singlesOfBytes, ofSingles]

end Tensor

end Microbatch
