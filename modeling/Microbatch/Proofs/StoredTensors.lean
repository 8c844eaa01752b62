import Microbatch.Proofs.WeightShapes

set_option relaxedAutoImplicit false
set_option autoImplicit false

/-!
# Tensors in initializers

A tensor is written into an initializer with its elements as bytes, and read back from one that may
hold them as numbers. Its dimensions are signed there, and the size that it describes is clipped
where it does not fit. Whatever can be read has just the size that it describes, as long as nothing
is as long as a clipped size; and if it is written again, the initializer is the same but for its
elements, which are bytes then.

## Main definitions

* `Microbatch.Exchange.TensorMessage.withBytes` — an initializer with its numbers as bytes.

## Main results

* `Microbatch.Exchange.TensorMessage.ofTensor_of_toTensor` — what is written of a tensor that was
  read.
* `Microbatch.Exchange.TensorMessage.toTensor_withBytes` — numbers and their bytes say the same.
* `Microbatch.Exchange.TensorMessage.reads_back` — writing and reading tensors.
-/

namespace Microbatch.Exchange.TensorMessage

/-- **An initializer with its numbers as bytes.** -/
def withBytes (m : TensorMessage) : TensorMessage :=
  { m with floats := [], raw := Single.bytesOfList m.floats }

/-! ### Reading and writing -/

/-- The dimensions of a tensor are those of its initializer. -/
lemma dims_of_toTensor {m : TensorMessage} {t : Tensor} (read : m.toTensor = .ok t) :
    m.dims.map Int64.toInt = t.info.shape.dims.map Int.ofNat := by
  have sizes := (toTensor_eq_ok_iff_stores.1 read).dims
  rw [← Outcome.forall₂_eq_iff_map, List.forall₂_map_right_iff]
  exact sizes

/-- **A tensor that was read is written** as its initializer was, with its payload as bytes. -/
lemma ofTensor_of_toTensor {m : TensorMessage} {t : Tensor} (read : m.toTensor = .ok t) :
    ofTensor m.name t = { m with floats := [], raw := t.payload } := by
  have stores := toTensor_eq_ok_iff_stores.1 read
  have code : t.info.elementType.code = m.elementCode :=
    (ElementType.ofCode?_eq_some_iff.1 stores.code).symm
  have dims : t.info.shape.dims.map Int64.ofNat = m.dims := by
    rw [← Outcome.forall₂_eq_iff_map]
    refine List.Forall₂.flip (stores.dims.imp fun d n size => ?_)
    rw [← Int64.ofInt_toInt d, size]
    rfl
  rw [ofTensor, code, dims]

/-! ### Numbers and their bytes -/

/-- No bytes are those of no numbers. -/
lemma bytesOfList_eq_nil_iff {xs : List Single} : Single.bytesOfList xs = [] ↔ xs = [] := by
  rw [← List.length_eq_zero_iff, Single.length_bytesOfList, ← List.length_eq_zero_iff]
  omega

/-- The payload of numbers is that of their bytes. -/
lemma payload_withBytes {m : TensorMessage} (empty : m.raw = []) :
    m.withBytes.payload .float32 = m.payload .float32 := by
  have bytes : m.withBytes.raw = Single.bytesOfList m.floats := rfl
  have numbers : m.withBytes.floats = [] := rfl
  unfold payload
  rw [bytes, numbers, empty]
  by_cases none : m.floats = []
  · rw [none]
    rfl
  · simp [none, bytesOfList_eq_nil_iff]

/-- **Numbers and their bytes say the same.** An initializer of single-precision numbers that holds
no bytes is read, or refused, just as if it held the bytes of its numbers. -/
lemma toTensor_withBytes {m : TensorMessage} (code : m.elementCode = ElementType.float32.code)
    (empty : m.raw = []) : m.withBytes.toTensor = m.toTensor := by
  have known : ElementType.ofCode? m.elementCode = some .float32 :=
    code ▸ ElementType.ofCode?_code _
  have known' : ElementType.ofCode? m.withBytes.elementCode = some .float32 := known
  unfold toTensor
  rw [known, known']
  simp only [payload_withBytes empty]
  rfl

/-! ### Writing and reading tensors -/

/-- **Tensors are written and read back.**

* A tensor whose dimensions are signed 64-bit numbers, and whose payload has the size that it
  describes, is read back from the initializer that it is written into.
* A tensor that was read has a payload of the size that it describes, and this size was not clipped,
  if the initializer has fewer bytes than a clipped size; numbers may be as many as they are. It has
  the dimensions of the initializer. Written again, it makes the same initializer with its payload
  as bytes, and that is read as the same tensor.
* An initializer of single-precision numbers without bytes gives the same tensor, or is refused for
  the same reason, as one with the bytes of these numbers.

**Proof sketch.** What can be read is what an initializer holds, whether in bytes or in numbers. A
size that was clipped is odd, and so it is no number of bytes of single-precision numbers. -/
theorem reads_back (name : String) (t : Tensor) (m : TensorMessage) :
    ((∀ d ∈ t.info.shape.dims, d < 2 ^ 63) → t.WellFormed →
      (ofTensor name t).toTensor = .ok t) ∧
    (m.raw.length < Size.largest → m.toTensor = .ok t →
      t.WellFormed ∧ m.dims.map Int64.toInt = t.info.shape.dims.map Int.ofNat ∧
      ofTensor m.name t = { m with floats := [], raw := t.payload } ∧
      (ofTensor m.name t).toTensor = .ok t) ∧
    (m.elementCode = ElementType.float32.code → m.raw = [] →
      m.withBytes.toTensor = m.toTensor) := by
  refine ⟨fun dims whole => ?_, fun small read => ?_, toTensor_withBytes⟩
  · have length : t.payload.length = t.info.byteCount :=
      (TensorInfo.byteCount_of_eq_some whole).symm
    exact toTensor_ofTensor ⟨dims, length⟩
  · exact ⟨wellFormed_of_toTensor read small, dims_of_toTensor read, ofTensor_of_toTensor read,
      toTensor_ofTensor (storable_of_toTensor read)⟩

/-- An initializer of two numbers, one and the negative zero. -/
def numbersSample : TensorMessage where
  dims := [1, 2]
  elementCode := 1
  floats := [.one, ⟨0x80000000⟩]
  name := "w"

/-- The tensor that `numbersSample` holds. -/
def numbersTensor : Tensor := .ofSingles ⟨[1, 2]⟩ [.one, ⟨0x80000000⟩]

/-- **A tensor of two numbers**, written and read back, from numbers and from bytes. -/
theorem reads_back_sample :
    numbersTensor.WellFormed ∧ (ofTensor "w" numbersTensor).toTensor = .ok numbersTensor ∧
    numbersSample.toTensor = .ok numbersTensor ∧
    ofTensor "w" numbersTensor = numbersSample.withBytes ∧
    numbersSample.withBytes.toTensor = .ok numbersTensor := by
  have whole : numbersTensor.WellFormed := by decide
  have read : numbersSample.toTensor = .ok numbersTensor := by decide
  obtain ⟨written, again, moved⟩ := reads_back "w" numbersTensor numbersSample
  obtain ⟨-, -, same, -⟩ := again (by decide) read
  exact ⟨whole, written (by decide) whole, read, same, (moved rfl rfl).trans read⟩

end Microbatch.Exchange.TensorMessage
