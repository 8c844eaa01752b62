import Microbatch.Tensor.Basic

set_option relaxedAutoImplicit false
set_option autoImplicit false

/-!
# Reading a tensor from front to back

A cursor stands at a byte of a tensor's payload and keeps the bytes from there on, so that reading
on does not go through the payload from its start again.

## Main definitions

* `Microbatch.Cursor` — a position in the payload of a tensor.
* `Microbatch.Cursor.view` — the part of the payload at the cursor.
* `Microbatch.Cursor.skip`, `Microbatch.Cursor.rewind` — moves the cursor.

## Main results

* `Microbatch.Cursor.view_eq` — what is seen at the cursor is the view of the tensor there.
-/

namespace Microbatch

/-- **A position in the payload of a tensor.** It may be past the end. -/
structure Cursor where
  /-- The tensor. -/
  tensor : Tensor
  /-- The size of its payload. -/
  size : Nat
  /-- How many bytes are behind the cursor. -/
  offset : Nat
  /-- The bytes ahead of it. -/
  ahead : Bytes
  /-- The size is that of the payload. -/
  size_eq : size = tensor.payload.length
  /-- What is ahead is what the bytes behind leave. -/
  ahead_eq : ahead = tensor.payload.drop offset

namespace Cursor

/-- The cursor at the first byte of a tensor. -/
def atStart (t : Tensor) : Cursor := ⟨t, t.payload.length, 0, t.payload, rfl, rfl⟩

/-- **The part of the payload at the cursor**, under a description that says how long it is. -/
def view (c : Cursor) (info : TensorInfo) : Except TensorFault Tensor :=
  if c.offset + info.byteCount ≤ c.size then .ok ⟨info, c.ahead.take info.byteCount⟩
  else .error (.viewOutside info.byteCount c.offset c.size)

/-- Moves the cursor on by some bytes. -/
def skip (c : Cursor) (count : Nat) : Cursor where
  tensor := c.tensor
  size := c.size
  offset := c.offset + count
  ahead := c.ahead.drop count
  size_eq := c.size_eq
  ahead_eq := by rw [c.ahead_eq, List.drop_drop]

/-- Moves the cursor back to the first byte. -/
def rewind (c : Cursor) : Cursor := ⟨c.tensor, c.size, 0, c.tensor.payload, c.size_eq, rfl⟩

/-- **What is seen at the cursor is the view of the tensor there.** -/
theorem view_eq (c : Cursor) (info : TensorInfo) : c.view info = c.tensor.view c.offset info := by
  rw [view, Tensor.view, c.size_eq, c.ahead_eq]

end Cursor

end Microbatch
