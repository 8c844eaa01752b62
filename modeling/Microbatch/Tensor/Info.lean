import Microbatch.Tensor.ElementType
import Microbatch.Tensor.Shape

set_option relaxedAutoImplicit false
set_option autoImplicit false

/-!
# Tensor descriptions

## Main definitions

* `Microbatch.TensorInfo` — an element type and a shape.
* `Microbatch.TensorInfo.byteCount?`, `Microbatch.TensorInfo.byteCount` — the payload size,
  undefined or clipped to the largest size when it does not fit.
-/

namespace Microbatch

/-- **What a tensor looks like**: its element type and its shape. -/
structure TensorInfo where
  /-- The type of every element. -/
  elementType : ElementType
  /-- The dimensions. -/
  shape : Shape
  deriving DecidableEq, Inhabited

namespace TensorInfo

/-- Single-precision numbers of the given dimensions. -/
def float32 (dims : List Nat) : TensorInfo := ⟨.float32, ⟨dims⟩⟩

/-- The payload size in bytes, if element count and byte count are sizes. -/
def byteCount? (info : TensorInfo) : Option Nat :=
  info.shape.count?.bind fun count => Size.mul? count info.elementType.byteSize

/-- The payload size in bytes, or the largest size where it does not fit. -/
def byteCount (info : TensorInfo) : Nat := info.byteCount?.getD Size.largest

/-- The element type followed by the dimensions. -/
def render (info : TensorInfo) : String := info.elementType.name ++ info.shape.render

instance : ToString TensorInfo := ⟨render⟩

end TensorInfo

end Microbatch
