import Microbatch.Size

set_option relaxedAutoImplicit false
set_option autoImplicit false

/-!
# Shapes

A shape is the list of a tensor's dimensions, the leading one first. Its element count is the
product of the dimensions; the count is undefined as soon as a partial product, taken from the
leading dimension on, is not a size.

## Main definitions

* `Microbatch.Shape` — a list of dimensions.
* `Microbatch.Shape.count?`, `Microbatch.Shape.count` — the element count, undefined or clipped to
  the largest size when it does not fit.
* `Microbatch.Shape.withLeading`, `Microbatch.Shape.withOuter` — the leading dimension replaced, and
  a dimension put in front.
-/

namespace Microbatch

/-- **A shape**: the dimensions from the outermost in. -/
structure Shape where
  /-- The dimensions. -/
  dims : List Nat
  deriving DecidableEq, Inhabited

namespace Shape

/-- The shape of a single element. -/
def scalar : Shape := ⟨[]⟩

/-- The number of dimensions. -/
def rank (s : Shape) : Nat := s.dims.length

/-- The element count, multiplied up from the leading dimension; undefined once a partial product is
no size. -/
def count? (s : Shape) : Option Nat :=
  s.dims.foldlM Size.mul? 1

/-- The element count, or the largest size where it does not fit. -/
def count (s : Shape) : Nat := s.count?.getD Size.largest

/-- The outermost dimension. -/
def leading? (s : Shape) : Option Nat := s.dims.head?

/-- The shape with its outermost dimension replaced; a scalar stays a scalar. -/
def withLeading (s : Shape) (leading : Nat) : Shape :=
  match s.dims with
  | [] => s
  | _ :: rest => ⟨leading :: rest⟩

/-- The shape with one more dimension in front. -/
def withOuter (s : Shape) (outer : Nat) : Shape := ⟨outer :: s.dims⟩

/-- The dimensions in brackets. -/
def render (s : Shape) : String :=
  "[" ++ ", ".intercalate (s.dims.map toString) ++ "]"

instance : ToString Shape := ⟨render⟩

@[simp] theorem count?_scalar : scalar.count? = some 1 := rfl

end Shape

end Microbatch
