import Microbatch.Folding
import Microbatch.Scalar

set_option relaxedAutoImplicit false
set_option autoImplicit false

/-!
# Kernels

The operations on element values, each with what it does to a gradient. Matrices are lists in
row-major order. Every sum starts from zero and adds its terms one at a time; the order of additions
is part of the definition.

## Main definitions

* `Microbatch.Kernel.matmul`, `Microbatch.Kernel.matmulLeft`, `Microbatch.Kernel.matmulRight` — the
  matrix product and its gradients.
* `Microbatch.Kernel.add`, `Microbatch.Kernel.unbroadcast` — addition of a repeated row, and the
  gradient of that row.
* `Microbatch.Kernel.relu`, `Microbatch.Kernel.reluGradient`, `Microbatch.Kernel.scale` — element by
  element.
* `Microbatch.Kernel.accumulate` — adds a gradient to those that came before.
-/

namespace Microbatch

/-- The sizes of a matrix product: the left matrix has `rows` and `inner` columns, the right one
`inner` rows and `columns`. -/
structure MatrixSize where
  /-- The rows of the left matrix. -/
  rows : Nat
  /-- The columns of the left and the rows of the right matrix. -/
  inner : Nat
  /-- The columns of the right matrix. -/
  columns : Nat
  deriving DecidableEq, Inhabited

namespace Kernel

variable {F : Type} [Scalar F]

/-- A buffer of zeros. -/
def zeros (length : Nat) : List F := List.replicate length Scalar.zero

/-- Adds a list into a buffer. -/
def addOnto (buffer source : List F) : List F := zipOnto Scalar.add buffer source

/-- Adds the multiple of a vector into a buffer; the factor stands left in the products. -/
def addMultiple (buffer : List F) (factor : F) (vector : List F) : List F :=
  zipOnto (fun sum x => Scalar.add sum (Scalar.mul factor x)) buffer vector

/-- Adds multiples of vectors into a buffer, one after the other. -/
def combine (buffer factors : List F) (vectors : List (List F)) : List F :=
  (factors.zip vectors).foldl (fun acc p => addMultiple acc p.1 p.2) buffer

/-- **The matrix product.** A row of the result is the combination of the right matrix's rows with
the factors of the left matrix's row. -/
def matmul (size : MatrixSize) (a b : List F) : List F :=
  let vectors := rows size.inner size.columns b
  (rows size.rows size.inner a).flatMap fun row => combine (zeros size.columns) row vectors

/-- **The gradient of the left matrix**: a row of it combines the right matrix's columns with the
factors of the gradient's row. -/
def matmulLeft (size : MatrixSize) (b gradient : List F) : List F :=
  let vectors := columns size.columns (rows size.inner size.columns b)
  (rows size.rows size.columns gradient).flatMap fun row => combine (zeros size.inner) row vectors

/-- All products of an element of one list with an element of another, in row-major order. -/
def outer (xs ys : List F) : List F := xs.flatMap fun x => ys.map (Scalar.mul x)

/-- **The gradient of the right matrix**: the sum of the outer products of the left matrix's rows
with the gradient's rows. -/
def matmulRight (size : MatrixSize) (a gradient : List F) : List F :=
  ((rows size.rows size.inner a).zip (rows size.rows size.columns gradient)).foldl
    (fun acc p => addOnto acc (outer p.1 p.2)) (zeros (size.inner * size.columns))

/-- **Addition**; a shorter second summand is repeated. -/
def add (a b : List F) : List F := mapCycling Scalar.add b a

/-- **The gradient of a repeated summand** of the given length: what reaches each of its elements is
added up. -/
def unbroadcast (gradient : List F) (length : Nat) : List F :=
  foldOnto Scalar.add (zeros length) gradient

/-- What is above zero stays; all else becomes zero. -/
def relu (xs : List F) : List F := xs.map fun x => if Scalar.isPositive x then x else Scalar.zero

/-- The gradient passes where the operand is above zero. -/
def reluGradient (xs gradient : List F) : List F :=
  List.zipWith (fun x g => if Scalar.isPositive x then g else Scalar.zero) xs gradient

/-- Multiplies every element by a factor. -/
def scale (factor : F) (xs : List F) : List F := xs.map fun x => Scalar.mul x factor

/-- Adds a gradient to the gradient so far; the first one is taken as it is. -/
def accumulate (sofar gradient : List F) : List F :=
  if sofar.isEmpty then gradient else addOnto sofar gradient

/-- One step of gradient descent with weight decay. -/
def descend (learningRate weightDecay : F) (weights gradient : List F) : List F :=
  zipOnto (fun w g =>
    Scalar.sub w (Scalar.mul learningRate (Scalar.add g (Scalar.mul weightDecay w))))
    weights gradient

end Kernel

end Microbatch
