import Microbatch.Accuracy.Metric
import Microbatch.Decimal.Shortest
import Microbatch.Fault.Model
import Microbatch.Tensor.Basic

set_option relaxedAutoImplicit false
set_option autoImplicit false

/-!
# Relative errors

The relative error of two vectors is the length of their difference over the square root of the
product of their squared lengths, with a small amount added below.

## Main definitions

* `Microbatch.Accuracy.relativeError` — the error of two lists of values.
* `Microbatch.Accuracy.tensorValues`, `Microbatch.Accuracy.tensorError` — the same for tensors.
* `Microbatch.Accuracy.checkError` — whether an error is within a margin.
* `Microbatch.Accuracy.Fault` — why there is no error, or why it is too large.
-/

namespace Microbatch.Accuracy

/-- **Why a comparison fails.** -/
inductive Fault (M : Type) where
  /-- The two sides have different numbers of elements. -/
  | lengths (name : Option String) (left right : Nat)
  /-- The error is no number. -/
  | notNumber (name : Option String)
  /-- The error is above the tolerance. -/
  | exceeded (name : String) (error tolerance : M)
  /-- Half-precision tensors have no values here. -/
  | halfPrecision
  /-- A model cannot be read. -/
  | unreadable (cause : ReadFault)
  deriving DecidableEq

/-- The tensor in question, where it is known. -/
def forName : Option String → String
  | none => ""
  | some name => s!" for `{name}`"

/-- The wording of a fault. -/
def Fault.message : Fault Float → String
  | lengths name left right => s!"cannot compare {left} elements with {right}" ++ forName name
  | notNumber name => "relative error is NaN" ++ forName name
  | exceeded name error tolerance =>
    s!"relative error {Decimal.Shortest.render error} for `{name}` exceeds tolerance " ++
      Decimal.Shortest.render tolerance
  | halfPrecision => "cannot read model: FLOAT16 tensors cannot be compared"
  | unreadable cause => s!"cannot read model: {cause.message}"

variable {M : Type}

/-- The fault with the name of the tensor in question. -/
def Fault.named (name : String) : Fault M → Fault M
  | lengths _ left right => .lengths (some name) left right
  | notNumber _ => .notNumber (some name)
  | exceeded name error tolerance => .exceeded name error tolerance
  | halfPrecision => .halfPrecision
  | unreadable cause => .unreadable cause

variable [Metric M]

/-! ### Values -/

/-- The sum of products of two lists, term by term from zero. -/
def dot (xs ys : List M) : M :=
  (xs.zip ys).foldl (fun acc p => Metric.add acc (Metric.mul p.1 p.2)) Metric.zero

/-- The squared length of a vector. -/
def squaredLength (xs : List M) : M := dot xs xs

/-- The difference of two vectors. -/
def difference (xs ys : List M) : List M := List.zipWith Metric.sub xs ys

/-- **The relative error** of two lists of values. -/
def relativeError (xs ys : List M) : Except (Fault M) M :=
  if xs.length ≠ ys.length then .error (.lengths none xs.length ys.length)
  else
    let scale := Metric.sqrt (Metric.mul (squaredLength xs) (squaredLength ys))
    let error := Metric.div (Metric.sqrt (squaredLength (difference xs ys)))
      (Metric.add scale Metric.epsilon)
    if Metric.isNaN error then .error (.notNumber none) else .ok error

/-! ### Tensors -/

/-- The values of a tensor; bytes that do not make up a whole element are dropped. -/
def tensorValues (t : Tensor) : Except (Fault M) (List M) :=
  match t.info.elementType with
  | .float32 => .ok ((Single.listOfBytes t.payload).map Metric.ofSingle)
  | .int32 => .ok ((Bytes.words32 t.payload).map fun w => Metric.ofInt64 w.toInt32.toInt64)
  | .int64 => .ok ((Bytes.words64 t.payload).map fun w => Metric.ofInt64 w.toInt64)
  | .uint8 => .ok (t.payload.map fun b => Metric.ofInt64 (Int64.ofNat b.toNat))
  | .float16 => .error .halfPrecision

/-- **The relative error of two tensors** of one name. -/
def tensorError (name : String) (a b : Tensor) : Except (Fault M) M := do
  let xs ← tensorValues a
  let ys ← tensorValues b
  (relativeError xs ys).mapError (·.named name)

/-- **Whether an error is within a margin**: it is a number and not above it. -/
def checkError (name : String) (error margin : M) : Except (Fault M) Unit :=
  if Metric.isNaN error then .error (.notNumber (some name))
  else if Metric.exceeds error margin then .error (.exceeded name error margin)
  else .ok ()

/-- Checks errors in order. -/
def checkErrors (errors : List (String × M)) (margin : M) : Except (Fault M) Unit :=
  errors.forM fun e => checkError e.1 e.2 margin

end Microbatch.Accuracy
