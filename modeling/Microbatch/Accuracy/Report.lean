import Microbatch.Accuracy.RelativeError
import Microbatch.Exchange.Load

set_option relaxedAutoImplicit false
set_option autoImplicit false

/-!
# Reports on weight updates

Two training runs, each given by its weights before and after, are compared by how they moved the
weights that all four models share.

## Main definitions

* `Microbatch.Accuracy.Report` — the relative error of every update, in name order.
* `Microbatch.Accuracy.Report.ofWeights`, `Microbatch.Accuracy.Report.ofModels` — the report on four
  weight stores or serialized models.
* `Microbatch.Accuracy.Report.render` — the report as text.
-/

namespace Microbatch.Accuracy

/-- **The errors of weight updates**, in name order. -/
structure Report (M : Type) where
  /-- One error for each weight. -/
  errors : List (String × M)

namespace Report

variable {M : Type} [Metric M]

/-- How a weight moved. -/
def update (name : String) (before after : Tensor) : Except (Fault M) (List M) := do
  let old ← tensorValues before
  let new ← tensorValues after
  if old.length ≠ new.length then .error (.lengths (some name) old.length new.length)
  else return difference new old

/-- The relative error between the updates of two runs to one weight. -/
def updateError (name : String) (a₀ a₁ b₀ b₁ : Tensor) : Except (Fault M) M := do
  let left ← update name a₀ a₁
  let right ← update name b₀ b₁
  (relativeError left right).mapError (·.named name)

/-- The weights that four stores share, in name order. -/
def sharedWeights (a₀ a₁ b₀ b₁ : WeightStore) :
    List (String × Tensor × Tensor × Tensor × Tensor) :=
  a₀.entries.filterMap fun e => do
    let after ← a₁.find? e.1
    let otherBefore ← b₀.find? e.1
    let otherAfter ← b₁.find? e.1
    return (e.1, e.2, after, otherBefore, otherAfter)

/-- **The report on four weight stores**: one run goes from the first to the second, the other from
the third to the fourth. -/
def ofWeights (a₀ a₁ b₀ b₁ : WeightStore) : Except (Fault M) (Report M) := do
  let errors ← (sharedWeights a₀ a₁ b₀ b₁).mapM fun (name, w₀, w₁, v₀, v₁) =>
    return (name, ← updateError name w₀ w₁ v₀ v₁)
  return ⟨errors⟩

/-- The weights of a serialized model. -/
def weightsOf (model : Bytes) : Except (Fault M) WeightStore :=
  (Exchange.readWeights model).mapError .unreadable

/-- **The report on four serialized models.** -/
def ofModels (a₀ a₁ b₀ b₁ : Bytes) : Except (Fault M) (Report M) := do
  ofWeights (← weightsOf a₀) (← weightsOf a₁) (← weightsOf b₀) (← weightsOf b₁)

/-- The sum of all errors. -/
def total (r : Report M) : M := Metric.sum (r.errors.map (·.2))

/-- The error of one weight. -/
def find? (r : Report M) (name : String) : Option M := r.errors.lookup name

/-- Checks that every error is within a tolerance. -/
def checkWithin (r : Report M) (tolerance : M) : Except (Fault M) Unit :=
  checkErrors r.errors tolerance

/-- The width of the name column: the longest name, counted in bytes. -/
def nameWidth (errors : List (String × Float)) : Nat :=
  (errors.map fun e => e.1.utf8ByteSize).foldl max 0

/-- A name filled up with blanks to a number of characters. -/
def padded (width : Nat) (name : String) : String :=
  name ++ String.ofList (List.replicate (width - name.length) ' ')

/-- **The report as text**: one line for each weight. -/
def render (r : Report Float) : String :=
  String.join (r.errors.map fun e =>
    padded (nameWidth r.errors) e.1 ++ " : " ++ Decimal.Shortest.render e.2 ++ "\n")

end Report

end Microbatch.Accuracy
