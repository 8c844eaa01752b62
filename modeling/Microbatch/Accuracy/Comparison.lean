import Microbatch.Accuracy.RelativeError
import Microbatch.NameMap

set_option relaxedAutoImplicit false
set_option autoImplicit false

/-!
# Comparing named tensors

## Main definitions

* `Microbatch.Accuracy.compare` — the errors of the tensors that two runs share, in name order.
* `Microbatch.Accuracy.worst` — the largest error.
-/

namespace Microbatch.Accuracy

variable {M : Type} [Metric M]

/-- The tensors that two maps share, in name order. -/
def sharedEntries (a b : NameMap Tensor) : List (String × Tensor × Tensor) :=
  a.entries.filterMap fun e => (b.find? e.1).map fun right => (e.1, e.2, right)

/-- The errors of the tensors that two maps share, in name order. -/
def sharedErrors (a b : NameMap Tensor) : Except (Fault M) (List (String × M)) :=
  (sharedEntries a b).mapM fun e => return (e.1, ← tensorError e.1 e.2.1 e.2.2)

/-- **Compares two runs.** Every shared tensor must have an error; then each error must be within
the tolerance. Tensors of one run only are passed over. -/
def compare (a b : NameMap Tensor) (tolerance : M) : Except (Fault M) (List (String × M)) := do
  let errors ← sharedErrors a b
  checkErrors errors tolerance
  return errors

/-- The later of two errors, unless it precedes the other. -/
def greater (x y : String × M) : String × M := if Metric.precedes y.2 x.2 then x else y

/-- **The largest error** with its tensor; of equal ones the last. -/
def worst : List (String × M) → Option (String × M)
  | [] => none
  | e :: rest => some (rest.foldl greater e)

end Microbatch.Accuracy
