import Microbatch.Fault.Basic
import Microbatch.NameMap
import Microbatch.Training

set_option relaxedAutoImplicit false
set_option autoImplicit false

/-!
# Weights

## Main definitions

* `Microbatch.WeightStore` — named tensors.
* `Microbatch.WeightStore.resetFrom` — overwrites the weights that another store also holds.
* `Microbatch.Optimizer.checkReplacement` — whether an optimizer may follow another.
-/

namespace Microbatch

/-- **Named weights.** -/
abbrev WeightStore := NameMap Tensor

namespace WeightStore

/-- Checks the replacements that a source offers for the weights of a store, in name order. -/
def checkReplacements (store source : WeightStore) : Except Mismatch Unit :=
  source.entries.forM fun e =>
    match store.find? e.1 with
    | some current => current.info.validate e.1 e.2
    | none => .ok ()

/-- The number of weights that a source also holds. -/
def sharedCount (store source : WeightStore) : Nat :=
  (store.names.filter source.contains).length

/-- The store with every shared weight taken from the source. -/
def replaceFrom (store source : WeightStore) : WeightStore :=
  store.mapValues fun name current => (source.find? name).getD current

/-- **Takes over the weights of another store.** Every replacement keeps description and size of the
weight that it replaces, names that only the source has are passed over, and a store with weights
must share one of them. The result is the number of replaced weights and the new store. -/
def resetFrom (store source : WeightStore) : Except Fault (Nat × WeightStore) :=
  match checkReplacements store source with
  | .error cause => .error (.mismatch cause)
  | .ok () =>
    if store.sharedCount source = 0 ∧ store.isEmpty = false then .error (.model .unrelated)
    else .ok (store.sharedCount source, store.replaceFrom source)

end WeightStore

/-- **Whether an optimizer may be replaced**: both must be replaceable. -/
def Optimizer.checkReplacement (current next : Optimizer) : Except ConfigurationFault Unit :=
  match current.mode, next.mode with
  | .replaceable, .replaceable => .ok ()
  | .constant, _ => .error .constantOptimizer
  | .replaceable, .constant => .error .differentOptimizer

end Microbatch
