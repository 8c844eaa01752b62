import Microbatch.Anchor.Policy
import Microbatch.Fault.Basic

set_option relaxedAutoImplicit false
set_option autoImplicit false

/-!
# Data flow of a step

## Main definitions

* `Microbatch.DataFlow` — how many micro-batches make up a step and which tensors come back.
* `Microbatch.DataFlow.ofAnchors`, `Microbatch.DataFlow.ofNames` — the data flow for anchors whose
  policies are given as values or in writing.
-/

namespace Microbatch

/-- **What host and device exchange in one step.** -/
structure DataFlow where
  /-- The number of micro-batches per step. -/
  microBatches : Nat
  /-- The tensors that come back. -/
  anchors : List Anchor
  /-- A step has at least one micro-batch. -/
  microBatches_pos : 0 < microBatches

namespace DataFlow

/-- The first anchor name that occurs among names already seen or among earlier anchors. -/
def firstRepeat? (seen : List String) : List Anchor → Option String
  | [] => none
  | a :: rest => if seen.contains a.name then some a.name else firstRepeat? (a.name :: seen) rest

/-- The data flow with the given anchors; it needs a micro-batch, and names must differ. -/
def ofAnchors (microBatches : Nat) (anchors : List Anchor) : Except Fault DataFlow :=
  if h : 0 < microBatches then
    match firstRepeat? [] anchors with
    | some name => .error (.duplicateAnchor name)
    | none => .ok ⟨microBatches, anchors, h⟩
  else
    .error (.configuration .noBatches)

/-- An anchor whose policy is given in writing. -/
def readAnchor (name policy : String) : Except Fault Anchor :=
  match Policy.ofText? policy with
  | some policy => .ok ⟨name, policy⟩
  | none => .error (.unsupportedPolicy policy)

/-- The data flow with anchors whose policies are given in writing; all of them are read first. -/
def ofNames (microBatches : Nat) (anchors : List (String × String)) : Except Fault DataFlow := do
  let anchors ← anchors.mapM (fun a => readAnchor a.1 a.2)
  ofAnchors microBatches anchors

/-- Whether a tensor comes back. -/
def isAnchored (flow : DataFlow) (name : String) : Bool :=
  flow.anchors.any (fun a => a.name == name)

end DataFlow

end Microbatch
