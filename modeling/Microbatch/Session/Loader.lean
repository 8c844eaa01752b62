import Microbatch.Session.Inputs
import Microbatch.Tensor.Cursor

set_option relaxedAutoImplicit false
set_option autoImplicit false

/-!
# Loading datasets

A loader cuts a dataset, whose tensors hold samples along the outer dimension, into the inputs of
steps. Samples at the end that do not fill a step are left out.

## Main definitions

* `Microbatch.Loader` — a dataset with a position in it.
* `Microbatch.Loader.ofDataset` — the loader of a dataset.
* `Microbatch.Loader.next` — the inputs of the next step.
-/

namespace Microbatch

/-- **Why a dataset cannot be loaded.** -/
inductive LoaderFault where
  /-- A step needs micro-batches, and a micro-batch needs samples. -/
  | notPositive
  /-- There is no tensor. -/
  | empty
  /-- A tensor has no samples. -/
  | scalar (name : String)
  /-- A tensor has another number of samples than those before it. -/
  | sampleCount (name : String) (samples expected : Nat)
  /-- There are too few samples for one step. -/
  | tooSmall (samples perStep : Nat)
  deriving DecidableEq

/-- The wording of a fault. -/
def LoaderFault.message : LoaderFault → String
  | notPositive => "micro-batches and batch size must be positive"
  | empty => "dataset is empty"
  | scalar name => s!"dataset tensor `{name}` is a scalar"
  | sampleCount name samples expected =>
    s!"dataset tensor `{name}` has {samples} samples, expected {expected}"
  | tooSmall samples perStep =>
    s!"dataset of {samples} samples is smaller than one step of {perStep}"

/-- **A dataset with a position in it.** -/
structure Loader where
  /-- The tensors, each with a cursor at the first sample of the next step. -/
  cursors : NameMap Cursor
  /-- The micro-batches of a step. -/
  microBatches : Nat
  /-- The samples of a step. -/
  samplesPerStep : Nat
  /-- The samples of the dataset. -/
  samples : Nat
  /-- Whether inputs have a step dimension. -/
  stepped : Bool
  /-- The first sample of the next step. -/
  position : Nat

namespace Loader

/-- The samples of a tensor. -/
def samplesOf (name : String) (t : Tensor) : Except LoaderFault Nat :=
  match t.info.shape.leading? with
  | some n => .ok n
  | none => .error (.scalar name)

/-- The number of samples that all tensors have; the first tensor sets it. -/
def commonSamples : List (String × Tensor) → Except LoaderFault Nat
  | [] => .error .empty
  | (name, first) :: rest => do
    let expected ← samplesOf name first
    rest.forM fun e => do
      let n ← samplesOf e.1 e.2
      if n = expected then .ok () else .error (.sampleCount e.1 n expected)
    return expected

/-- **The loader of a dataset**, at its first sample. -/
def ofDataset (dataset : NameMap Tensor) (microBatches batchSize : Nat) (stepped : Bool := false) :
    Except LoaderFault Loader :=
  if microBatches = 0 ∨ batchSize = 0 then .error .notPositive
  else do
    let samples ← commonSamples dataset.entries
    if microBatches * batchSize ≤ samples then
      let cursors := dataset.mapValues fun _ t => .atStart t
      return ⟨cursors, microBatches, microBatches * batchSize, samples, stepped, 0⟩
    else .error (.tooSmall samples (microBatches * batchSize))

/-- The number of steps in one pass over the dataset. -/
def steps (l : Loader) : Nat := l.samples / l.samplesPerStep

/-- The loader back at the first sample. -/
def reset (l : Loader) : Loader :=
  { l with cursors := l.cursors.mapValues fun _ c => c.rewind, position := 0 }

/-- The loader at the first sample of the step after the next one. -/
def advance (l : Loader) : Loader :=
  let stepBytes (t : Tensor) : Nat := l.samplesPerStep * (t.info.byteCount / l.samples)
  { l with
    cursors := l.cursors.mapValues fun _ c => c.skip (stepBytes c.tensor)
    position := l.position + l.samplesPerStep }

/-- The samples of the next step, from a tensor of the dataset. -/
def slice (l : Loader) (c : Cursor) : Except TensorFault Tensor := do
  let info := c.tensor.info
  let step ← c.view ⟨info.elementType, info.shape.withLeading l.samplesPerStep⟩
  if l.stepped then step.addStepDimension l.microBatches else return step

/-- The inputs of the next step. -/
def inputs (l : Loader) : Except TensorFault StepInputs := do
  let entries ← l.cursors.entries.mapM fun e => return (e.1, ← l.slice e.2)
  return .ofList entries

/-- **The inputs of the next step**, unless too few samples are left. -/
def next (l : Loader) : Option (Except TensorFault StepInputs) × Loader :=
  if l.samples < l.position + l.samplesPerStep then (none, l) else (some l.inputs, l.advance)

end Loader

end Microbatch
