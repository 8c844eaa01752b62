import Microbatch.Anchor.Layout
import Microbatch.Fault.Basic
import Microbatch.Folding
import Microbatch.NameMap

set_option relaxedAutoImplicit false
set_option autoImplicit false

/-!
# Inputs of a step

For every graph input, a step brings the data of all its micro-batches along the outer dimension:
flat, or with a step dimension in front. Either way the micro-batches lie one after the other.

## Main definitions

* `Microbatch.StepInputs` — named tensors.
* `Microbatch.Stream` — a checked input, ready to be cut into micro-batches.
* `Microbatch.StepInputs.streams` — checks the inputs of a step.
* `Microbatch.Stream.feeds` — cuts checked inputs into micro-batches.
-/

namespace Microbatch

/-- **The data of one step**, by graph input. -/
abbrev StepInputs := NameMap Tensor

/-- **A checked step input.** -/
structure Stream where
  /-- The graph input. -/
  name : String
  /-- The data of all micro-batches. -/
  tensor : Tensor
  /-- The description of one micro-batch. -/
  microBatch : TensorInfo
  deriving DecidableEq, Inhabited

/-- **The parts of a stream** that belong to the micro-batches, in order. -/
def Stream.parts (s : Stream) (microBatches : Nat) : List Tensor :=
  (rows microBatches s.microBatch.byteCount s.tensor.payload).map fun part => ⟨s.microBatch, part⟩

/-- **What the micro-batches are fed**, in order: each one its part of every stream. -/
def Stream.feeds (streams : List Stream) (microBatches : Nat) : List (List (String × Tensor)) :=
  columns microBatches (streams.map fun s => (s.parts microBatches).map fun t => (s.name, t))

/-- The flat layout of an input: the micro-batches stacked. -/
def TensorInfo.flat (microBatch : TensorInfo) (microBatches : Nat) :
    Except ConfigurationFault TensorInfo := do
  return ⟨microBatch.elementType, ← Policy.all.bufferShape microBatch.shape microBatches⟩

/-- The layout of an input with a step dimension in front. -/
def TensorInfo.stepped (microBatch : TensorInfo) (microBatches : Nat) : TensorInfo :=
  ⟨microBatch.elementType, microBatch.shape.withOuter microBatches⟩

namespace StepInputs

/-- Checks the tensor of one input: it has one of the two layouts and a payload of that size. -/
def checkLayout (name : String) (microBatch : TensorInfo) (microBatches : Nat) (t : Tensor) :
    Except Fault Unit :=
  match microBatch.flat microBatches with
  | .error cause => .error (.configuration cause)
  | .ok flat =>
    let stepped := microBatch.stepped microBatches
    if t.info = flat ∨ t.info = stepped then
      (t.info.validate name t).mapError .mismatch
    else .error (.mismatch (.layout name flat stepped t.info))

/-- The stream of one graph input. -/
def stream (inputs : StepInputs) (microBatches : Nat) (name : String) (microBatch : TensorInfo) :
    Except Fault Stream :=
  match inputs.find? name with
  | none => .error (.missingInput name)
  | some t => (checkLayout name microBatch microBatches t).map fun _ => ⟨name, t, microBatch⟩

/-- **Checks the inputs of a step** against what a graph expects per micro-batch. Every name must be
a graph input, and every graph input must be there. -/
def streams (inputs : StepInputs) (expected : NameMap TensorInfo) (microBatches : Nat) :
    Except Fault (List Stream) :=
  match inputs.names.find? fun name => !expected.contains name with
  | some name => .error (.unknownTensor name (some .notInput))
  | none => expected.entries.mapM fun e => inputs.stream microBatches e.1 e.2

end StepInputs

end Microbatch
