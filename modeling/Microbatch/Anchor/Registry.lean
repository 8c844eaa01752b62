import Microbatch.Anchor.Layout
import Microbatch.Fault.Basic
import Microbatch.NameMap

set_option relaxedAutoImplicit false
set_option autoImplicit false

/-!
# Registered anchors

A registry holds the anchors of a session in the order in which they were registered, each with the
description that the graph gives to its tensor.

## Main definitions

* `Microbatch.Registry` — the available tensors and the registered anchors.
* `Microbatch.Registry.register` — registers an available tensor once.
* `Microbatch.Registry.layouts` — the buffer layouts, in registration order.
-/

namespace Microbatch

/-- What the name of a gradient adds in front of the name of its tensor. -/
def gradientMark : List Char := ['d', '_', '_']

/-- The name of the gradient of a tensor. -/
def gradientName (tensor : String) : String := String.ofList (gradientMark ++ tensor.toList)

/-- The tensor whose gradient has a name. -/
def gradientOf? (name : String) : Option String :=
  match name.toList with
  | 'd' :: '_' :: '_' :: rest => some (String.ofList rest)
  | _ => none

@[simp] theorem gradientOf?_gradientName (tensor : String) :
    gradientOf? (gradientName tensor) = some tensor := by
  simp [gradientOf?, gradientName, gradientMark]

/-- A registered anchor with the description of its tensor. -/
structure RegisteredAnchor extends Anchor where
  /-- The description of the tensor's value in one micro-batch. -/
  info : TensorInfo
  deriving DecidableEq, Inhabited

/-- The layout of an anchor for a number of micro-batches per step. -/
def RegisteredAnchor.layout (a : RegisteredAnchor) (microBatches : Nat) :
    Except ConfigurationFault Layout := do
  let shape ← a.policy.bufferShape a.info.shape microBatches
  return ⟨a.name, a.policy, a.info, ⟨a.info.elementType, shape⟩⟩

/-- **The anchors of a session**, checked against the tensors that the graph produces. -/
structure Registry where
  /-- The tensors that can be anchored. -/
  available : NameMap TensorInfo
  /-- The anchors in registration order. -/
  anchors : List RegisteredAnchor

namespace Registry

/-- The registry without anchors. -/
def ofAvailable (available : NameMap TensorInfo) : Registry := ⟨available, []⟩

/-- The anchor of a tensor, if it is registered. -/
def find? (r : Registry) (name : String) : Option RegisteredAnchor :=
  r.anchors.find? (fun a => a.name == name)

/-- What helps with a name that is not available. -/
def hint? (r : Registry) (name : String) : Option Hint :=
  (gradientOf? name).bind fun tensor =>
    if r.available.contains tensor then some (.noGradient tensor) else none

/-- **Registers an anchor.** A name is registered once, and only if it is available. -/
def register (r : Registry) (name : String) (policy : Policy) : Except Fault Registry :=
  if (r.find? name).isSome then .error (.duplicateAnchor name)
  else
    match r.available.find? name with
    | some info => .ok { r with anchors := r.anchors ++ [⟨⟨name, policy⟩, info⟩] }
    | none => .error (.unknownTensor name (r.hint? name))

/-- Registers anchors in order. -/
def registerAll (r : Registry) (anchors : List Anchor) : Except Fault Registry :=
  anchors.foldlM (fun r a => r.register a.name a.policy) r

/-- The registered names in order. -/
def names (r : Registry) : List String := r.anchors.map (·.name)

/-- **The buffer layouts** in registration order. -/
def layouts (r : Registry) (microBatches : Nat) : Except ConfigurationFault (List Layout) :=
  r.anchors.mapM (fun a => a.layout microBatches)

end Registry

end Microbatch
