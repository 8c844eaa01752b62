import Microbatch.Weights

set_option relaxedAutoImplicit false
set_option autoImplicit false

/-!
# Graphs

## Main definitions

* `Microbatch.Declaration` — a tensor as a model declares it, some dimensions left open.
* `Microbatch.Graph` — a model's bytes with its streamed inputs and its initial weights.
* `Microbatch.Signature` — the tensors that go into a compiled graph and that can come out of it.
-/

namespace Microbatch

/-- **A declared tensor.** An open dimension has no value. -/
structure Declaration where
  /-- The tensor. -/
  name : String
  /-- Its element type. -/
  elementType : ElementType
  /-- Its dimensions. -/
  dims : List (Option Nat)
  deriving DecidableEq, Inhabited

/-- The description that a declaration gives, if it leaves no dimension open. -/
def Declaration.resolve (d : Declaration) : Except ConfigurationFault TensorInfo :=
  match d.dims.mapM id with
  | some dims => .ok ⟨d.elementType, ⟨dims⟩⟩
  | none => .error (.dynamicDimension d.name)

/-- **A graph**: the serialized model, the descriptions of its streamed inputs and its weights. -/
structure Graph where
  /-- The serialized model. -/
  model : Bytes
  /-- The streamed inputs. -/
  inputs : NameMap TensorInfo
  /-- The initial weights. -/
  weights : WeightStore

/-- **What a compiled graph takes and gives**, described per micro-batch. -/
structure Signature where
  /-- The streamed inputs. -/
  inputs : NameMap TensorInfo
  /-- Every tensor that can be anchored. -/
  outputs : NameMap TensorInfo

end Microbatch
