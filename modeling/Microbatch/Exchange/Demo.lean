import Microbatch.Exchange.Builder

set_option relaxedAutoImplicit false
set_option autoImplicit false

/-!
# A demonstration model and synthetic data

## Main definitions

* `Microbatch.Exchange.Demo.pattern` — numbers in `[-0.5, 0.5)` that look irregular.
* `Microbatch.Exchange.Demo.builder` — a model of two dense layers.
* `Microbatch.Exchange.Demo.syntheticInput` — rows of data for an input.
-/

namespace Microbatch.Exchange.Demo

/-- The number 17. -/
def seventeen : Single := ⟨0x41880000⟩

/-- The number 1/2. -/
def half : Single := ⟨0x3f000000⟩

/-- The number nearest to 1/10. -/
def tenth : Single := ⟨0x3dcccccd⟩

/-- **Numbers that look irregular**: seventeenths below one, less a half. -/
def pattern (length salt : Nat) : List Single :=
  (List.range length).map fun i =>
    ((Single.ofNat ((i * 7 + salt * 13 + 3) % 17)).div seventeen).sub half

/-- The width of an input row. -/
def features : Nat := 4

/-- The width of the inner layer. -/
def hidden : Nat := 8

/-- The width of an output row. -/
def classes : Nat := 2

/-- The calls that build the model: a dense layer, cut off below zero, and a second matrix. -/
def calls (batchSize : Nat) : List Builder.Call :=
  [.input "x" (.float32 [batchSize, features]),
    .weight "w1" (.ofSingles ⟨[features, hidden]⟩ (pattern (features * hidden) 1)),
    .weight "b1" (.ofSingles ⟨[hidden]⟩ (List.replicate hidden tenth)),
    .weight "w2" (.ofSingles ⟨[hidden, classes]⟩ (pattern (hidden * classes) 2)),
    .matmul "x" "w1", .add "MatMul:0" "b1", .relu "Add:1", .matmul "Relu:2" "w2",
    .output "MatMul:3"]

/-- **The demonstration model**, for a number of samples per micro-batch. -/
def builder (batchSize : Nat) : Builder := ((Builder.named "demo").performAll (calls batchSize)).2

/-- The demonstration model as bytes. -/
def encode (batchSize : Nat) : Bytes := (builder batchSize).encode

/-- **Why there is no synthetic data.** -/
inductive SyntheticFault where
  /-- Only numbers are generated. -/
  | notFloat (info : TensorInfo)
  /-- A scalar has no rows. -/
  | scalar
  deriving DecidableEq

/-- The wording of a fault. -/
def SyntheticFault.message : SyntheticFault → String
  | notFloat info => s!"synthetic data is only generated for FLOAT inputs, got {info}"
  | scalar => "scalar inputs have no sample axis"

/-- **Rows of data** for an input, shaped like a micro-batch but for their number. -/
def syntheticInput (microBatch : TensorInfo) (samples salt : Nat) :
    Except SyntheticFault Tensor :=
  if microBatch.elementType ≠ .float32 then .error (.notFloat microBatch)
  else if microBatch.shape.rank = 0 then .error .scalar
  else
    let shape := microBatch.shape.withLeading samples
    .ok (.ofSingles shape (pattern shape.count salt))

end Microbatch.Exchange.Demo
