import Microbatch.Tensor.Info

set_option relaxedAutoImplicit false
set_option autoImplicit false

/-!
# Faults of configuration

## Main definitions

* `Microbatch.ConfigurationFault` — why a session cannot be set up as asked, with its wording.
-/

namespace Microbatch

/-- **Why a configuration is refused.** -/
inductive ConfigurationFault where
  /-- No element type has this name. -/
  | unknownElementType (text : String)
  /-- An input leaves a dimension open. -/
  | dynamicDimension (name : String)
  /-- A step needs at least one micro-batch. -/
  | noMicroBatches
  /-- Stacking makes the leading dimension too large. -/
  | stackTooLarge (leading microBatches : Nat)
  /-- The leading dimension of a summed anchor is no multiple of the number of micro-batches. -/
  | indivisibleSum (leading microBatches : Nat)
  /-- The element count of an anchor buffer is no size. -/
  | bufferTooLarge (shape : Shape)
  /-- A data flow needs at least one batch per step. -/
  | noBatches
  /-- The settings of a constant optimizer cannot be replaced. -/
  | constantOptimizer
  /-- An optimizer is replaced by one of its own mode only. -/
  | differentOptimizer
  /-- No device target is written like this. -/
  | unsupportedTarget (text : String)
  /-- An inference session without anchors returns nothing. -/
  | noAnchor
  /-- The backend has no training. -/
  | cannotTrain (backend : String)
  /-- The simulator cannot be split that far. -/
  | tooManyPartitions (backend : String) (most requested : Nat)
  /-- An inference session has no optimizer. -/
  | noOptimizer
  /-- Elements of this type cannot be added up. -/
  | unsummable (anchor : String) (elementType : ElementType)
  deriving DecidableEq

/-- The wording of a fault. -/
def ConfigurationFault.message : ConfigurationFault → String
  | unknownElementType text => s!"unknown element type `{text}`"
  | dynamicDimension name =>
    s!"input `{name}` has a dynamic dimension; supply it through InputShapeInfo"
  | noMicroBatches => "micro-batches per step must be at least 1"
  | stackTooLarge leading microBatches =>
    s!"ALL anchor leading dim {leading} overflows over {microBatches} micro-batches"
  | indivisibleSum leading microBatches =>
    s!"SUM anchor leading dim {leading} is not divisible by {microBatches} micro-batches"
  | bufferTooLarge shape => s!"anchor buffer {shape} has more elements than fit in memory"
  | noBatches => "batches per step must be at least 1"
  | constantOptimizer => "a constant SGD optimizer cannot be updated"
  | differentOptimizer => "replacement optimizer must be of the same kind"
  | unsupportedTarget text => s!"unsupported device: {text} (expected cpu, sim:N or hw:N)"
  | noAnchor => "an inference session needs at least one anchor"
  | cannotTrain backend => s!"backend `{backend}` cannot train"
  | tooManyPartitions backend most requested =>
    s!"backend `{backend}` supports at most {most} partitions, requested {requested}"
  | noOptimizer => "inference sessions have no optimizer"
  | unsummable anchor elementType =>
    s!"SUM anchor `{anchor}` is {elementType}; only FLOAT, INT32 and INT64 can be summed"

end Microbatch
