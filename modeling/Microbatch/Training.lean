import Microbatch.Single

set_option relaxedAutoImplicit false
set_option autoImplicit false

/-!
# Losses, optimizers and kinds of session

## Main definitions

* `Microbatch.Loss` — the weighted sum or mean of absolute values of a tensor.
* `Microbatch.Optimizer` — stochastic gradient descent, fixed or replaceable.
* `Microbatch.Kind` — inference, or training with losses and an optimizer.
-/

namespace Microbatch

/-- How the absolute values of a tensor make one loss value. -/
inductive LossReduction where
  /-- They are added up. -/
  | sum
  /-- Their sum is divided by their number. -/
  | mean
  deriving DecidableEq, Inhabited

/-- **A loss**: the reduced absolute values of one tensor times a factor, written to another. -/
structure Loss where
  /-- The tensor that the loss reads. -/
  input : String
  /-- The scalar tensor that the loss writes. -/
  output : String
  /-- The factor. -/
  lambda : Single
  /-- How elements are reduced. -/
  reduction : LossReduction
  deriving DecidableEq, Inhabited

/-- Whether the settings of an optimizer may be replaced during a session. -/
inductive Optimizer.Mode where
  /-- They are fixed. -/
  | constant
  /-- They may be replaced between steps. -/
  | replaceable
  deriving DecidableEq, Inhabited

/-- **Stochastic gradient descent** with weight decay. -/
structure Optimizer where
  /-- Whether the settings may be replaced. -/
  mode : Optimizer.Mode
  /-- The learning rate. -/
  learningRate : Single
  /-- The weight decay. -/
  weightDecay : Single
  deriving DecidableEq, Inhabited

/-- **What a session is for.** -/
inductive Kind where
  /-- Values are computed and weights stay. -/
  | inference
  /-- Weights follow the gradient of the losses. -/
  | training (losses : List Loss) (optimizer : Optimizer)
  deriving DecidableEq, Inhabited

namespace Kind

/-- Whether weights are trained. -/
def isTraining : Kind → Bool
  | inference => false
  | training .. => true

/-- The losses of a training session. -/
def losses : Kind → List Loss
  | inference => []
  | training losses _ => losses

/-- The optimizer of a training session. -/
def optimizer? : Kind → Option Optimizer
  | inference => none
  | training _ optimizer => some optimizer

end Kind

end Microbatch
