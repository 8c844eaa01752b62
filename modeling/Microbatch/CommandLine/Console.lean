import Microbatch.Decimal.Fixed
import Microbatch.Scalar
import Microbatch.Tensor.Basic

set_option relaxedAutoImplicit false
set_option autoImplicit false

/-!
# What commands report

A command prints its results. Beside that it reports events, each with a message and named fields.

## Main definitions

* `Microbatch.CommandLine.Event` — what can be reported, with its message and its fields.
* `Microbatch.CommandLine.summarize` — one line on the value of an anchor.
* `Microbatch.CommandLine.Console` — monads in which results are printed and events reported.
-/

namespace Microbatch.CommandLine

/-- **What a command reports.** -/
inductive Event where
  /-- The demonstration model is written. -/
  | demoWritten (path : String) (size batchSize : Nat)
  /-- A step is completed; reported for each of its anchors. -/
  | anchor (step : Nat) (name : String) (value : Tensor)
  /-- Two models have no weight in common. -/
  | nothingShared
  deriving DecidableEq

/-- How much an event matters. -/
inductive Event.Level where
  /-- It belongs to the normal course of things. -/
  | info
  /-- It may be a mistake. -/
  | warning
  deriving DecidableEq

/-- The mean of a list of numbers; of no numbers, that of their sum. -/
def mean (xs : List Single) : Single := (Scalar.sum xs).div (.ofNat (max 1 xs.length))

/-- **One line on the value of an anchor**: the mean of its numbers with six places, or the size of
a payload that holds no numbers. -/
def summarize (value : Tensor) : String :=
  match value.toSingles with
  | .ok xs => "mean " ++ Decimal.Fixed.render 6 (mean xs)
  | .error _ => s!"{value.payload.length} bytes"

namespace Event

/-- How much the event matters. -/
def level : Event → Level
  | demoWritten .. => .info
  | anchor .. => .info
  | nothingShared => .warning

/-- Whether an event is shown at a log level, given as a word; at any other word nothing is
shown. -/
def isShown (log : String) (event : Event) : Bool :=
  match log, event.level with
  | "trace", _ => true
  | "debug", _ => true
  | "info", _ => true
  | "warn", .warning => true
  | _, _ => false

/-- The message of an event. -/
def message : Event → String
  | demoWritten .. => "demo model written"
  | anchor _ _ value => summarize value
  | nothingShared => "models share no weights"

/-- The named fields of an event. -/
def fields : Event → List (String × String)
  | demoWritten path size batchSize =>
    [("path", path), ("bytes", toString size), ("batch_size", toString batchSize)]
  | anchor step name value =>
    [("step", toString step), ("anchor", name), ("shape", value.info.shape.render)]
  | nothingShared => []

end Event

/-- An event as a line of text. -/
def Event.render (event : Event) : String :=
  let level := if event.level = .warning then "WARN" else "INFO"
  String.join ((level ++ " " ++ event.message) :: event.fields.map fun f => s!" {f.1}={f.2}")

/-- **Monads with a console.** -/
class Console (m : Type → Type) where
  /-- Prints text as it is. -/
  print : String → m Unit
  /-- Reports an event. -/
  report : Event → m Unit

end Microbatch.CommandLine
