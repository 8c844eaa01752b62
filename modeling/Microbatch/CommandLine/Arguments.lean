import Microbatch.CommandLine.Grammar

set_option relaxedAutoImplicit false
set_option autoImplicit false

/-!
# Commands and their arguments

## Main definitions

* `Microbatch.CommandLine.Command` — the four commands with their arguments.
* `Microbatch.CommandLine.Invocation` — a command with a log level.
* `Microbatch.CommandLine.Invocation.ofArguments` — reads an invocation.
-/

namespace Microbatch.CommandLine

/-- The model that commands use unless told otherwise. -/
def defaultModel : String := "models/demo.onnx"

/-- The log level unless told otherwise. -/
def defaultLog : String := "info"

/-- **The arguments of a run.** -/
structure RunArguments where
  /-- The model file. -/
  model : String := defaultModel
  /-- The device target, in writing. -/
  device : String := "cpu"
  /-- The micro-batches of a step. -/
  batchesPerStep : Nat := 1
  /-- The number of steps. -/
  steps : Nat := 1
  /-- The anchors. -/
  anchors : List Anchor := []
  /-- The shapes of inputs. -/
  inputShapes : List (String × List Nat) := []
  /-- The tensor whose absolute values are the loss of a training run. -/
  trainOn : Option String := none
  /-- The factor of the loss; one tenth. -/
  lambda : Single := ⟨0x3dcccccd⟩
  /-- How the loss is reduced. -/
  lossReduction : LossReduction := .sum
  /-- The learning rate; one hundredth. -/
  learningRate : Single := ⟨0x3c23d70a⟩
  /-- The weight decay. -/
  weightDecay : Single := .zero
  /-- Whether anchors must stay finite. -/
  checkNumerics : Bool := false
  /-- Where the trained model is exported. -/
  logDirectory : Option String := none
  /-- Where the model is written at the end. -/
  save : Option String := none
  deriving DecidableEq

/-- **A command with its arguments.** -/
inductive Command where
  /-- Writes the demonstration model. -/
  | buildDemo (out : String) (batchSize : Nat)
  /-- Runs steps of a model on synthetic data. -/
  | run (arguments : RunArguments)
  /-- Compares the weights of two models. -/
  | compare (left right : String) (tolerance : Float)
  /-- Compares the weight updates of two training runs. -/
  | report (a₀ a₁ b₀ b₁ : String) (tolerance : Option Float)
  deriving DecidableEq

/-- A command being read, with the log level if one is given. -/
structure Draft (α : Type) where
  /-- The command. -/
  command : α
  /-- The log level. -/
  log : Option String := none

/-- **An invocation**: a command and a log level. -/
structure Invocation where
  /-- The log level. -/
  log : String
  /-- The command. -/
  command : Command
  deriving DecidableEq

/-! ### Taking values -/

/-- A value that may be unreadable. -/
def readable {α : Type} (value : Except ValueFault α) : Except UsageFault α :=
  value.mapError .unreadable

/-- A path; it may not be empty. -/
def readPath (text : String) : Except UsageFault String :=
  if text = "" then .error .invalidValue else .ok text

/-- A reduction of losses. -/
def readReduction (text : String) : Except UsageFault LossReduction :=
  if text = "sum" then .ok .sum
  else if text = "mean" then .ok .mean
  else .error .invalidValue

/-- Adds the log level, which every command takes, to what a command takes. -/
def withLog {α : Type} (assign : String → String → α → Except UsageFault α) (name value : String)
    (draft : Draft α) : Except UsageFault (Draft α) :=
  if name = "log" then .ok { draft with log := some value }
  else (assign name value draft.command).map fun command => { draft with command := command }

/-! ### The four commands -/

/-- The arguments of the command that writes the demonstration model. -/
structure BuildArguments where
  /-- Where the model is written. -/
  out : String := defaultModel
  /-- The samples of a micro-batch. -/
  batchSize : Nat := 4

/-- What writes the demonstration model. -/
def buildGrammar : Grammar (Draft BuildArguments) where
  options := ["log", "out", "batch-size"]
  assign := withLog fun name value a =>
    match name with
    | "out" => return { a with out := ← readPath value }
    | "batch-size" => return { a with batchSize := ← readable (readSize value) }
    | _ => .error .unknownArgument

/-- What runs a model. -/
def runGrammar : Grammar (Draft RunArguments) where
  options := ["log", "model", "device", "batches-per-step", "steps", "train-on", "l1-lambda",
    "loss-reduction", "learning-rate", "weight-decay", "log-dir", "save"]
  repeatable := ["anchor", "input-shape"]
  flags := ["check-numerics"]
  raise _ draft := { draft with command := { draft.command with checkNumerics := true } }
  assign := withLog fun name value a =>
    match name with
    | "model" => return { a with model := ← readPath value }
    | "device" => .ok { a with device := value }
    | "batches-per-step" => return { a with batchesPerStep := ← readable (readSize value) }
    | "steps" => return { a with steps := ← readable (readSize value) }
    | "anchor" => return { a with anchors := a.anchors ++ [← readable (readAnchor value)] }
    | "input-shape" =>
      return { a with inputShapes := a.inputShapes ++ [← readable (readShape value)] }
    | "train-on" => .ok { a with trainOn := some value }
    | "l1-lambda" => return { a with lambda := ← readable (readSingle value) }
    | "loss-reduction" => return { a with lossReduction := ← readReduction value }
    | "learning-rate" => return { a with learningRate := ← readable (readSingle value) }
    | "weight-decay" => return { a with weightDecay := ← readable (readSingle value) }
    | "log-dir" => return { a with logDirectory := some (← readPath value) }
    | "save" => return { a with save := some (← readPath value) }
    | _ => .error .unknownArgument

/-- The arguments of the command that compares two models. -/
structure CompareArguments where
  /-- One model. -/
  left : String := ""
  /-- The other model. -/
  right : String := ""
  /-- The largest error that passes; one millionth. -/
  tolerance : Float := Float.ofBits 0x3eb0c6f7a0b5ed8d

/-- What compares two models. -/
def compareGrammar : Grammar (Draft CompareArguments) where
  options := ["log", "tolerance"]
  positionals := ["left", "right"]
  assign := withLog fun name value a =>
    match name with
    | "left" => return { a with left := ← readPath value }
    | "right" => return { a with right := ← readPath value }
    | "tolerance" => return { a with tolerance := ← readable (readDouble value) }
    | _ => .error .unknownArgument

/-- The arguments of the command that compares two training runs. -/
structure ReportArguments where
  /-- One run before. -/
  a₀ : String := ""
  /-- One run after. -/
  a₁ : String := ""
  /-- The other run before. -/
  b₀ : String := ""
  /-- The other run after. -/
  b₁ : String := ""
  /-- The largest error that passes, if there is one. -/
  tolerance : Option Float := none

/-- What compares two training runs. -/
def reportGrammar : Grammar (Draft ReportArguments) where
  options := ["log", "tolerance"]
  positionals := ["a0", "a1", "b0", "b1"]
  assign := withLog fun name value a =>
    match name with
    | "a0" => return { a with a₀ := ← readPath value }
    | "a1" => return { a with a₁ := ← readPath value }
    | "b0" => return { a with b₀ := ← readPath value }
    | "b1" => return { a with b₁ := ← readPath value }
    | "tolerance" => return { a with tolerance := some (← readable (readDouble value)) }
    | _ => .error .unknownArgument

/-! ### Invocations -/

/-- **The names in the place of a command.** -/
inductive CommandName where
  /-- Writes the demonstration model. -/
  | buildDemo
  /-- Runs a model. -/
  | run
  /-- Compares two models. -/
  | compare
  /-- Compares two training runs. -/
  | report
  /-- Explains a command. -/
  | help
  deriving DecidableEq

/-- The command with a name. -/
def CommandName.ofText? (text : String) : Option CommandName :=
  match text with
  | "build-demo" => some buildDemo
  | "run" => some run
  | "compare" => some compare
  | "report" => some report
  | "help" => some help
  | _ => none

/-- What may stand before a command. A command name after two hyphens is out of place. -/
def topGrammar : Grammar (Option String) where
  options := ["log"]
  hasVersion := true
  stray escaped text :=
    if escaped ∧ (CommandName.ofText? text).isSome then .unknownArgument else .unknownCommand
  assign _ value _ := .ok (some value)

/-- The answer to a request for help on commands. -/
def helpOn : List String → UsageFault
  | [] => .help
  | [name] => if (CommandName.ofText? name).isSome then .help else .unknownCommand
  | _ => .unknownCommand

/-- Reads the arguments of a command. -/
def readCommand (name : CommandName) (arguments : List String) :
    Except UsageFault (Draft Command) := do
  match name with
  | .buildDemo =>
    let d ← buildGrammar.parse { command := {} } arguments
    return { command := .buildDemo d.command.out d.command.batchSize, log := d.log }
  | .run =>
    let d ← runGrammar.parse { command := {} } arguments
    return { command := .run d.command, log := d.log }
  | .compare =>
    let d ← compareGrammar.parse { command := {} } arguments
    return { command := .compare d.command.left d.command.right d.command.tolerance, log := d.log }
  | .report =>
    let d ← reportGrammar.parse { command := {} } arguments
    let a := d.command
    return { command := .report a.a₀ a.a₁ a.b₀ a.b₁ a.tolerance, log := d.log }
  | .help => .error (helpOn arguments)

/-- Reads what stands before a command, the command, and its arguments. What the command's arguments
lack is reported before what stands before it. -/
def readInvocation (p : Progress (Option String)) :
    List String → Except UsageFault Invocation
  | [] => do
    let p ← topGrammar.settle p
    if p.isEmpty then .error .nothing else .error .missingCommand
  | text :: rest => do
    match CommandName.ofText? text with
    | some name =>
      if p.escaped || p.awaitsValue then readInvocation (← topGrammar.read p text) rest
      else
        let draft ← readCommand name rest
        let p ← topGrammar.settle p
        return { log := (draft.log <|> p.result).getD defaultLog, command := draft.command }
    | none => readInvocation (← topGrammar.read p text) rest

/-- **Reads an invocation.** A log level given to the command counts before one given ahead of
it. -/
def Invocation.ofArguments (arguments : List String) : Except UsageFault Invocation :=
  readInvocation (topGrammar.start none) arguments

end Microbatch.CommandLine
