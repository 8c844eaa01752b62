import Microbatch.Accuracy.Comparison
import Microbatch.Accuracy.Report
import Microbatch.CommandLine.Console
import Microbatch.CommandLine.Fault
import Microbatch.Files.Directories

set_option relaxedAutoImplicit false
set_option autoImplicit false

/-!
# Commands on model files

## Main definitions

* `Microbatch.CommandLine.writeDemo` — writes the demonstration model.
* `Microbatch.CommandLine.compareModels` — prints how far the weights of two models are apart.
* `Microbatch.CommandLine.reportUpdates` — prints how far the weight updates of two training runs
  are apart.
-/

namespace Microbatch.CommandLine

variable {m : Type → Type} [Monad m]

/-- **Commands**, which may fail, in a monad. -/
abbrev CommandT (m : Type → Type) (α : Type) := ExceptT CommandFault m α

/-- An operation whose result says whether it failed, as a step of a command. -/
def attempt {ε α : Type} (fault : ε → CommandFault) (operation : m (Except ε α)) : CommandT m α :=
  ExceptT.mk do return (← operation).mapError fault

/-- A result that says whether it failed, as a step of a command. -/
def expect {ε α : Type} (fault : ε → CommandFault) (result : Except ε α) : CommandT m α :=
  ExceptT.mk (return result.mapError fault)

variable [FileStore m]

/-- The contents of a file. -/
def readModel (path : String) : CommandT m Bytes := attempt (.read path) (FileStore.load path)

/-- The weights of a model file. -/
def readModelWeights (path : String) : CommandT m WeightStore := do
  let model ← readModel path
  expect (.decode path) (Exchange.readWeights model)

/-- Makes the directory that a path leads to, unless it is the working directory. -/
def createParent (path : String) : CommandT m Unit :=
  match Path.parent? path with
  | none => return
  | some directory =>
    if directory = "" then return
    else attempt (.create directory) (FileStore.createDirectories directory)

variable [Console m]

/-- Reports an event. -/
def report (event : Event) : CommandT m Unit := ExceptT.lift (Console.report event)

/-- Prints lines. -/
def printLines (lines : List String) : CommandT m Unit :=
  ExceptT.lift (Console.print (String.join (lines.map (· ++ "\n"))))

/-- **Writes the demonstration model**, and makes the directory for it. -/
def writeDemo (out : String) (batchSize : Nat) : CommandT m Unit := do
  createParent out
  let model := Exchange.Demo.encode batchSize
  attempt (.write out) (FileStore.save out model)
  report (.demoWritten out model.length batchSize)

/-- One error as a line of text. -/
def errorLine (e : String × Float) : String := s!"{e.1} : {Decimal.Shortest.render e.2}"

/-- **Compares the weights of two models.** The errors are printed when all are within the
tolerance. -/
def compareModels (left right : String) (tolerance : Float) : CommandT m Unit := do
  let a ← readModelWeights left
  let b ← readModelWeights right
  let errors ← expect .accuracy (Accuracy.compare a b tolerance)
  if errors = [] then report .nothingShared
  printLines (errors.map errorLine)

/-- **Compares the weight updates of two training runs**: one goes from the first model to the
second, the other from the third to the fourth. The report is printed before errors are held against
the tolerance. -/
def reportUpdates (a₀ a₁ b₀ b₁ : String) (tolerance : Option Float) : CommandT m Unit := do
  let a₀ ← readModel a₀
  let a₁ ← readModel a₁
  let b₀ ← readModel b₀
  let b₁ ← readModel b₁
  let updates ← expect .accuracy (Accuracy.Report.ofModels a₀ a₁ b₀ b₁)
  ExceptT.lift (Console.print updates.render)
  printLines [errorLine ("total", updates.total)]
  match tolerance with
  | none => return
  | some tolerance => expect .accuracy (updates.checkWithin tolerance)

end Microbatch.CommandLine
