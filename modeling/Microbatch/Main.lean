import Microbatch.CommandLine.Execution
import Microbatch.CommandLine.Usage

set_option relaxedAutoImplicit false
set_option autoImplicit false

/-!
# The program

Files are those of the system, results go to standard output, and events and failures to standard
error.

## Main definitions

* `Microbatch.CommandLine.Shell` — commands with the files and the console of the system.
* `main` — reads the arguments and executes the command.
-/

namespace Microbatch.CommandLine

/-- **Commands with the files and the console of the system**, at a log level. -/
abbrev Shell := ReaderT String IO

/-- The cause of a failed system call. -/
def fileFault : IO.Error → FileFault
  | .noFileOrDirectory .. => .notFound
  | .alreadyExists .. => .alreadyExists
  | .inappropriateType _ code _ => if code = 20 then .notDirectory else .isDirectory
  | .invalidArgument _ 36 _ => .nameTooLong
  | other => .other (toString other)

/-- A system call whose result says whether it failed. -/
def systemCall {α : Type} (call : IO α) : Shell (Except FileFault α) := do
  return (← call.toBaseIO).mapError fileFault

instance : FileStore Shell where
  load path := systemCall do return (← IO.FS.readBinFile path).toList
  save path content := systemCall (IO.FS.writeBinFile path ⟨content.toArray⟩)
  makeDirectory path := systemCall (IO.FS.createDir path)
  isDirectory path := do
    match ← (IO.FS.realPath path).toBaseIO with
    | .ok found => found.isDir
    | .error _ => return false

instance : Console Shell where
  print text := IO.print text
  report event := do
    if event.isShown (← read) then IO.eprintln event.render

/-- Executes a command; the exit status says whether it failed. -/
def execute (invocation : Invocation) : IO UInt32 := do
  match ← (invocation.command.execute : Shell _).run invocation.log with
  | .ok () => return 0
  | .error fault =>
    IO.eprintln s!"Error: {fault.message}"
    return 1

/-- Explains why arguments are refused; help and the version are results. -/
def refuse (fault : UsageFault) : IO UInt32 := do
  if fault.exitCode = 0 then IO.print fault.explanation else IO.eprint fault.explanation
  return UInt32.ofNat fault.exitCode

end Microbatch.CommandLine

/-- **The program.** -/
def main (arguments : List String) : IO UInt32 :=
  match Microbatch.CommandLine.Invocation.ofArguments arguments with
  | .ok invocation => Microbatch.CommandLine.execute invocation
  | .error fault => Microbatch.CommandLine.refuse fault
