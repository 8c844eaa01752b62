import Microbatch.Accuracy.RelativeError
import Microbatch.Exchange.Demo
import Microbatch.Exchange.Load
import Microbatch.Session.Loader
import Microbatch.Session.Worker

set_option relaxedAutoImplicit false
set_option autoImplicit false

/-!
# Faults of commands

## Main definitions

* `Microbatch.CommandLine.CommandFault` — why a command fails, with its wording.
* `Microbatch.CommandLine.CommandFault.ofLoad`, `Microbatch.CommandLine.CommandFault.ofWorker` —
  what stands behind the faults of loading and of steps.
-/

namespace Microbatch.CommandLine

open Exchange (LoadFault)
open Exchange.Demo (SyntheticFault)

/-- **Why a command fails.** -/
inductive CommandFault where
  /-- A session, or what it is built from, fails. -/
  | session (cause : Fault)
  /-- The model of a run cannot be loaded. -/
  | load (cause : LoadFault)
  /-- No data can be made up for an input. -/
  | synthetic (cause : SyntheticFault)
  /-- No input has samples. -/
  | noBatch
  /-- The data cannot be cut into steps. -/
  | loader (cause : LoaderFault)
  /-- The data of one step cannot be cut out. -/
  | slice (cause : TensorFault)
  /-- A step has no answer. -/
  | worker (cause : WorkerFault)
  /-- The comparison of weights fails. -/
  | accuracy (cause : Accuracy.Fault Float)
  /-- The export directory cannot be made. -/
  | logDirectory (cause : FileFault)
  /-- The directory of an output cannot be made. -/
  | create (path : String) (cause : FileFault)
  /-- An output cannot be written. -/
  | write (path : String) (cause : FileFault)
  /-- A file cannot be read. -/
  | read (path : String) (cause : FileFault)
  /-- A file is no model with weights. -/
  | decode (path : String) (cause : ReadFault)
  deriving DecidableEq

namespace CommandFault

/-- The wording of a fault. Behind the fault of a file stands once more what the system said. -/
def message : CommandFault → String
  | session (.file cause) => s!"{(Fault.file cause).message}: {cause.message}"
  | session cause => cause.message
  | load cause => cause.message
  | synthetic cause => cause.message
  | noBatch => "model has no batched input to feed"
  | loader cause => cause.message
  | slice cause => cause.message
  | worker cause => cause.message
  | accuracy cause => cause.message
  | logDirectory cause => cause.message
  | create path cause => s!"creating {path}: {cause.message}"
  | write path cause => s!"writing {path}: {cause.message}"
  | read path cause => s!"reading {path}: {cause.message}"
  | decode path cause => s!"decoding {path}: {cause.message}"

/-- The fault behind a failure to load a model. -/
def ofLoad : LoadFault → CommandFault
  | .refused cause => session cause
  | cause => load cause

/-- The fault behind a failure of a step. -/
def ofWorker : WorkerFault → CommandFault
  | .step cause => session cause
  | cause => worker cause

end CommandFault

end Microbatch.CommandLine
