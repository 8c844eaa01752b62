import Microbatch.Files.Path
import Microbatch.Files.Store
import Microbatch.Session.Basic

set_option relaxedAutoImplicit false
set_option autoImplicit false

/-!
# Exporting models and releasing devices

## Main definitions

* `Microbatch.Session.exportModel` — the session's model with the device's weights.
* `Microbatch.Session.release` — detaches the device, and says what is to be saved on the way.
* `Microbatch.Session.writeModel`, `Microbatch.Session.close` — the same with files.
-/

namespace Microbatch.Session

variable {D : Type} [Device D]

/-- **The session's model with the device's weights** in place of its initializers. The host takes
the weights over. -/
def exportModel (s : Session D) : Except Fault Bytes × Session D :=
  match s.pullWeights with
  | (.error fault, s) => (.error fault, s)
  | (.ok (), s) =>
    match Exchange.mergeWeights s.graph.model s.weights with
    | .error cause => (.error (.model (.unreadable cause)), s)
    | .ok merged => (.ok merged.model, s)

/-- Where the model is saved when the device is released. -/
def Options.exportPath (options : Options) : Option String :=
  if options.exportOnRelease then options.logDirectory.map fun directory =>
    Path.join directory "model.onnx"
  else none

/-- A model that is to be saved. -/
structure Export where
  /-- Where it is saved. -/
  path : String
  /-- The serialized model. -/
  model : Bytes
  deriving DecidableEq

/-- The model that is to be saved on release, if one is asked for and can be made. -/
def releaseExport (s : Session D) : Option Export × Session D :=
  match s.options.exportPath with
  | none => (none, s)
  | some path =>
    match s.exportModel with
    | (.error _, s) => (none, s)
    | (.ok model, s) => (some ⟨path, model⟩, s)

/-- Detaches the device. -/
def detach (s : Session D) : Session D :=
  { s with device := Device.release s.device, acquired := false }

/-- **Detaches the device** if it is attached. A faulted session stays faulted and saves nothing. -/
def release (s : Session D) : Option Export × Session D :=
  if s.acquired = false then (none, s)
  else if s.state = .faulted then (none, s.detach)
  else
    let (saved, s) := s.releaseExport
    (saved, { s with state := .stopped }.detach)

section Files

variable {m : Type → Type} [Monad m] [FileStore m]

/-- **Writes the session's model** with the device's weights to a file. -/
def writeModel (path : String) (s : Session D) : m (Except Fault Unit × Session D) :=
  match s.exportModel with
  | (.error fault, s) => return (.error fault, s)
  | (.ok model, s) => do
    let written ← FileStore.save path model
    return (written.mapError .file, s)

/-- **Releases the session** and saves what is to be saved; a model that cannot be written is
lost. -/
def close (s : Session D) : m (Session D) :=
  match s.release with
  | (none, s) => return s
  | (some saved, s) => do
    let _ ← FileStore.save saved.path saved.model
    return s

end Files

end Microbatch.Session
