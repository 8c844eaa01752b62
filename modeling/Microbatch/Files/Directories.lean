import Microbatch.Files.Path
import Microbatch.Files.Store

set_option relaxedAutoImplicit false
set_option autoImplicit false

/-!
# Directories with what leads to them

A directory can only be made inside one that is there. Where that one is missing it is made first,
and so on outwards. What has been made stays when a later step fails.

## Main definitions

* `Microbatch.FileStore.makeOrFind` — makes a directory unless it is there.
* `Microbatch.FileStore.createDirectories` — makes a directory and those that lead to it.
-/

namespace Microbatch.FileStore

variable {m : Type → Type} [Monad m] [FileStore m]

/-- **Makes a directory** unless it is there. -/
def makeOrFind (path : String) : m (Except FileFault Unit) := do
  match ← makeDirectory path with
  | .ok () => return .ok ()
  | .error fault => return if ← isDirectory path then .ok () else .error fault

/-- Makes a directory whose path is given in reverse. Where there is no place for it, its parent is
made first. The empty path is the working directory, which is there. -/
def createReversed (reversed : List Char) : m (Except FileFault Unit) :=
  if reversed = [] then return .ok ()
  else do
    let path := String.ofList reversed.reverse
    match ← makeOrFind path with
    | .error .notFound =>
      match _h : Path.outer? reversed with
      | none => makeOrFind path
      | some outer =>
        match ← createReversed outer with
        | .ok () => makeOrFind path
        | .error fault => return .error fault
    | result => return result
  termination_by reversed.length
  decreasing_by exact Path.length_outer?_lt ‹_›

/-- **Makes a directory and those that lead to it**, where they are missing. -/
def createDirectories (path : String) : m (Except FileFault Unit) :=
  createReversed path.toList.reverse

end Microbatch.FileStore
