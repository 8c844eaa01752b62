import Microbatch.Bytes
import Microbatch.Fault.File

set_option relaxedAutoImplicit false
set_option autoImplicit false

/-!
# File stores

## Main definitions

* `Microbatch.FileStore` — monads in which there are files and directories.
-/

namespace Microbatch

/-- **Monads with files.** -/
class FileStore (m : Type → Type) where
  /-- The contents of a file. -/
  load : String → m (Except FileFault Bytes)
  /-- Makes a file, or replaces the contents of one. -/
  save : String → Bytes → m (Except FileFault Unit)
  /-- Makes a directory where nothing is yet, in a directory that is there. -/
  makeDirectory : String → m (Except FileFault Unit)
  /-- Whether a path leads to a directory. -/
  isDirectory : String → m Bool

end Microbatch
