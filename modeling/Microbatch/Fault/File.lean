set_option relaxedAutoImplicit false
set_option autoImplicit false

/-!
# Faults of files

## Main definitions

* `Microbatch.FileFault` — why a file operation fails, with its wording.
-/

namespace Microbatch

/-- **Why a file operation fails.** -/
inductive FileFault where
  /-- There is nothing at the path. -/
  | notFound
  /-- A directory is to be made where something is already. -/
  | alreadyExists
  /-- The path goes through a file. -/
  | notDirectory
  /-- The path names a directory. -/
  | isDirectory
  /-- The path, or a name on it, is too long. -/
  | nameTooLong
  /-- The path has a null character. -/
  | nullCharacter
  /-- The system gives another reason. -/
  | other (reason : String)
  deriving DecidableEq

/-- The wording of a fault. -/
def FileFault.message : FileFault → String
  | notFound => "No such file or directory (os error 2)"
  | alreadyExists => "File exists (os error 17)"
  | notDirectory => "Not a directory (os error 20)"
  | isDirectory => "Is a directory (os error 21)"
  | nameTooLong => "File name too long (os error 36)"
  | nullCharacter => "file name contained an unexpected NUL byte"
  | other reason => reason

end Microbatch
