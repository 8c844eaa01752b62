import Microbatch.CommandLine.Run

set_option relaxedAutoImplicit false
set_option autoImplicit false

/-!
# Executing commands

## Main definitions

* `Microbatch.CommandLine.Command.execute` — what a command does to files and console.
-/

namespace Microbatch.CommandLine

variable {m : Type → Type} [Monad m] [FileStore m] [Console m]

/-- **Executes a command.** -/
def Command.execute : Command → m (Except CommandFault Unit)
  | buildDemo out batchSize => (writeDemo out batchSize).run
  | run arguments => (CommandLine.run arguments).run
  | compare left right tolerance => (compareModels left right tolerance).run
  | report a₀ a₁ b₀ b₁ tolerance => (reportUpdates a₀ a₁ b₀ b₁ tolerance).run

end Microbatch.CommandLine
