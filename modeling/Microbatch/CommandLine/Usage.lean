import Microbatch.CommandLine.Arguments

set_option relaxedAutoImplicit false
set_option autoImplicit false

/-!
# Usage texts

## Main definitions

* `Microbatch.CommandLine.usage` — what the program offers.
* `Microbatch.CommandLine.UsageFault.explanation` — what is said when arguments are refused.
-/

namespace Microbatch.CommandLine

/-- **What the program offers.** -/
def usage : String := "\n".intercalate [
  "Step-wise graph execution and numerics tooling",
  "",
  "Usage: microbatch [--log LEVEL] COMMAND",
  "",
  "Commands:",
  "  build-demo  Write the demo two-layer model",
  "              [--out PATH] [--batch-size N]",
  "  run         Run steps of a model on synthetic data",
  "              [--model PATH] [--device cpu|sim:N|hw:N] [--batches-per-step N] [--steps N]",
  "              [--anchor NAME=ALL|SUM|FINAL]... [--input-shape NAME=D0,D1,...]...",
  "              [--train-on NAME] [--l1-lambda X] [--loss-reduction sum|mean]",
  "              [--learning-rate X] [--weight-decay X] [--check-numerics]",
  "              [--log-dir PATH] [--save PATH]",
  "  compare     Compare the weights of two models",
  "              LEFT RIGHT [--tolerance X]",
  "  report      Compare the weight updates of two training runs",
  "              A0 A1 B0 B1 [--tolerance X]",
  "  help        Show this text",
  ""]

/-- **What is said when arguments are refused.** -/
def UsageFault.explanation : UsageFault → String
  | help => usage
  | version => "microbatch 0.1.0\n"
  | nothing => usage
  | missingCommand => "error: a command is missing\n"
  | unknownCommand => "error: there is no such command\n"
  | unknownArgument => "error: there is an argument that the command does not take\n"
  | missingArgument => "error: an argument is missing\n"
  | invalidValue => "error: a value is missing or not allowed\n"
  | unreadable cause => s!"error: {cause.message}\n"
  | repeated => "error: an option may not be given twice\n"
  | unwantedValue => "error: a flag takes no value\n"

end Microbatch.CommandLine
