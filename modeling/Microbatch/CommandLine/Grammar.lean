import Microbatch.CommandLine.Values

set_option relaxedAutoImplicit false
set_option autoImplicit false

/-!
# Option grammars

Arguments are read from left to right. An option may bring its value with it, after an equals sign,
or take the next argument. Such a value is looked at only when something else begins or the
arguments end, so that an argument which is not known is reported before a value that cannot be
read.

## Main definitions

* `Microbatch.CommandLine.UsageFault` — why arguments are refused; asking for help is one of them.
* `Microbatch.CommandLine.Token` — what an argument looks like.
* `Microbatch.CommandLine.Grammar` — the options, flags and positional arguments of a command.
* `Microbatch.CommandLine.Grammar.parse` — reads the arguments of a command.
-/

namespace Microbatch.CommandLine

/-- **Why arguments are refused.** -/
inductive UsageFault where
  /-- Help is asked for. -/
  | help
  /-- The version is asked for. -/
  | version
  /-- There are no arguments at all. -/
  | nothing
  /-- There is no command. -/
  | missingCommand
  /-- No command has this name. -/
  | unknownCommand
  /-- No option has this name, or there is no place for a positional argument. -/
  | unknownArgument
  /-- A positional argument is missing. -/
  | missingArgument
  /-- A value is missing, empty, or none of those that are allowed. -/
  | invalidValue
  /-- A value cannot be read. -/
  | unreadable (cause : ValueFault)
  /-- An option that may occur once occurs twice. -/
  | repeated
  /-- A flag brings a value. -/
  | unwantedValue
  deriving DecidableEq

/-- The exit status that goes with a refusal; help and version are no failures. -/
def UsageFault.exitCode : UsageFault → Nat
  | help => 0
  | version => 0
  | _ => 2

/-- **What an argument looks like.** -/
inductive Token where
  /-- Two hyphens: only positional arguments follow. -/
  | escape
  /-- A name after two hyphens, with a value after an equals sign. -/
  | long (name : String) (value : Option String)
  /-- Letters after one hyphen. -/
  | short (letter : Char)
  /-- Anything else. -/
  | plain

/-- What an argument looks like; a single hyphen is a plain argument. -/
def Token.ofText (text : String) : Token :=
  match text.toList with
  | ['-', '-'] => .escape
  | '-' :: '-' :: rest =>
    match splitFirst? '=' rest with
    | some (name, value) => .long (String.ofList name) (some (String.ofList value))
    | none => .long (String.ofList rest) none
  | '-' :: letter :: _ => .short letter
  | _ => .plain

/-- **The options, flags and positional arguments of a command**, with what their values do to a
result. -/
structure Grammar (σ : Type) where
  /-- Options that take a value and may occur once. -/
  options : List String
  /-- Options that take a value and may occur often. -/
  repeatable : List String := []
  /-- Flags. -/
  flags : List String := []
  /-- Positional arguments in order; all of them are needed. -/
  positionals : List String := []
  /-- Whether the version can be asked for. -/
  hasVersion : Bool := false
  /-- What is said of an argument that there is no place for. -/
  stray : Bool → String → UsageFault := fun _ _ => .unknownArgument
  /-- What the value of an option or of a positional argument does. -/
  assign : String → String → σ → Except UsageFault σ
  /-- What a flag does. -/
  raise : String → σ → σ := fun _ s => s

/-- **How far the arguments have been read.** -/
structure Progress (σ : Type) where
  /-- The result so far. -/
  result : σ
  /-- The names whose values have been taken. -/
  seen : List String := []
  /-- An option or positional argument whose value has not been looked at yet; an option may still
  lack its value. -/
  pending : Option (String × Option String) := none
  /-- The positional arguments that are still to come. -/
  remaining : List String
  /-- Whether two hyphens have been read. -/
  escaped : Bool := false

namespace Progress

variable {σ : Type}

/-- Whether the last argument was an option whose value is the next argument. -/
def awaitsValue (p : Progress σ) : Bool :=
  match p.pending with
  | some (_, none) => true
  | _ => false

/-- Whether anything was given. -/
def isEmpty (p : Progress σ) : Bool := p.seen.isEmpty && p.pending.isNone

end Progress

namespace Grammar

variable {σ : Type}

/-- The start of reading. -/
def start (g : Grammar σ) (result : σ) : Progress σ := { result, remaining := g.positionals }

/-- Takes the value of an option or of a positional argument. -/
def take (g : Grammar σ) (p : Progress σ) (name : String) (value : String) :
    Except UsageFault (Progress σ) :=
  if p.seen.contains name && !g.repeatable.contains name then .error .repeated
  else (g.assign name value p.result).map fun result =>
    { p with result := result, seen := name :: p.seen, pending := none }

/-- Looks at the value that is pending, if there is one. -/
def settle (g : Grammar σ) (p : Progress σ) : Except UsageFault (Progress σ) :=
  match p.pending with
  | none => .ok p
  | some (_, none) => .error .invalidValue
  | some (name, some value) => g.take p name value

/-- Reads an option, a flag, or a question for help or version. -/
def readLong (g : Grammar σ) (p : Progress σ) (name : String) (value : Option String) :
    Except UsageFault (Progress σ) :=
  if g.options.contains name || g.repeatable.contains name then do
    let p ← g.settle p
    match value with
    | some value => g.take p name value
    | none => return { p with pending := some (name, none) }
  else if g.flags.contains name || name == "help" || (g.hasVersion && name == "version") then
    if value.isSome then .error .unwantedValue
    else do
      let p ← g.settle p
      if name = "help" then .error .help
      else if name = "version" then .error .version
      else if p.seen.contains name then .error .repeated
      else return { p with result := g.raise name p.result, seen := name :: p.seen }
  else .error .unknownArgument

/-- Reads letters; the first one decides. -/
def readShort (g : Grammar σ) (p : Progress σ) (letter : Char) : Except UsageFault (Progress σ) :=
  if letter = 'h' then do
    let _ ← g.settle p
    .error .help
  else if letter = 'V' && g.hasVersion then do
    let _ ← g.settle p
    .error .version
  else .error .unknownArgument

/-- Reads a positional argument. -/
def readPositional (g : Grammar σ) (p : Progress σ) (text : String) :
    Except UsageFault (Progress σ) :=
  match p.remaining with
  | [] => .error (g.stray p.escaped text)
  | name :: remaining => do
    let p ← g.settle p
    return { p with pending := some (name, some text), remaining := remaining }

/-- **Reads one argument.** -/
def read (g : Grammar σ) (p : Progress σ) (text : String) : Except UsageFault (Progress σ) :=
  if p.escaped then g.readPositional p text
  else
    match Token.ofText text with
    | .escape => .ok { p with escaped := true }
    | .long name value => g.readLong p name value
    | .short letter => g.readShort p letter
    | .plain =>
      match p.pending with
      | some (name, none) => .ok { p with pending := some (name, some text) }
      | _ => g.readPositional p text

/-- **Reads the arguments of a command**: afterwards no value may be missing and no positional
argument. -/
def parse (g : Grammar σ) (result : σ) (arguments : List String) : Except UsageFault σ := do
  let p ← arguments.foldlM g.read (g.start result)
  let p ← g.settle p
  if p.remaining.isEmpty then return p.result else .error .missingArgument

end Grammar

end Microbatch.CommandLine
