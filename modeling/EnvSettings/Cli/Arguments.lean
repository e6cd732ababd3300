/-
The command line: one of three commands, and an environment file that may be named before or
after it. Every option is given at most once in its place; one that takes a value has it
attached or in the next argument, where it must not look like an option.
-/

namespace EnvSettings.Cli

-- ================================================================ commands

/-- What is asked for. -/
inductive Command
  /-- Decode the configuration and show it. -/
  | check (strict : Bool)
  /-- Write the documentation. -/
  | docs (output : String)
  /-- Show the variables. -/
  | usage
  deriving Repr, DecidableEq

/-- What the program is called for. -/
structure Invocation where
  envFile : Option String
  command : Command
  deriving Repr, DecidableEq

/-- Where the documentation goes unless it is said. -/
def defaultOutput : String := "CONFIG.md"

-- =================================================================== words

/-- The options that take a value. -/
inductive ValueOption
  | envFile | output
  deriving Repr, DecidableEq

/-- A command line word by word. -/
inductive Word
  | option (option : ValueOption) (value : String)
  | strict
  | plain (text : String)
  deriving Repr, DecidableEq

/-- An argument by itself. -/
inductive Argument
  /-- An option with its value attached. -/
  | attached (option : ValueOption) (value : String)
  /-- An option whose value is the next argument. -/
  | detached (option : ValueOption)
  | strict
  | plain (text : String)
  /-- The mark behind which nothing is an option. -/
  | escape
  | unknown
  deriving Repr, DecidableEq

/-- The option with a value that has such a long name. -/
def longOption? (name : List Char) : Option ValueOption :=
  if name = "env-file".toList then some .envFile
  else if name = "output".toList then some .output
  else none

/-- The option with a value that has such a letter. -/
def shortOption? (letter : Char) : Option ValueOption :=
  if letter = 'f' then some .envFile
  else if letter = 'o' then some .output
  else none

/-- What an argument looks like, whatever stands before it. -/
def classify (argument : String) : Argument :=
  match argument.toList with
  | ['-', '-'] => .escape
  | '-' :: '-' :: long =>
    if long = "strict".toList then .strict
    else
      match longOption? (long.takeWhile (· ≠ '=')) with
      | none => .unknown
      | some option =>
        match long.dropWhile (· ≠ '=') with
        | '=' :: value => .attached option (String.ofList value)
        | _ => .detached option
  | '-' :: letter :: value =>
    match shortOption? letter with
    | none => .unknown
    | some option =>
      match value with
      | [] => .detached option
      | '=' :: value => .attached option (String.ofList value)
      | value => .attached option (String.ofList value)
  | _ => .plain argument

/-- The argument can be the value of the option before it. -/
def isValue (argument : String) : Bool :=
  match classify argument with
  | .plain text => text ≠ ""
  | _ => false

/-- Reads arguments as words; none if some argument makes no sense. -/
def words : List String → Option (List Word)
  | [] => some []
  | argument :: rest =>
    match classify argument with
    | .attached option value =>
      if value = "" then none else (words rest).map (.option option value :: ·)
    | .detached option =>
      match rest with
      | value :: rest =>
        if isValue value then (words rest).map (.option option value :: ·) else none
      | [] => none
    | .strict => (words rest).map (.strict :: ·)
    | .plain text => (words rest).map (.plain text :: ·)
    | .escape => if rest = [] then some [] else none
    | .unknown => none

-- ================================================================= reading

/-- Options as they have been given so far. -/
structure Given where
  envFile : Option String
  output : Option String
  strict : Bool

/-- No option is given. -/
def Given.nothing : Given := ⟨none, none, false⟩

/-- Takes the words after a command; none if an option is repeated or a plain word follows. -/
def Given.takeAll (given : Given) : List Word → Option Given
  | [] => some given
  | .option .envFile value :: rest =>
    if given.envFile.isSome then none else takeAll { given with envFile := some value } rest
  | .option .output value :: rest =>
    if given.output.isSome then none else takeAll { given with output := some value } rest
  | .strict :: rest => if given.strict then none else takeAll { given with strict := true } rest
  | .plain _ :: _ => none

/-- The command of a name with the options given to it, if they are its own. -/
def commandOf (name : String) (given : Given) : Option Command :=
  if name = "check" then
    if given.output.isSome then none else some (.check given.strict)
  else if name = "docs" then
    if given.strict then none else some (.docs (given.output.getD defaultOutput))
  else if name = "usage" then
    if given.strict || given.output.isSome then none else some .usage
  else none

/-- Takes words up to the command and what follows it. The environment file named after the
command counts before the one named in front of it. -/
def readWords (envFile : Option String) : List Word → Option Invocation
  | .option .envFile value :: rest =>
    if envFile.isSome then none else readWords (some value) rest
  | .plain name :: rest => do
    let given ← Given.nothing.takeAll rest
    let command ← commandOf name given
    return ⟨given.envFile.or envFile, command⟩
  | _ => none

/-- Reads a command line; none if it makes no sense. -/
def Invocation.read (arguments : List String) : Option Invocation :=
  (words arguments).bind (readWords none)

end EnvSettings.Cli
