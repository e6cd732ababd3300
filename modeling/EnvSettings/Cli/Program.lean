/-
The program behind the command line. What it needs of the world around it, files, environment
and output, it asks of a host, so that it runs the same on a real machine and in memory.
-/
import EnvSettings.Cli.Arguments
import EnvSettings.Cli.Directory
import EnvSettings.Cli.Service
import EnvSettings.Decode.Decoder
import EnvSettings.Docs
import EnvSettings.Source.Environment

namespace EnvSettings.Cli

open EnvSettings.Source

-- ==================================================================== host

/-- What the program asks of the world around it. -/
structure Host (m : Type → Type) where
  environment : m Environment
  readFile : String → m (Except FileFault Bytes)
  writeFile : String → String → m (Except FileFault Unit)
  /-- Writes to the output proper. -/
  print : String → m Unit
  /-- Writes to the output for errors. -/
  complain : String → m Unit
  palette : Palette

/-- The variable that forces colours. -/
def forceVariable : String := "CLICOLOR_FORCE"

/-- How the program ended. -/
inductive ExitCode
  | success | failure | misuse
  deriving Repr, DecidableEq

/-- The number that a shell sees. -/
def ExitCode.number : ExitCode → Nat
  | .success => 0
  | .failure => 1
  | .misuse => 2

variable {m : Type → Type} [Monad m]

/-- Ends with an error on a line of its own. -/
def fail (host : Host m) (message : String) : m ExitCode := do
  host.complain s!"✗ {message}\n"
  return .failure

-- ================================================================ commands

/-- The source that an environment file gives; without a file, one that defines nothing. -/
def fileSource (host : Host m) (envFile : Option String) : m (Except SourceError Source) :=
  match envFile with
  | none => return .ok .empty
  | some path => return EnvFile.toSource path (← host.readFile path)

/-- Decodes the configuration from the environment and the file, and shows it. -/
def check (host : Host m) (envFile : Option String) (strict : Bool) : m ExitCode := do
  match ← fileSource host envFile with
  | .error e => fail host e.message
  | .ok file =>
    let env ← host.environment
    let decoder : Decoder Empty := ⟨serviceRegistry, serviceStem, strict, true⟩
    let run := decoder.run serviceSchema serviceSchema.initial (env.toSource.orElse file)
    host.complain (run.echoed host.palette)
    match run.result with
    | .ok config =>
      host.print s!"✓ Config loaded successfully!\n{(showService config).render 0}\n"
      return .success
    | .error e => fail host e.message

/-- The variables of the configuration. -/
def serviceInfos : Except SchemaError (List FieldInfo) :=
  serviceSchema.describe serviceStem serviceRegistry

/-- Writes the documentation of the configuration to a file. -/
def writeDocs (host : Host m) (output : String) : m ExitCode := do
  match serviceInfos with
  | .error e => fail host s!"Failed to write documentation: {e.message}"
  | .ok infos =>
    match ← host.writeFile output (Docs.table infos) with
    | .error fault => fail host s!"Failed to write documentation: {fault.message}"
    | .ok () =>
      host.print s!"✓ Documentation written to {output}\n"
      return .success

/-- Shows the variables of the configuration. -/
def showUsage (host : Host m) : m ExitCode := do
  match serviceInfos with
  | .error e => fail host e.message
  | .ok infos =>
    host.print (Docs.usage infos)
    return .success

/-- Runs the program with arguments. -/
def run (host : Host m) (arguments : List String) : m ExitCode :=
  match Invocation.read arguments with
  | none => return .misuse
  | some ⟨envFile, .check strict⟩ => check host envFile strict
  | some ⟨_, .docs output⟩ => writeDocs host output
  | some ⟨_, .usage⟩ => showUsage host

-- =============================================================== in memory

/-- A machine in memory: a directory, and what has been written to the two outputs. -/
structure Machine where
  directory : Directory
  output : String
  errors : String

/-- The host that a machine in memory is. -/
def memoryHost (env : Environment) (palette : Palette) : Host (StateM Machine) where
  environment := return env
  readFile path := return (← get).directory.read path
  writeFile path text := do
    match (← get).directory.write path (Bytes.ofText text) with
    | .ok directory =>
      modify ({ · with directory })
      return .ok ()
    | .error fault => return .error fault
  print text := modify fun machine => { machine with output := machine.output ++ text }
  complain text := modify fun machine => { machine with errors := machine.errors ++ text }
  palette := palette

/-- Runs the program on a machine in memory. -/
def runInMemory (env : Environment) (directory : Directory) (arguments : List String) :
    ExitCode × Machine :=
  let palette := Palette.forced (env.value? forceVariable)
  (run (memoryHost env palette) arguments).run ⟨directory, "", ""⟩

end EnvSettings.Cli
