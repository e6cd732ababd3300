/-
The command line program on a real machine. All that is decided is decided in `Cli`; here the
machine's files, environment and outputs are handed to it.
-/
import EnvSettings.Cli.Program

namespace EnvSettings.Cli

open EnvSettings.Source

/-- The fault that an error of the machine stands for. What has no fault of its own counts as a
file that is not there. -/
def faultOf : IO.Error → FileFault
  | .noFileOrDirectory .. => .notFound
  | .inappropriateType _ code _ => if code = 21 then .isDirectory else .notDirectory
  | .invalidArgument _ code _ => if code = 36 then .nameTooLong else .invalidText
  | _ => .notFound

/-- Does something with a file, and gives the fault if it cannot be done. -/
def attempt {α : Type} (action : IO α) : IO (Except FileFault α) := do
  try return .ok (← action)
  catch e => return .error (faultOf e)

/-- Cuts an entry at its first equals sign but for one at its start, which belongs to the name. An
entry without such a sign is no variable. -/
def cutEntry? : Bytes → Option (Bytes × Bytes)
  | [] => none
  | first :: rest =>
    match rest.dropWhile (· ≠ Environment.equalsSign) with
    | [] => none
    | _ :: value => some (first :: rest.takeWhile (· ≠ Environment.equalsSign), value)

/-- The environment of this process, in which each variable ends in a zero byte. -/
def machineEnvironment : IO Environment := do
  match ← attempt (IO.FS.readBinFile "/proc/self/environ") with
  | .ok bytes => return (piecesEndedBy 0 bytes.data.toList).filterMap cutEntry?
  | .error _ => return []

/-- The machine that the program runs on. -/
def machineHost (palette : Palette) : Host IO where
  environment := machineEnvironment
  readFile path := attempt do return (← IO.FS.readBinFile path).data.toList
  writeFile path text := attempt (IO.FS.writeFile path text)
  print text := do (← IO.getStdout).putStr text
  complain text := do (← IO.getStderr).putStr text
  palette := palette

end EnvSettings.Cli

/-- Runs the program with the given arguments. -/
def main (arguments : List String) : IO UInt32 := do
  let palette := EnvSettings.Palette.forced (← IO.getEnv EnvSettings.Cli.forceVariable)
  let code ← EnvSettings.Cli.run (EnvSettings.Cli.machineHost palette) arguments
  return code.number.toUInt32
