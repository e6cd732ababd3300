/-
Sources as they are put together: bindings in memory, a file, the environment of a process, a
source with a fallback, and a source that keeps track of what it was asked.
-/
import EnvSettings.Source.Environment
import EnvSettings.Source.EnvFile
import EnvSettings.Source.Tracked

namespace EnvSettings.Source

/-- How a source is put together. -/
inductive Origin
  | memory (bindings : Bindings)
  | file (path : String) (contents : Except FileFault Bytes)
  | process (env : Environment)
  | layered (primary fallback : Origin)
  | tracked (inner : Origin)

/-- The source that is put together so. Files are read now, the primary source's before the
fallback's, and the first that fails decides. Keeping track changes no answer. -/
def Origin.toSource : Origin → Except SourceError Source
  | .memory bindings => .ok (ofBindings bindings)
  | .file path contents => EnvFile.toSource path contents
  | .process env => .ok env.toSource
  | .layered primary fallback =>
    match primary.toSource with
    | .error e => .error e
    | .ok first =>
      match fallback.toSource with
      | .error e => .error e
      | .ok second => .ok (first.orElse second)
  | .tracked inner => inner.toSource

end EnvSettings.Source
