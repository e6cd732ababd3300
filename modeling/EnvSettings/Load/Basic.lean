/-
Loading a configuration the way a program does at its start: an attempt is made to complete the
environment of the process from a file of defaults, and what the environment then is is decoded
under the stem of the program.

How a file of defaults is found and read is no business of loading, so what makes the attempt is a
parameter here.
-/
import EnvSettings.Decode.Decoder
import EnvSettings.Source.Environment

namespace EnvSettings

/-- What an attempt to complete an environment comes to. -/
structure Completion (F : Type) where
  /-- The environment after the attempt. -/
  env : Environment
  /-- Why the attempt has ended early, if it has. -/
  fault? : Option F

-- ================================================================= loading

variable {A : Type} [AppTypes A] [DecidableEq A] {F : Type}

/-- Decodes a schema from an environment after an attempt to complete it, and reports nothing. That
the attempt has ended early is no error. -/
def Schema.load (s : Schema A) (start : s.Config) (stem : String) (registry : Registry A)
    (attempt : Environment → Completion F) (env : Environment) : Except DecodeError s.Config :=
  (Decoder.mk registry stem false false).decode s start (attempt env).env.toSource

/-- What a program that cannot go on without its configuration says before it ends: a report of
value errors, or the text of any other error. -/
def DecodeError.lastWords (e : DecodeError) (palette : Palette := .plain) : String :=
  match e with
  | .values errors => report palette errors
  | e => e.message

/-- Loads the configuration of a program that cannot go on without it: in place of an error stand
the program's last words. -/
def Schema.loadOrEnd (s : Schema A) (start : s.Config) (stem : String) (registry : Registry A)
    (attempt : Environment → Completion F) (env : Environment) (palette : Palette := .plain) :
    Except String s.Config :=
  match s.load start stem registry attempt env with
  | .ok config => .ok config
  | .error e => .error (e.lastWords palette)

end EnvSettings
