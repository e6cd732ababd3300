/-
Decoding: from a source of variables to a configuration.

The walk comes first, and nothing is read if it fails. Then every slot of a configuration that is
there from the start is filled in turn: a value that is there and not empty is decoded; else a
required variable is an error, a default is decoded, and without either the configuration keeps
what it has. Errors are gathered from all slots and, on request, reported for a reader. Only when
there are none is it asked, on request, whether the source defines variables under the stem that
no slot has read.
-/
import EnvSettings.Schema.Walker
import EnvSettings.Source.Tracked
import EnvSettings.Decode.Error
import EnvSettings.Decode.Log

namespace EnvSettings

open EnvSettings.Source

variable {A : Type} [AppTypes A] {R : Type}

-- =================================================================== slots

/-- What becomes of a slot once its variable has been looked up: a change of the configuration,
or the reason why there is none. -/
def Slot.outcome (slot : Slot A R) (registry : Registry A) (found : Option String) :
    Except ValueFault (R → R) :=
  match present? found with
  | some value =>
    match slot.assign registry value with
    | .ok change => .ok change
    | .error e => .error (.invalid e)
  | none =>
    if slot.rule.required then .error .required
    else
      match slot.rule.default? with
      | none => .ok id
      | some default =>
        match slot.assign registry default with
        | .ok change => .ok change
        | .error e => .error (.default default e)

/-- A pass over slots. -/
structure Pass (R : Type) where
  config : R
  source : Tracked
  errors : List ValueError
  events : List LogEvent

/-- Looks a slot's variable up and fills the slot. -/
def Pass.fill (registry : Registry A) (pass : Pass R) (slot : Slot A R) : Pass R :=
  let (found, source) := pass.source.get slot.key
  let events := pass.events ++ [.reading slot.key]
  match slot.outcome registry found with
  | .ok change => ⟨change pass.config, source, pass.errors, events⟩
  | .error fault => ⟨pass.config, source, pass.errors ++ [⟨slot.key, fault⟩], events⟩

/-- Fills slots one after the other. -/
def Pass.fillAll (registry : Registry A) (pass : Pass R) (slots : List (Slot A R)) : Pass R :=
  slots.foldl (fill registry) pass

-- ================================================================ decoding

/-- The options of a decoding. -/
structure Decoder (A : Type) [AppTypes A] where
  registry : Registry A
  /-- What the name of every variable starts with. -/
  stem : String
  /-- Variables under the stem that nothing reads are an error. -/
  denyUnused : Bool
  /-- Value errors are reported for a reader before they are the answer. -/
  echo : Bool

/-- A decoding that has come to its end. -/
structure Run (C : Type) where
  result : Except DecodeError C
  /-- What was told to the log. -/
  events : List LogEvent
  /-- What the source was asked. -/
  calls : List Call
  /-- What was written for a reader, in the colours of a palette. -/
  echoed : Palette → String := fun _ => ""

/-- The names under the stem among names that were not fetched, in ascending order. -/
def unusedNames (stem : String) (unfetched : List String) : List String :=
  (unfetched.filter (stem.toList.isPrefixOf ·.toList)).mergeSort (· ≤ ·)

/-- The end of a decoding whose slots are all filled. -/
def Decoder.finish (d : Decoder A) (pass : Pass R) : Run R :=
  let done (source : Tracked) : Run R :=
    { result := .ok pass.config, events := pass.events ++ [.decoded d.stem], calls := source.calls }
  if d.denyUnused then
    let (unfetched, source) := pass.source.unfetched
    match unusedNames d.stem unfetched with
    | [] => done source
    | unused =>
      { result := .error (.unused unused), events := pass.events ++ [.unused unused]
        calls := source.calls }
  else done pass.source

/-- Fills the slots that a walk over the schema has found, from the configuration that is there
at the start. -/
def Decoder.pass (d : Decoder A) (s : Schema A) (slots : List (Slot A s.Config)) (start : s.Config)
    (source : Source) : Pass s.Config :=
  Pass.fillAll d.registry ⟨start, .ofSource source, [], [.decoding d.stem slots.length]⟩ slots

variable [DecidableEq A]

/-- Decodes the variables of a source into a configuration that is there at the start. -/
def Decoder.run (d : Decoder A) (s : Schema A) (start : s.Config) (source : Source) :
    Run s.Config :=
  match s.slots? d.stem d.registry with
  | .error e => { result := .error (.schema e), events := [], calls := [] }
  | .ok slots =>
    let pass := d.pass s slots start source
    if pass.errors = [] then d.finish pass
    else
      { result := .error (.values pass.errors)
        events := pass.events ++ [.invalid pass.errors.length]
        calls := pass.source.calls
        echoed := fun palette => if d.echo then report palette pass.errors else "" }

/-- The configuration, or why there is none. -/
def Decoder.decode (d : Decoder A) (s : Schema A) (start : s.Config) (source : Source) :
    Except DecodeError s.Config :=
  (d.run s start source).result

end EnvSettings
