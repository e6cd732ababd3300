/-
Schemas of the sample application, which between them use every kind of field.
-/
import EnvSettings.Schema.Basic
import EnvSettings.Sample.Types
import EnvSettings.Sample.Converters

namespace EnvSettings.Sample

open EnvSettings.Number

/-- A schema with the stem that its program uses. -/
structure Preset where
  stem : String
  schema : Schema AppCode

/-- The policy with a default. -/
def withDefault (default : String) : FieldRule := ⟨false, some default, ""⟩

/-- The policy of a field that must be given. -/
def required : FieldRule := ⟨true, none, ""⟩

/-- Natural numbers of 32 bits. -/
def u32 : IntType := ⟨false, .bits32⟩

/-- The integer type of a machine word without a sign. -/
def usize : IntType := ⟨false, .word⟩

/-- Defaults, a required value and a group. -/
def basics : Schema AppCode :=
  .value "a" (.scalar .string) false (withDefault "a") <|
  .value "b" (.scalar .string) false required <|
  .value "c" (.app .shouty) false (withDefault "c") <|
  .group "nested_config" .plain (.value "x" (.scalar .string) false .plain .done) .done

/-- Values without any policy. -/
def optionals : Schema AppCode :=
  .value "name" (.scalar .string) false .plain <|
  .value "port" (.scalar (.int u16)) false .plain <|
  .value "ratio" (.scalar (.float .double)) false .plain <|
  .value "enabled" (.scalar .bool) false .plain <|
  .value "tags" (.list (.scalar .string)) false .plain <|
  .value "timeout" (.scalar .duration) false .plain <|
  .value "limit" (.option (.scalar (.int u32))) false .plain .done

/-- The settings of a worker that takes jobs from a queue. -/
def worker : Schema AppCode :=
  .value "thread_count" (.scalar (.int usize)) false
    ⟨false, some "0", "Number of worker threads. Zero means one per core."⟩ <|
  .value "queue_url" (.scalar .string) false ⟨true, none, "Queue to consume from"⟩ <|
  .value "type" (.scalar .string) false .plain <|
  .value "level" (.scalar (.int u8)) false (withDefault "7") <|
  .group "retry" .plain
    (.value "max_attempts" (.scalar (.int u32)) false (withDefault "3") <|
      .value "back_off" (.scalar .duration) true (withDefault "250ms") .done) .done

/-- A value between fields that are left alone. -/
def mixed : Schema AppCode :=
  .value "name" (.scalar .string) false .plain <|
  .skip "secret" (.scalar .string) <|
  .skip "cache" (.list (.scalar (.int u8))) .done

/-- A field that cannot be decoded into. -/
def boxed : Schema AppCode :=
  .value "name" (.scalar .string) false .plain <|
  .pointer "value" "Box<String>" .done

/-- A value that only a converter can read. -/
def client : Schema AppCode :=
  .value "endpoint" (.app .endpoint) true (withDefault "localhost:80") .done

/-- Defaults that cannot be read. -/
def badDefaults : Schema AppCode :=
  .value "flag" (.scalar .bool) false (withDefault "hi") <|
  .value "list" (.list (.scalar (.int u8))) false (withDefault "1,x,3") <|
  .value "tag" (.app .tag) true (withDefault "untagged") <|
  .value "tag_ok" (.app .tag) true (withDefault "tag:x") .done

/-- The schemas by the names they go by. -/
def presetNamed? (name : String) : Option Preset :=
  [("TestConfig", Preset.mk "" basics),
    ("Optionals", ⟨"", optionals⟩),
    ("Worker", ⟨"JOB_", worker⟩),
    ("Mixed", ⟨"", mixed⟩),
    ("Boxed", ⟨"", boxed⟩),
    ("Client", ⟨"EP_", client⟩),
    ("BadDefaults", ⟨"BAD_", badDefaults⟩)].lookup name

end EnvSettings.Sample
