/-
The walk over a schema. It gives every value its variable and collects, in the order of the
fields and depth first, one slot for each: the variable's name, the field's policy, and how a
text is put into the configuration. It stops at the first field with something wrong.

The walker is the state of a walk. Entering a group extends the text that every variable starts
with and the path that errors name. Leaving it cuts both back, the text to the size in bytes that
it had before; nothing else is kept of the state before the group.
-/
import EnvSettings.Naming
import EnvSettings.Registry
import EnvSettings.Schema.Basic
import EnvSettings.Schema.Error

namespace EnvSettings

open EnvSettings.Naming EnvSettings.Text

variable {A : Type} [AppTypes A] {R : Type}

-- =================================================================== slots

/-- One variable that is read into a configuration of type `R`. -/
structure Slot (A R : Type) [AppTypes A] where
  /-- The variable's name. -/
  key : String
  rule : FieldRule
  typeName : String
  /-- Puts a text into a configuration. -/
  assign : Registry A → String → Except ParseError (R → R)

/-- A slot on one line, for a reader who debugs a walk. -/
def Slot.summary (slot : Slot A R) : String :=
  let default :=
    match slot.rule.default? with
    | none => "None"
    | some text => s!"Some({quote text})"
  "ConfigField \x7b env_var: " ++ quote slot.key ++ ", default: " ++ default ++
    s!", required: {slot.rule.required}, type_name: " ++ quote slot.typeName ++ ", .. \x7d"

-- ================================================================== walker

/-- A walk over a schema, with what it has found so far. -/
structure Walker (A R : Type) [AppTypes A] where
  registry : Registry A
  /-- What the name of every variable starts with. -/
  stem : String
  /-- The names of the groups entered, the outermost first. -/
  path : List String
  /-- The slots found so far. -/
  slots : List (Slot A R)

namespace Walker

/-- A walk that has found nothing yet. -/
def start (stem : String) (registry : Registry A) : Walker A R := ⟨registry, stem, [], []⟩

/-- The error of a field at the place where the walk stands. -/
def errorAt (w : Walker A R) (name : String) (fault : SchemaFault) : SchemaError :=
  let above := ".".intercalate w.path
  ⟨if above = "" then name else above ++ "." ++ name, fault⟩

/-- The variable of a field at the place where the walk stands. -/
def keyOf (w : Walker A R) (name : String) : String := w.stem ++ screamingSnake name

/-- Goes into a group: its name continues the stem and the path. -/
def enter (w : Walker A R) (name : String) : Walker A R :=
  { w with stem := w.stem ++ screamingSnake name ++ "_", path := w.path ++ [name] }

/-- The characters at the start of a text that fit into `size` bytes. -/
def fitting (size : Nat) : List Char → List Char
  | [] => []
  | c :: cs => if c.utf8Size ≤ size then c :: fitting (size - c.utf8Size) cs else []

/-- Goes out of a group before which the stem had `stemSize` bytes. -/
def leave (w : Walker A R) (stemSize : Nat) : Walker A R :=
  { w with stem := String.ofList (fitting stemSize w.stem.toList), path := w.path.dropLast }

/-- Notes a slot behind those found so far. -/
def push (w : Walker A R) (slot : Slot A R) : Walker A R :=
  { w with slots := w.slots ++ [slot] }

end Walker

-- =================================================================== rules

/-- What is wrong with the policy of a value. -/
def FieldRule.valueFault? (rule : FieldRule) : Option SchemaFault :=
  match rule.default? with
  | none => none
  | some default =>
    if default = "" then some .emptyDefault
    else if rule.required then some .requiredWithDefault
    else none

/-- What is wrong with the policy of a group. -/
def FieldRule.groupFault? (rule : FieldRule) : Option SchemaFault :=
  if rule.required then some .requiredGroup
  else if rule.default?.isSome then some .defaultOnGroup
  else none

variable [DecidableEq A]

/-- What is wrong with a value: its policy, or the lack of the converter it counts on. -/
def valueFault? (registry : Registry A) (type : TypeCode A) (byConverter : Bool)
    (rule : FieldRule) : Option SchemaFault :=
  match rule.valueFault? with
  | some fault => some fault
  | none =>
    if byConverter && !registry.contains type then some (.unsupported (shortTypeName type.name))
    else none

-- ==================================================================== walk

/-- The slot of a value; `place` says where in the configuration the value goes. -/
def Walker.slotOf (w : Walker A R) (name : String) (type : TypeCode A) (byConverter : Bool)
    (rule : FieldRule) (place : type.Value → R → R) : Slot A R where
  key := w.keyOf name
  rule := rule
  typeName := shortTypeName type.name
  assign registry raw :=
    match type.decodeField registry byConverter raw with
    | .ok v => .ok (place v)
    | .error e => .error e

/-- Visits a group: goes into it, does there what `visitInner` does, and goes out again, whether
that ended well or not. A group whose policy is not fine is not gone into. -/
def Walker.visitGroup (w : Walker A R) (name : String) (rule : FieldRule)
    (visitInner : Walker A R → Walker A R × Option SchemaError) :
    Walker A R × Option SchemaError :=
  match rule.groupFault? with
  | some fault => (w, some (w.errorAt name fault))
  | none =>
    let (inside, error) := visitInner (w.enter name)
    (inside.leave w.stem.utf8ByteSize, error)

/-- Walks over a schema whose configurations are a part of `R`; `within` applies a change of that
part to the whole. -/
def Schema.visit : (s : Schema A) → (within : (s.Config → s.Config) → R → R) → Walker A R →
    Walker A R × Option SchemaError
  | .done, _, w => (w, none)
  | .value name type byConverter rule rest, within, w =>
    match valueFault? w.registry type byConverter rule with
    | some fault => (w, some (w.errorAt name fault))
    | none =>
      rest.visit (fun change => within fun c => (c.1, change c.2))
        (w.push (w.slotOf name type byConverter rule fun v => within fun c => (v, c.2)))
  | .group name rule inner rest, within, w =>
    match w.visitGroup name rule (inner.visit fun change => within fun c => (change c.1, c.2)) with
    | (w, some e) => (w, some e)
    | (w, none) => rest.visit (fun change => within fun c => (c.1, change c.2)) w
  | .pointer name typeName _, _, w => (w, some (w.errorAt name (.pointer typeName)))
  | .skip _ _ rest, within, w => rest.visit (fun change => within fun c => (c.1, change c.2)) w

/-- The slots of a schema, or the first thing wrong with it. -/
def Schema.slots? (s : Schema A) (stem : String) (registry : Registry A) :
    Except SchemaError (List (Slot A s.Config)) :=
  match s.visit id (.start stem registry) with
  | (_, some e) => .error e
  | (w, none) => .ok w.slots

end EnvSettings
