/-
Converters, kept by the type they make. A registry holds at most one converter for a type, the
one registered last, and a converter takes precedence over the type's own reading: a text is
given to the converter of the whole type if there is one, else a list or an option is taken
apart and its elements are decoded by the same rule.
-/
import EnvSettings.Text.Pretty
import EnvSettings.Value.Reading

namespace EnvSettings

variable {A : Type}

-- ============================================================== converters

/-- Makes a value out of a text, or says in words why it cannot. -/
abbrev Converter [AppTypes A] (t : TypeCode A) : Type :=
  String → Except String t.Value

/-- A type with the converter registered for it. -/
structure Registration (A : Type) [AppTypes A] where
  type : TypeCode A
  convert : Converter type

/-- The converters that take the place of the types' own readings, one for each type at most. -/
structure Registry (A : Type) [AppTypes A] where
  entries : List (Registration A)

namespace Registry

variable [AppTypes A]

/-- The registry without any converter. -/
def empty : Registry A := ⟨[]⟩

/-- The converter of a type among registrations. -/
def find [DecidableEq A] (t : TypeCode A) : List (Registration A) → Option (Converter t)
  | [] => none
  | entry :: rest => if h : entry.type = t then some (h ▸ entry.convert) else find t rest

variable [DecidableEq A]

/-- The converter of a type, if it has one. -/
def converter? (r : Registry A) (t : TypeCode A) : Option (Converter t) :=
  find t r.entries

/-- Adds a converter in the place of any earlier one for the same type. -/
def register (r : Registry A) (t : TypeCode A) (convert : Converter t) : Registry A :=
  ⟨r.entries.filter (fun entry => !decide (entry.type = t)) ++ [⟨t, convert⟩]⟩

/-- The type has a converter. -/
def contains (r : Registry A) (t : TypeCode A) : Bool := (r.converter? t).isSome

/-- How many types have a converter. -/
def size (r : Registry A) : Nat := r.entries.length

/-- The names of the types that have a converter, in ascending order. -/
def typeNames (r : Registry A) : List String :=
  (r.entries.map fun entry => Naming.shortTypeName entry.type.name).mergeSort (· ≤ ·)

/-- The types that have a converter, on one line, for a reader who debugs a program. -/
def summary (r : Registry A) : String :=
  "TypeRegistry \x7b types: " ++ Text.quoteAll r.typeNames ++ " \x7d"

/-- The types that have a converter, laid out over several lines. -/
def pretty (r : Registry A) : Text.Pretty :=
  .record "TypeRegistry" [("types", .list (r.typeNames.map .quoted))]

/-- A converter from a reading; of its errors only the words are kept. -/
def ofReading {α : Type} (read : String → Except ParseError α) (raw : String) : Except String α :=
  match read raw with
  | .ok v => .ok v
  | .error e => .error e.message

/-- The registry with the converters for durations and instants. -/
def builtins : Registry A :=
  (empty.register (.scalar .duration) (ofReading readDuration)).register
    (.scalar .timestamp) (ofReading (readTimestamp (AppTypes.calendar A)))

/-- Runs the converter of a type, if there is one. -/
def convert? (r : Registry A) (t : TypeCode A) (raw : String) :
    Option (Except ParseError t.Value) :=
  (r.converter? t).map fun convert =>
    match convert raw with
    | .ok v => .ok v
    | .error message => .error (.custom message)

end Registry

-- ================================================================ decoding

/-- Reads a text as a value of the type, converters first. -/
def TypeCode.decode [AppTypes A] [DecidableEq A] (r : Registry A) :
    (t : TypeCode A) → String → Except ParseError t.Value
  | .scalar s, raw => (r.convert? (.scalar s) raw).getD (s.read (AppTypes.calendar A) raw)
  | .app a, raw => (r.convert? (.app a) raw).getD (TypeCode.read (.app a) raw)
  | .list t, raw =>
    match r.convert? (.list t) raw with
    | some result => result
    | none => readElements (t.decode r) 0 (splitCommas raw)
  | .option t, raw =>
    match r.convert? (.option t) raw with
    | some result => result
    | none =>
      match t.decode r raw with
      | .ok v => .ok (some v)
      | .error e => .error e

/-- Reads a text for a field of the type. A field that counts on a converter is read by the
converter of its whole type or not at all. -/
def TypeCode.decodeField [AppTypes A] [DecidableEq A] (r : Registry A) (byConverter : Bool)
    (t : TypeCode A) (raw : String) : Except ParseError t.Value :=
  if byConverter then (r.convert? t raw).getD (.error (unreadable raw t.name))
  else t.decode r raw

end EnvSettings
