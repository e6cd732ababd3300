/-
Reading a text as a value of a type, by the type alone. A list is cut at every comma and read
element by element, the first failure counting; an option is read as what it holds.
-/
import EnvSettings.Naming
import EnvSettings.Value.Type

namespace EnvSettings

open EnvSettings.Number EnvSettings.Address EnvSettings.Time EnvSettings.Text EnvSettings.Naming

-- ========================================================== built-in types

/-- Reads one of the words for true and false. -/
def readBool (raw : String) : Except ParseError Bool :=
  if ["1", "t", "T", "TRUE", "true", "True"].contains raw then .ok true
  else if ["0", "f", "F", "FALSE", "false", "False"].contains raw then .ok false
  else .error (.bool raw)

/-- Reads an integer literal of a type. -/
def readInt (type : IntType) (raw : String) : Except ParseError type.Value :=
  match type.ofLiteral raw.toList with
  | .ok v => .ok v
  | .error .secondSign => .error (.invalid raw "invalid syntax")
  | .error (.numeral fault) => .error (.int raw fault)

/-- Reads a floating point literal. A number too large for the format is refused; infinity has to
be asked for by name. -/
def readFloat (format : FloatFormat) (raw : String) : Except ParseError BinaryFloat :=
  match FloatLiteral.read raw.toList with
  | .error fault => .error (.float raw fault)
  | .ok (.decimal x) =>
    match x.toFloat format with
    | .infinite _ => .error (.invalid raw "value out of range")
    | float => .ok float
  | .ok literal => .ok (literal.toFloat format)

/-- Reads a duration. -/
def readDuration (raw : String) : Except ParseError Duration :=
  match Duration.read raw.toList with
  | .ok d => .ok d
  | .error fault => .error (.invalid raw fault.message)

/-- Reads an instant with the help of a library for dates. -/
def readTimestamp (calendar : Calendar) (raw : String) : Except ParseError Timestamp :=
  match Timestamp.read calendar raw with
  | .ok t => .ok t
  | .error .shape =>
    .error (.invalid raw "expected RFC 3339 timestamp like 2006-01-02T15:04:05Z")
  | .error (.content fault) => .error (.time raw fault)

/-- Takes a reading that says no more than whether it succeeded, and adds the reason. -/
def orInvalid {α : Type} (raw reason : String) : Option α → Except ParseError α
  | some a => .ok a
  | none => .error (.invalid raw reason)

/-- Reads a size; of its errors only the words are kept. -/
def readByteSize (raw : String) : Except ParseError ByteSize :=
  match ByteSize.ofText raw with
  | .ok size => .ok size
  | .error fault => .error (.custom fault.message)

/-- Reads a text as a value of a built-in type. -/
def ScalarType.read (calendar : Calendar) : (s : ScalarType) → String → Except ParseError s.Value
  | .bool, raw => readBool raw
  | .string, raw => .ok raw
  | .int type, raw => readInt type raw
  | .float format, raw => readFloat format raw
  | .duration, raw => readDuration raw
  | .timestamp, raw => readTimestamp calendar raw
  | .path, raw => .ok raw
  | .ip, raw => orInvalid raw "invalid IP address syntax" (Ip.ofText? raw)
  | .ipv4, raw => orInvalid raw "invalid IPv4 address syntax" (Ipv4.ofText? raw)
  | .ipv6, raw => orInvalid raw "invalid IPv6 address syntax" (Ipv6.ofText? raw)
  | .socket, raw => orInvalid raw "invalid socket address syntax" (Socket.ofText? raw)
  | .byteSize, raw => readByteSize raw

-- =================================================================== lists

/-- The parts of a text between its commas, empty ones included. -/
def splitCommas (raw : String) : List String :=
  (raw.toList.splitOn ',').map String.ofList

/-- Reads parts one by one; the first that fails gives the error, under its index. -/
def readElements {α : Type} (read : String → Except ParseError α) :
    (index : Nat) → List String → Except ParseError (List α)
  | _, [] => .ok []
  | index, part :: rest =>
    match read part with
    | .error source => .error (.element index part source)
    | .ok a =>
      match readElements read (index + 1) rest with
      | .error e => .error e
      | .ok as => .ok (a :: as)

-- =============================================================== all types

/-- The error for a type, given by its full name, that has no reading and no converter. -/
def unreadable (raw fullName : String) : ParseError :=
  .invalid raw s!"no converter registered for {shortTypeName fullName}"

namespace TypeCode

variable {A : Type} [AppTypes A]

/-- Reads a text as a value of the type, without any converter. -/
def read : (t : TypeCode A) → String → Except ParseError t.Value
  | .scalar s, raw => s.read (AppTypes.calendar A) raw
  | .app a, raw =>
    match AppTypes.read? a with
    | some read => read raw
    | none => .error (unreadable raw (AppTypes.name a))
  | .list t, raw => readElements t.read 0 (splitCommas raw)
  | .option t, raw =>
    match t.read raw with
    | .ok v => .ok (some v)
    | .error e => .error e

end TypeCode

end EnvSettings
