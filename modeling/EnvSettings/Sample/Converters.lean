/-
Converters that the sample application may register, and the registry that it starts with.
-/
import EnvSettings.Decode.Log
import EnvSettings.Registry
import EnvSettings.Sample.Types

namespace EnvSettings.Sample

open EnvSettings.Number EnvSettings.Time

-- ============================================================== converters

/-- The integer type of sixteen bits without a sign. -/
def u16 : IntType := ⟨false, .bits16⟩

/-- Natural numbers of 8 bits. -/
def u8 : IntType := ⟨false, .bits8⟩

/-- Natural numbers of 64 bits. -/
def u64 : IntType := ⟨false, .bits64⟩

/-- A refusal of a text, in words. -/
def refuse {α : Type} (raw reason : String) : Except String α :=
  .error (ParseError.invalid raw reason).message

/-- The text in capitals, as far as they are ASCII letters. -/
def toCapitals (raw : String) : Except String String :=
  .ok (String.ofList (raw.toList.map Char.toUpper))

/-- Puts a text in square brackets. -/
def inBrackets (raw : String) : Except String String := .ok ("[" ++ raw ++ "]")

/-- One of two words for a number. -/
def readLevel (raw : String) : Except String u8.Value :=
  if raw = "high" then .ok ⟨9, by decide⟩
  else if raw = "low" then .ok ⟨1, by decide⟩
  else refuse raw "expected high or low"

/-- A whole number of seconds. -/
def readSeconds (raw : String) : Except String Duration :=
  match u64.ofNumeral 10 raw.toList with
  | .ok seconds => .ok ⟨seconds.1.toNat * 1000000000⟩
  | .error fault => .error fault.message

/-- A byte as a number. -/
def byteValue (b : UInt8) : u8.Value :=
  ⟨b.toNat, by
    have := b.toNat_lt
    exact ⟨by show (0 : Int) ≤ _; omega, by show _ ≤ ((1 <<< 8 : Nat) : Int) - 1; omega⟩⟩

/-- Reads a text as the list of its bytes. -/
def readBytes (raw : String) : Except String (List u8.Value) :=
  .ok (raw.toUTF8.data.toList.map byteValue)

/-- A number, or a word for there being none. -/
def readUnlessNone (raw : String) : Except String (Option u16.Value) :=
  if raw = "none" then .ok none
  else Registry.ofReading (fun raw => (readInt u16 raw).map some) raw

/-- One of two words for true and false. -/
def readYesNo (raw : String) : Except String Bool :=
  if raw = "yes" then .ok true
  else if raw = "no" then .ok false
  else .error s!"not yes or no: {raw}"

/-- A host and a port with a colon between them. -/
def readHostPort (raw : String) : Except String Endpoint :=
  match raw.toList.dropWhile (· ≠ ':') with
  | ':' :: port =>
    match readInt u16 (String.ofList port) with
    | .ok port => .ok ⟨String.ofList (raw.toList.takeWhile (· ≠ ':')), port.1.toNat⟩
    | .error e => .error e.message
  | _ => refuse raw "expected host:port"

/-- What follows the mark of a tag. -/
def readTag (raw : String) : Except String String :=
  match raw.toList with
  | 't' :: 'a' :: 'g' :: ':' :: tag => .ok (String.ofList tag)
  | _ => refuse raw "expected tag:"

/-- The converters by the names they go by. -/
def converterNamed? (name : String) : Option (Registration AppCode) :=
  [("Shouty:upper", ⟨.app .shouty, toCapitals⟩),
    ("u16:one", ⟨.scalar (.int u16), fun _ => .ok ⟨1, by decide⟩⟩),
    ("u16:two", ⟨.scalar (.int u16), fun _ => .ok ⟨2, by decide⟩⟩),
    ("String:brackets", ⟨.scalar .string, inBrackets⟩),
    ("u8:high", ⟨.scalar (.int u8), readLevel⟩),
    ("Duration:secs", ⟨.scalar .duration, readSeconds⟩),
    ("Vec<u8>:bytes", ⟨.list (.scalar (.int u8)), readBytes⟩),
    ("Option<u16>:none", ⟨.option (.scalar (.int u16)), readUnlessNone⟩),
    ("bool:yesno", ⟨.scalar .bool, readYesNo⟩),
    ("f64:fail", ⟨.scalar (.float .double), fun _ => .error "nope"⟩),
    ("Endpoint:host_port", ⟨.app .endpoint, readHostPort⟩),
    ("Tag:tag", ⟨.app .tag, readTag⟩)].lookup name

-- ================================================================ registry

/-- Adds the converter for tags. -/
def registerTag (registry : Registry AppCode) : Registry AppCode :=
  registry.register (.app .tag) readTag

/-- The registry of a program that has registered its converter for tags. -/
def programRegistry : Registry AppCode := registerTag .builtins

/-- Registers the converter for tags for all decodings to come: the registry they will use, and
what is told to the log. -/
def registerTagForAll (registry : Registry AppCode) : Registry AppCode × LogEvent :=
  (registerTag registry, .registering (AppTypes.name AppCode.tag))

end EnvSettings.Sample
