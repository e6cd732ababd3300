/-
Texts of the outside world, which are bytes and may or may not be valid UTF-8.
-/

namespace EnvSettings.Source

/-- What a process or a file holds, which need not be text. -/
abbrev Bytes := List UInt8

/-- The text that the bytes encode, if they are valid UTF-8. -/
def Bytes.text? (bytes : Bytes) : Option String := String.fromUTF8? ⟨bytes.toArray⟩

/-- The bytes that encode a text. -/
def Bytes.ofText (s : String) : Bytes := s.toUTF8.data.toList

end EnvSettings.Source
