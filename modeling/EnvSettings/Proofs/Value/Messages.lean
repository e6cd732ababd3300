/-
No message brings a control character with it. A message copies two kinds of text: the text that
could not be read, which is quoted wherever it stands, and words of the reading itself, which are
fixed but for a unit or a number. So what has to be looked at is the rest, the words that an error
carries unquoted (`ParseError.Confined`); every reading of a built-in type keeps control characters
out of them whatever the text is, and a list passes on the words of its element.
-/
import EnvSettings.Proofs.Naming.TypeName
import EnvSettings.Proofs.Registry.Builtins
import EnvSettings.Proofs.Text.Control
import Mathlib.Data.List.TakeWhile

namespace EnvSettings

open EnvSettings.Naming EnvSettings.Number EnvSettings.Time EnvSettings.Text

-- ================================================================= errors

namespace ParseError

/-- The words that the error carries unquoted have no control character. -/
def Confined : ParseError → Prop
  | .element _ _ source => source.Confined
  | .invalid _ reason => ControlFree reason
  | .custom message => ControlFree message
  | _ => True

end ParseError

theorem Number.IntFault.controlFree_message (fault : IntFault) : ControlFree fault.message := by
  cases fault <;> decide

theorem Number.FloatFault.controlFree_message (fault : FloatFault) : ControlFree fault.message := by
  cases fault <;> decide

theorem Time.Timestamp.Fault.controlFree_message (fault : Timestamp.Fault) :
    ControlFree fault.message := by
  cases fault <;> decide

theorem Time.Duration.Fault.controlFree_message (fault : Duration.Fault) :
    ControlFree fault.message := by
  cases fault with
  | unknownUnit unit =>
      exact controlFree_around (by decide : ControlFree "unknown unit ") (by decide) unit
  | _ => decide

namespace ParseError

/-- A message that says of a quoted text what is wrong with it. -/
theorem controlFree_parsing {value words : String} (hwords : ControlFree words) :
    ControlFree s!"parsing {quote value}: {words}" :=
  (controlFree_around (by decide) (by decide) value).append hwords

/-- A confined error has no control character in its words. -/
theorem controlFree_message {e : ParseError} (h : e.Confined) : ControlFree e.message := by
  induction e with
  | bool value =>
      exact controlFree_around (by decide : ControlFree "parsing ") (by decide) value
  | int value fault => exact controlFree_parsing fault.controlFree_message
  | float value fault => exact controlFree_parsing fault.controlFree_message
  | time value fault =>
      exact .append (controlFree_around (by decide : ControlFree "parsing time ") (by decide) value)
        fault.controlFree_message
  | element index value source ih =>
      have helement : ControlFree "element " := by decide
      have hspace : ControlFree " " := by decide
      have hplace := (helement.append (controlFree_toString index)).append hspace
      exact .append (controlFree_around hplace (by decide) value) (ih h)
  | invalid value reason => exact controlFree_parsing h
  | custom message => exact h

end ParseError

-- =============================================================== readings

namespace ByteSize

/-- No suffix of a size has a control character. -/
theorem isControl_of_mem_unit {suffix : List Char} {unit : Nat} (h : unitOf? suffix = some unit) :
    ∀ c ∈ suffix, isControl c = false := by
  unfold unitOf? at h
  split at h
  iterate 7 exact forall_isControl_of_all (by decide)
  cases h

/-- A size is refused as out of reach only if it is digits with a unit behind them. -/
theorem ofText_eq_overflow {input refused : String}
    (h : ofText input = .error (.overflow refused)) :
    refused = input ∧ ∃ unit, unitOf? (spanDigits input.toList).2 = some unit := by
  unfold ofText at h
  simp only at h
  split at h
  · cases h
  · split at h
    · cases h
    · next unit hunit =>
        refine ⟨?_, unit, hunit⟩
        split at h
        · split at h
          · cases h
          · cases h
            rfl
        · cases h

/-- The one text that a message shows without quotes is free of control characters of its own. -/
theorem controlFree_of_overflow {input refused : String}
    (h : ofText input = .error (.overflow refused)) : ControlFree refused := by
  obtain ⟨rfl, unit, hunit⟩ := ofText_eq_overflow h
  have hparts : refused.toList.takeWhile Char.isDigit ++ (spanDigits refused.toList).2
      = refused.toList := List.takeWhile_append_dropWhile
  intro c hc
  rw [← hparts] at hc
  rcases List.mem_append.mp hc with hc | hc
  · exact isControl_of_isDigit (List.mem_takeWhile_imp hc)
  · exact isControl_of_mem_unit hunit c hc

/-- What is wrong with a size is said without control characters. -/
theorem controlFree_message {input : String} {fault : Fault} (h : ofText input = .error fault) :
    ControlFree fault.message := by
  cases fault with
  | format input =>
      exact .append (controlFree_around (by decide : ControlFree "input ") (by decide) input)
        (by decide)
  | number input => exact controlFree_around (by decide : ControlFree "parsing ") (by decide) input
  | overflow input =>
      have hsize : ControlFree "size " := by decide
      have hbehind : ControlFree " overflows u64" := by decide
      exact (hsize.append (controlFree_of_overflow h)).append hbehind

end ByteSize

theorem confined_of_readBool {raw : String} {e : ParseError} (h : readBool raw = .error e) :
    e.Confined := by
  unfold readBool at h
  split at h
  · cases h
  · split at h
    · cases h
    · cases h
      trivial

theorem confined_of_readInt {type : IntType} {raw : String} {e : ParseError}
    (h : readInt type raw = .error e) : e.Confined := by
  unfold readInt at h
  split at h
  · cases h
  · cases h
    exact (by decide : ControlFree "invalid syntax")
  · cases h
    trivial

theorem confined_of_readFloat {format : FloatFormat} {raw : String} {e : ParseError}
    (h : readFloat format raw = .error e) : e.Confined := by
  unfold readFloat at h
  split at h
  · cases h
    trivial
  · split at h
    · cases h
      exact (by decide : ControlFree "value out of range")
    · cases h
  · cases h

theorem confined_of_readDuration {raw : String} {e : ParseError}
    (h : readDuration raw = .error e) : e.Confined := by
  unfold readDuration at h
  split at h
  · cases h
  · next fault _ =>
      cases h
      exact fault.controlFree_message

theorem confined_of_readTimestamp {calendar : Calendar} {raw : String} {e : ParseError}
    (h : readTimestamp calendar raw = .error e) : e.Confined := by
  unfold readTimestamp at h
  split at h
  · cases h
  · cases h
    exact (by decide : ControlFree "expected RFC 3339 timestamp like 2006-01-02T15:04:05Z")
  · cases h
    trivial

theorem confined_of_orInvalid {α : Type} {raw reason : String} (hreason : ControlFree reason)
    {a? : Option α} {e : ParseError} (h : orInvalid raw reason a? = .error e) : e.Confined := by
  cases a? with
  | some a => cases h
  | none =>
      cases h
      exact hreason

theorem confined_of_readByteSize {raw : String} {e : ParseError}
    (h : readByteSize raw = .error e) : e.Confined := by
  unfold readByteSize at h
  split at h
  · cases h
  · next fault hfault =>
      cases h
      exact ByteSize.controlFree_message hfault

/-- The errors of the readings of all scalars are confined. -/
theorem ScalarType.confined_of_read {calendar : Calendar} {s : ScalarType} {raw : String}
    {e : ParseError} (h : s.read calendar raw = .error e) : e.Confined := by
  cases s with
  | bool => exact confined_of_readBool h
  | string => cases h
  | int type => exact confined_of_readInt h
  | float format => exact confined_of_readFloat h
  | duration => exact confined_of_readDuration h
  | timestamp => exact confined_of_readTimestamp h
  | path => cases h
  | ip => exact confined_of_orInvalid (by decide) h
  | ipv4 => exact confined_of_orInvalid (by decide) h
  | ipv6 => exact confined_of_orInvalid (by decide) h
  | socket => exact confined_of_orInvalid (by decide) h
  | byteSize => exact confined_of_readByteSize h

theorem ScalarType.controlFree_name (s : ScalarType) : ControlFree s.name := by
  cases s with
  | int type =>
      obtain ⟨signed, width⟩ := type
      cases signed <;> cases width <;> decide
  | float format => cases format <;> decide
  | _ => decide

-- ================================================================== types

/-- An error of a list is that of one of the parts, with its place. -/
theorem readElements_eq_error {α : Type} {read : String → Except ParseError α} {index : Nat}
    {parts : List String} {e : ParseError} (h : readElements read index parts = .error e) :
    ∃ place part source, e = .element place part source ∧ read part = .error source := by
  induction parts generalizing index with
  | nil => cases h
  | cons part parts ih =>
      unfold readElements at h
      split at h
      · next source hsource =>
          cases h
          exact ⟨index, part, source, rfl, hsource⟩
      · split at h
        · next inner hinner =>
            cases h
            exact ih hinner
        · cases h

namespace TypeCode

variable {A : Type}

/-- Lists and options over the built-in types, however deep. -/
def BuiltIn : TypeCode A → Prop
  | .scalar _ => True
  | .app _ => False
  | .list t => t.BuiltIn
  | .option t => t.BuiltIn

instance BuiltIn.decide : (t : TypeCode A) → Decidable t.BuiltIn
  | .scalar _ => .isTrue trivial
  | .app _ => .isFalse id
  | .list t => BuiltIn.decide t
  | .option t => BuiltIn.decide t

variable [AppTypes A]

/-- The name of a built-in type has no control character. -/
theorem controlFree_name {t : TypeCode A} (ht : t.BuiltIn) : ControlFree t.name := by
  induction t with
  | scalar s => exact s.controlFree_name
  | app a => exact ht.elim
  | list t ih =>
      have hopening : ControlFree "alloc::vec::Vec<" := by decide
      exact (hopening.append (ih ht)).append (by decide)
  | option t ih =>
      have hopening : ControlFree "core::option::Option<" := by decide
      exact (hopening.append (ih ht)).append (by decide)

/-- Shortening takes characters of a name away and adds none. -/
theorem controlFree_shortTypeName {t : TypeCode A} (ht : t.BuiltIn) :
    ControlFree (shortTypeName t.name) := by
  refine .ofList fun c hc => ?_
  rcases mem_of_mem_shortenPaths hc with hpath | hname
  · exact absurd hpath List.not_mem_nil
  · exact controlFree_name ht c hname

/-- The errors of the reading of a built-in type are confined. -/
theorem confined_of_read {t : TypeCode A} (ht : t.BuiltIn) {raw : String} {e : ParseError}
    (h : t.read raw = .error e) : e.Confined := by
  induction t generalizing raw e with
  | scalar s => exact ScalarType.confined_of_read h
  | app a => exact ht.elim
  | list t ih =>
      obtain ⟨place, part, source, rfl, hsource⟩ := readElements_eq_error h
      have hwords : source.Confined := ih ht hsource
      exact hwords
  | option t ih =>
      unfold read at h
      split at h
      · cases h
      · next source hsource =>
          cases h
          exact ih ht hsource

variable [DecidableEq A] {registry : Registry A}

/-- With the converters that are there from the start as without any, an error of a built-in type
has a message without control characters. -/
theorem controlFree_of_decode (hregistry : registry = .empty ∨ registry = .builtins)
    {t : TypeCode A} (ht : t.BuiltIn) {raw : String} {e : ParseError}
    (h : t.decode registry raw = .error e) : ControlFree e.message := by
  rcases hregistry with rfl | rfl
  · rw [decode_empty] at h
    exact ParseError.controlFree_message (confined_of_read ht h)
  · rw [decode_builtins] at h
    cases hread : t.read raw with
    | ok v =>
        rw [hread] at h
        cases h
    | error source =>
        rw [hread] at h
        cases h
        rw [message_restate]
        exact ParseError.controlFree_message (confined_of_read ht hread)

/-- No decoding of a built-in type fails with a control character. -/
theorem controlFree_of_decodeField (hregistry : registry = .empty ∨ registry = .builtins)
    {byConverter : Bool} {t : TypeCode A} (ht : t.BuiltIn) {raw : String} {e : ParseError}
    (h : t.decodeField registry byConverter raw = .error e) : ControlFree e.message := by
  unfold decodeField at h
  split at h
  · cases hconvert : registry.convert? t raw with
    | none =>
        rw [hconvert] at h
        cases h
        have hlacking : ControlFree "no converter registered for " := by decide
        exact ParseError.controlFree_parsing (hlacking.append (controlFree_shortTypeName ht))
    | some result =>
        rw [hconvert] at h
        refine controlFree_of_decode hregistry ht ((decode_of_convert?_eq_some hconvert).trans h)
  · exact controlFree_of_decode hregistry ht h

end TypeCode

end EnvSettings
