/-
The converters that every program starts with say nothing new. They are the readings of their two
types, so that decoding by them comes to the same values as reading by the type alone, and where
it fails, to an error with the same words at the same places. Only what the error is made of
differs, and only for the two types: a converter's error is nothing but its words.

# The induction

Lists and options take a text apart in the decoding as in the reading. So it is enough to know how
the errors of the innermost type change (`TypeCode.restate`), provided that the change goes through
an error of a list to the element's own error (`TypeCode.restate_element`);
`TypeCode.decode_builtins` is the induction. What it says of a type carries over to a leaf, and from
the leaves to a decoding.
-/
import EnvSettings.Proofs.Decode.Unused
import EnvSettings.Proofs.Registry.History
import EnvSettings.Sample.Plain

namespace EnvSettings

open EnvSettings.Source EnvSettings.Time

-- ================================================================ errors

namespace ParseError

/-- Where an error arose: for every list around it, the outermost first, the index of the element
and the element's text. -/
def places : ParseError → List (Nat × String)
  | .element index value source => (index, value) :: source.places
  | _ => []

/-- The error inside all lists. -/
def root : ParseError → ParseError
  | .element _ _ source => source.root
  | e => e

/-- Changes the error inside all lists. -/
def mapRoot (change : ParseError → ParseError) : ParseError → ParseError
  | .element index value source => .element index value (source.mapRoot change)
  | e => change e

/-- Keeps of an error only its words. -/
def inWords (e : ParseError) : ParseError := .custom e.message

/-- An error of which only the words are kept says the same. -/
theorem message_mapRoot_inWords (e : ParseError) : (e.mapRoot inWords).message = e.message := by
  induction e with
  | element index value source ih =>
      exact congrArg (fun words => s!"element {index} {Text.quote value}: {words}") ih
  | _ => rfl

/-- An error of which only the words are kept arose at the same places. -/
theorem places_mapRoot_inWords (e : ParseError) : (e.mapRoot inWords).places = e.places := by
  induction e with
  | element index value source ih => rw [mapRoot, places, ih, places]
  | _ => rfl

theorem root_mapRoot_inWords (e : ParseError) : (e.mapRoot inWords).root = e.root.inWords := by
  induction e with
  | element index value source ih => rw [mapRoot, root, ih, root]
  | _ => rfl

end ParseError

variable {A : Type} [AppTypes A] [DecidableEq A]

-- ================================================================= types

namespace TypeCode

omit [AppTypes A] [DecidableEq A] in
/-- The type inside all lists and options. -/
def base : TypeCode A → TypeCode A
  | .list t => t.base
  | .option t => t.base
  | .scalar s => .scalar s
  | .app a => .app a

/-- The two types that have a converter from the start. -/
def HasBuiltin (t : TypeCode A) : Prop := t = .scalar .duration ∨ t = .scalar .timestamp

instance : DecidablePred (HasBuiltin (A := A)) := fun _ => inferInstanceAs (Decidable (_ ∨ _))

/-- What becomes of an error of the type's own reading when the converters that are there from the
start do the reading. -/
def restate (t : TypeCode A) : ParseError → ParseError :=
  if t.base.HasBuiltin then .mapRoot .inWords else id

end TypeCode

-- ============================================================= decoding

/-- A change that goes through an error of a list changes the errors of the elements. -/
theorem readElements_mapError {α : Type} (read : String → Except ParseError α)
    {change : ParseError → ParseError}
    (hchange : ∀ index part e, change (.element index part e) = .element index part (change e))
    (index : Nat) (parts : List String) :
    readElements (fun part => (read part).mapError change) index parts
      = (readElements read index parts).mapError change := by
  induction parts generalizing index with
  | nil => rfl
  | cons part parts ih =>
      rw [readElements, readElements, ih]
      cases read part with
      | error e => exact congrArg Except.error (hchange index part e).symm
      | ok v =>
          simp only [Except.mapError]
          cases readElements read (index + 1) parts with
          | error e => rfl
          | ok vs => rfl

namespace TypeCode

omit [AppTypes A] in
/-- An error of a list is restated by restating the error of its element. -/
theorem restate_element (t : TypeCode A) (index : Nat) (part : String) (e : ParseError) :
    t.restate (.element index part e) = .element index part (t.restate e) := by
  unfold restate
  split
  · rfl
  · rfl

omit [AppTypes A] in
/-- A restated error says the same. -/
theorem message_restate (t : TypeCode A) (e : ParseError) :
    (t.restate e).message = e.message := by
  unfold restate
  split
  · exact e.message_mapRoot_inWords
  · rfl

omit [AppTypes A] in
/-- A restated error arose at the same places. -/
theorem places_restate (t : TypeCode A) (e : ParseError) : (t.restate e).places = e.places := by
  unfold restate
  split
  · exact e.places_mapRoot_inWords
  · rfl

omit [AppTypes A] in
/-- Of the error inside all lists the words are kept if the type inside has a converter. -/
theorem root_restate (t : TypeCode A) (e : ParseError) :
    (t.restate e).root = if t.base.HasBuiltin then e.root.inWords else e.root := by
  unfold restate
  split
  · exact e.root_mapRoot_inWords
  · rfl

/-- Without any converter a type is decoded by its own reading. -/
theorem decode_empty (t : TypeCode A) (raw : String) : t.decode .empty raw = t.read raw := by
  induction t generalizing raw with
  | scalar s => rfl
  | app a => rfl
  | list t ih =>
      have hinner : t.decode .empty = t.read := funext ih
      exact congrArg (fun decode => readElements decode 0 (splitCommas raw)) hinner
  | option t ih =>
      have hinner : t.decode .empty = t.read := funext ih
      rw [read, ← hinner]
      rfl

/-- No other type has a converter from the start. -/
theorem convert?_builtins_of_not {t : TypeCode A} (h : ¬ t.HasBuiltin) (raw : String) :
    Registry.builtins.convert? t raw = none := by
  have hnone : Registry.builtins.converter? t = none := by
    unfold Registry.builtins
    rw [Registry.converter?_register_of_ne _ _ fun htype => h (.inr htype.symm),
      Registry.converter?_register_of_ne _ _ fun htype => h (.inl htype.symm),
      Registry.converter?_empty]
  rw [Registry.convert?_eq, hnone]
  rfl

/-- The converter for durations is their reading, whose errors are inside no list. -/
theorem convert?_builtins_duration (raw : String) :
    (Registry.builtins : Registry A).convert? (.scalar .duration) raw
      = some ((readDuration raw).mapError (.mapRoot .inWords)) := by
  have hconverter : (Registry.builtins : Registry A).converter? (.scalar .duration)
      = some (Registry.ofReading readDuration) := by
    unfold Registry.builtins
    rw [Registry.converter?_register_of_ne _ _ (by simp)]
    exact Registry.converter?_register_self _ _ _
  have hwords : (Registry.ofReading readDuration raw).mapError ParseError.custom
      = (readDuration raw).mapError (.mapRoot .inWords) := by
    unfold Registry.ofReading readDuration
    cases Duration.read raw.toList with
    | ok d => rfl
    | error fault => rfl
  rw [Registry.convert?_eq, hconverter]
  exact congrArg some hwords

/-- The converter for instants is their reading, whose errors are inside no list. -/
theorem convert?_builtins_timestamp (raw : String) :
    (Registry.builtins : Registry A).convert? (.scalar .timestamp) raw
      = some ((readTimestamp (AppTypes.calendar A) raw).mapError (.mapRoot .inWords)) := by
  have hconverter : (Registry.builtins : Registry A).converter? (.scalar .timestamp)
      = some (Registry.ofReading (readTimestamp (AppTypes.calendar A))) :=
    Registry.converter?_register_self _ _ _
  have hwords : (Registry.ofReading (readTimestamp (AppTypes.calendar A)) raw).mapError
      ParseError.custom
        = (readTimestamp (AppTypes.calendar A) raw).mapError (.mapRoot .inWords) := by
    unfold Registry.ofReading readTimestamp
    cases Timestamp.read (AppTypes.calendar A) raw with
    | ok t => rfl
    | error fault =>
        cases fault with
        | shape => rfl
        | content fault => rfl
  rw [Registry.convert?_eq, hconverter]
  exact congrArg some hwords

/-- Decoding by the converters that are there from the start is reading, with errors that say the
same. -/
theorem decode_builtins (t : TypeCode A) (raw : String) :
    t.decode .builtins raw = (t.read raw).mapError t.restate := by
  induction t generalizing raw with
  | scalar s =>
      by_cases hbuiltin : (TypeCode.scalar s : TypeCode A).HasBuiltin
      · rw [restate, base, if_pos hbuiltin]
        rcases hbuiltin with h | h
        · cases h
          rw [decode, convert?_builtins_duration]
          rfl
        · cases h
          rw [decode, convert?_builtins_timestamp]
          rfl
      · rw [restate, base, if_neg hbuiltin, decode, convert?_builtins_of_not hbuiltin, read]
        cases s.read (AppTypes.calendar A) raw with
        | ok v => rfl
        | error e => rfl
  | app a =>
      have hbuiltin : ¬ (TypeCode.app a).HasBuiltin := by simp [HasBuiltin]
      rw [restate, base, if_neg hbuiltin, decode, convert?_builtins_of_not hbuiltin]
      show (TypeCode.app a).read raw = _
      cases (TypeCode.app a).read raw with
      | ok v => rfl
      | error e => rfl
  | list t ih =>
      have hinner : t.decode .builtins = fun part => (t.read part).mapError t.restate :=
        funext ih
      rw [decode, convert?_builtins_of_not (by simp [HasBuiltin]), hinner]
      exact readElements_mapError t.read t.restate_element 0 (splitCommas raw)
  | option t ih =>
      rw [decode, convert?_builtins_of_not (by simp [HasBuiltin]), ih, read]
      cases t.read raw with
      | ok v => rfl
      | error e => rfl

end TypeCode

-- ======================================================= leaf by leaf

/-- What becomes of a fault when the errors in it are restated. -/
def ValueFault.restate (change : ParseError → ParseError) : ValueFault → ValueFault
  | .required => .required
  | .invalid e => .invalid (change e)
  | .default text e => .default text (change e)

/-- A fault says the same if the errors in it do. -/
theorem ValueFault.message_restate {change : ParseError → ParseError}
    (hchange : ∀ e, (change e).message = e.message) (fault : ValueFault) :
    (fault.restate change).message = fault.message := by
  cases fault with
  | required => rfl
  | invalid e => exact hchange e
  | default text e =>
      exact congrArg (fun words => s!"setting default value {Text.quote text}: {words}") (hchange e)

variable {s : Schema A}

/-- The schema has no value that counts on a converter. -/
def Schema.ReadsItself (s : Schema A) : Prop :=
  ∀ f ∈ s.fields [], ∀ type rule, f.form ≠ .value type true rule

namespace Schema.Leaf

variable (hreads : s.ReadsItself) (stem : String) (start : s.Config) (source : Source) (l : s.Leaf)

include hreads

/-- A leaf that does not count on a converter is decoded as its type is. -/
theorem decode_eq_of_readsItself (registry : Registry A) (raw : String) :
    l.decode registry raw = l.type.decode registry raw := by
  have hown : l.form.byConverter = false := by
    have hform := hreads _ (l.mem_fields []) l.type l.rule
    cases hcounts : l.form.byConverter with
    | false => rfl
    | true => exact absurd (by rw [hcounts]) hform
  unfold decode TypeCode.decodeField
  rw [hown]
  rfl

/-- A leaf comes to the same value with the converters as without, or to a fault that says the
same. -/
theorem resolve_builtins :
    l.resolve .builtins stem start source
      = (l.resolve .empty stem start source).mapError (ValueFault.restate l.type.restate) := by
  have hdecode : ∀ raw,
      l.decode .builtins raw = (l.decode .empty raw).mapError l.type.restate := by
    intro raw
    rw [l.decode_eq_of_readsItself hreads, l.decode_eq_of_readsItself hreads,
      TypeCode.decode_builtins, TypeCode.decode_empty]
  unfold resolve
  simp only [hdecode]
  cases present? (source.get (l.key stem)) with
  | some text =>
      simp only
      cases l.decode .empty text with
      | ok v => rfl
      | error e => rfl
  | none =>
      simp only
      split
      · rfl
      · cases l.rule.default? with
        | none => rfl
        | some text =>
            simp only
            cases l.decode .empty text with
            | ok v => rfl
            | error e => rfl

/-- Settling a leaf comes to the same configuration with the converters as without. -/
theorem settle_builtins (c : s.Config) :
    l.settle .builtins stem start source c = l.settle .empty stem start source c := by
  unfold settle
  rw [l.resolve_builtins hreads]
  cases l.resolve .empty stem start source with
  | ok v => rfl
  | error fault => rfl

/-- A leaf has an error with the converters exactly if it has one without, and the two name the
same variable and say the same. -/
theorem map_message_valueError?_builtins :
    (l.valueError? .builtins stem start source).map (fun e => (e.key, e.message))
      = (l.valueError? .empty stem start source).map fun e => (e.key, e.message) := by
  unfold valueError?
  rw [l.resolve_builtins hreads]
  cases l.resolve .empty stem start source with
  | ok v => rfl
  | error fault =>
      have hwords := fault.message_restate l.type.message_restate
      simp only [Except.mapError, Option.map_some, ValueError.message, hwords]

end Schema.Leaf

-- ============================================================ decodings

/-- The answers say the same: one error of the schema or one list of names, or errors of the same
variables with the same messages. -/
inductive DecodeError.SaysSame : DecodeError → DecodeError → Prop
  | schema (e : SchemaError) : SaysSame (.schema e) (.schema e)
  | values {errors others : List ValueError}
      (same : errors.map (fun e => (e.key, e.message)) = others.map fun e => (e.key, e.message)) :
      SaysSame (.values errors) (.values others)
  | unused (names : List String) : SaysSame (.unused names) (.unused names)

/-- What is wrong with a schema does not depend on the registry if no value counts on a
converter. -/
theorem Schema.firstError?_of_readsItself (hreads : s.ReadsItself) (registry other : Registry A) :
    s.firstError? registry [] = s.firstError? other [] := by
  have hfield : ∀ f ∈ s.fields [], f.error? registry = f.error? other := by
    intro f hf
    obtain ⟨above, name, form⟩ := f
    unfold Field.error?
    cases form with
    | value type byConverter rule =>
        cases byConverter with
        | false => rfl
        | true => exact absurd rfl (hreads _ hf type rule)
    | group rule => rfl
    | pointer typeName => rfl
    | skip => rfl
  unfold firstError?
  rw [← List.head?_filterMap, ← List.head?_filterMap, List.filterMap_congr hfield]

section

variable (hreads : s.ReadsItself) (stem : String) (strict echo : Bool) (start : s.Config)
  (source : Source)

include hreads

/-- A pass ends in the same configuration with the converters as without. -/
theorem Decoder.config_filled_builtins :
    ((Decoder.mk .builtins stem strict echo).filled s start source).config
      = ((Decoder.mk .empty stem strict echo).filled s start source).config := by
  have hsettle : ∀ (c : s.Config) (l : s.Leaf),
      l.settle .builtins stem start source c = l.settle .empty stem start source c :=
    fun c l => l.settle_builtins hreads stem start source c
  unfold Decoder.filled
  simp only [funext fun c => funext (hsettle c)]

/-- The errors of a pass say the same with the converters as without. -/
theorem Decoder.map_message_errors_filled_builtins :
    ((Decoder.mk .builtins stem strict echo).filled s start source).errors.map
        (fun e => (e.key, e.message))
      = ((Decoder.mk .empty stem strict echo).filled s start source).errors.map
          fun e => (e.key, e.message) := by
  unfold Decoder.filled
  rw [List.map_filterMap, List.map_filterMap]
  exact List.filterMap_congr fun l _ => l.map_message_valueError?_builtins hreads stem start source

/-- With the converters as without there is the same configuration, or there are errors that say
the same. -/
theorem Decoder.decode_builtins_alike :
    let plain := (Decoder.mk .empty stem strict echo).decode s start source
    let converted := (Decoder.mk .builtins stem strict echo).decode s start source
    (∃ c, plain = .ok c ∧ converted = .ok c)
      ∨ ∃ e e', plain = .error e ∧ converted = .error e' ∧ e.SaysSame e' := by
  intro plain converted
  have hplain : plain = _ := Decoder.decode_eq _ _ _ _
  have hconverted : converted = _ := Decoder.decode_eq _ _ _ _
  have hsame := Decoder.map_message_errors_filled_builtins hreads stem strict echo start source
  have hunread : (Decoder.mk .builtins stem strict echo).unread
        ((Decoder.mk .builtins stem strict echo).filled s start source)
      = (Decoder.mk .empty stem strict echo).unread
        ((Decoder.mk .empty stem strict echo).filled s start source) := by
    rw [Decoder.unread_filled, Decoder.unread_filled]
  rw [s.firstError?_of_readsItself hreads .builtins .empty, hunread,
    Decoder.config_filled_builtins hreads] at hconverted
  generalize ((Decoder.mk .builtins stem strict echo).filled s start source).errors = others
    at hconverted hsame
  generalize ((Decoder.mk .empty stem strict echo).filled s start source).errors = errors
    at hplain hsame
  cases hfirst : s.firstError? .empty [] with
  | some e =>
      simp only [hfirst] at hplain hconverted
      exact Or.inr ⟨_, _, hplain, hconverted, .schema e⟩
  | none =>
      simp only [hfirst] at hplain hconverted
      by_cases herrors : errors = []
      · have hothers : others = [] := by
          rw [herrors, List.map_nil, List.map_eq_nil_iff] at hsame
          exact hsame
        simp only [herrors, hothers, ne_eq, not_true, if_false] at hplain hconverted
        split at hplain
        · next hstrict =>
            rw [if_pos hstrict] at hconverted
            exact Or.inr ⟨_, _, hplain, hconverted, .unused _⟩
        · next hstrict =>
            rw [if_neg hstrict] at hconverted
            exact Or.inl ⟨_, hplain, hconverted⟩
      · have hothers : others ≠ [] := by
          rintro rfl
          exact herrors (List.map_eq_nil_iff.mp hsame.symm)
        rw [if_pos herrors] at hplain
        rw [if_pos hothers] at hconverted
        exact Or.inr ⟨_, _, hplain, hconverted, .values hsame.symm⟩

end

/-- The converters that are there from the start say nothing new. Without any converter a text is
decoded as its type reads it. With these converters it is decoded to the same values; and where the
reading fails, the error has the same words and arose at the same places, and it is the same error
but for durations and instants, of whose error the words alone are kept. So a schema in which no
value counts on a converter is decoded from every source to the same configuration with these
converters as without any, or to errors that say the same of the same variables. -/
theorem decode_builtins_says_same :
    (∀ (t : TypeCode A) (raw : String),
        t.decode .empty raw = t.read raw
          ∧ (∀ v, t.decode .builtins raw = .ok v ↔ t.read raw = .ok v)
          ∧ ∀ e, t.read raw = .error e →
            ∃ e', t.decode .builtins raw = .error e' ∧ e'.message = e.message
              ∧ e'.places = e.places
              ∧ e'.root = if t.base.HasBuiltin then .custom e.root.message else e.root)
      ∧ ∀ s : Schema A, s.ReadsItself → ∀ (stem : String) (strict echo : Bool) (start : s.Config)
          (source : Source),
        let plain := (Decoder.mk .empty stem strict echo).decode s start source
        let converted := (Decoder.mk .builtins stem strict echo).decode s start source
        (∃ c, plain = .ok c ∧ converted = .ok c)
          ∨ ∃ e e', plain = .error e ∧ converted = .error e' ∧ e.SaysSame e' := by
  refine ⟨fun t raw => ⟨t.decode_empty raw, fun v => ?_, fun e he => ?_⟩,
    fun s hreads stem strict echo start source => ?_⟩
  · rw [t.decode_builtins]
    cases t.read raw with
    | ok w => exact Iff.rfl
    | error e => simp [Except.mapError]
  · refine ⟨t.restate e, ?_, t.message_restate e, t.places_restate e, t.root_restate e⟩
    rw [t.decode_builtins, he]
    rfl
  · exact Decoder.decode_builtins_alike hreads stem strict echo start source

/-- The second element of a list of durations fails: the error is at the same place and says the
same, and inside the list only its words are left. -/
theorem decode_builtins_says_same_durations :
    let t : TypeCode Empty := .list (.option (.scalar .duration))
    t.read "1s,soon" = .error (.element 1 "soon" (.invalid "soon" "invalid duration"))
      ∧ ∃ e', t.decode .builtins "1s,soon" = .error e'
        ∧ e'.message = "element 1 \"soon\": parsing \"soon\": invalid duration"
        ∧ e'.places = [(1, "soon")]
        ∧ e'.root = .custom "parsing \"soon\": invalid duration" := by
  intro t
  have hread : t.read "1s,soon"
      = .error (.element 1 "soon" (.invalid "soon" "invalid duration")) := by
    have hparts : splitCommas "1s,soon" = ["1s", "soon"] := by decide +kernel
    have hfirst : readDuration "1s" = .ok ⟨1000000000⟩ := by decide +kernel
    have hsecond : readDuration "soon" = .error (.invalid "soon" "invalid duration") := by
      decide +kernel
    simp only [t, TypeCode.read, ScalarType.read, hparts, readElements, hfirst, hsecond]
    rfl
  refine ⟨hread, ?_⟩
  obtain ⟨e', hdecode, hmessage, hplaces, hroot⟩ :=
    (decode_builtins_says_same.1 t "1s,soon").2.2 _ hread
  refine ⟨e', hdecode, ?_, hplaces, ?_⟩
  · rw [hmessage]
    decide +kernel
  · have hbuiltin : t.base.HasBuiltin := Or.inl rfl
    rw [hroot, if_pos hbuiltin]
    decide +kernel

end EnvSettings
