/-
Two decodings of one schema from two sources. What a decoding makes of a leaf it makes of the
leaf's own variable: two passes over the same slots leave the same value in a leaf, and note the
same error or none for it, if the sources agree on its variable, whatever else they define and
whatever becomes of other leaves. An empty value and none are the same here.

So a source counts only by what it says of the variables of the schema, and a change of one
variable shows in the leaves that read it and nowhere else (`decode_locality`).
-/
import EnvSettings.Proofs.Decode.Answer

namespace EnvSettings

open EnvSettings.Source

/-- Two sources agree on a name: they give it the same value that counts, or both give none. -/
def Source.Agree (source other : Source) (name : String) : Prop :=
  present? (source.get name) = present? (other.get name)

variable {A : Type} [AppTypes A] [DecidableEq A] {s : Schema A}

-- ================================================================ passes

/-- A pass over the slots of a walk settles the leaves of the schema. -/
theorem Decoder.pass_eq (d : Decoder A) {slots : List (Slot A s.Config)}
    (hwalk : s.slots? d.stem d.registry = .ok slots) (start : s.Config) (source : Source) :
    d.pass s slots start source = d.filled s start source := by
  obtain ⟨-, rfl⟩ := Schema.slots?_eq_ok_iff.mp hwalk
  exact d.pass_slots s start source

section

variable {d : Decoder A} {start : s.Config} {source other : Source}

/-- In the end a leaf holds the same value in both passes if its variable has the same value. -/
theorem Decoder.read_filled_congr {l : s.Leaf} (hagree : source.Agree other (l.key d.stem)) :
    l.read (d.filled s start source).config = l.read (d.filled s start other).config := by
  have hsame : l.resolve d.registry d.stem start source = l.resolve d.registry d.stem start other :=
    Schema.Leaf.resolve_congr hagree
  cases hother : l.resolve d.registry d.stem start other with
  | ok v => rw [Decoder.read_filled (hsame.trans hother), Decoder.read_filled hother]
  | error fault =>
      rw [Decoder.read_filled_of_error (hsame.trans hother), Decoder.read_filled_of_error hother]

/-- An error that does not count is filtered out, be it there or not. -/
theorem Schema.Leaf.filter_valueError?_of_not {registry : Registry A} {stem : String}
    {start : s.Config} {source : Source} {p : String → Bool} {l : s.Leaf}
    (hp : p (l.key stem) = false) :
    (l.valueError? registry stem start source).filter (fun e => p e.key) = none := by
  unfold valueError?
  cases l.resolve registry stem start source with
  | ok v => rfl
  | error fault => simp [hp]

/-- In the end the errors for names on which the sources agree are the same, in the same order. -/
theorem Decoder.filter_errors_filled_congr {p : String → Bool}
    (hagree : ∀ name, p name = true → source.Agree other name) :
    (d.filled s start source).errors.filter (fun e => p e.key)
      = (d.filled s start other).errors.filter (fun e => p e.key) := by
  unfold Decoder.filled
  rw [List.filter_filterMap, List.filter_filterMap]
  refine List.filterMap_congr fun l _ => ?_
  cases hp : p (l.key d.stem) with
  | true => rw [Schema.Leaf.valueError?_congr (hagree _ hp)]
  | false =>
      rw [Schema.Leaf.filter_valueError?_of_not hp, Schema.Leaf.filter_valueError?_of_not hp]

/-- Sources that agree on the variables of the schema have the same answer, if unread names are no
matter. -/
theorem Decoder.decode_congr (hlenient : d.denyUnused = false)
    (hagree : ∀ l : s.Leaf, source.Agree other (l.key d.stem)) :
    d.decode s start source = d.decode s start other := by
  have herrors : (d.filled s start source).errors = (d.filled s start other).errors := by
    unfold Decoder.filled
    exact List.filterMap_congr fun l _ => Schema.Leaf.valueError?_congr (hagree l)
  have hconfig : (d.filled s start source).config = (d.filled s start other).config := by
    refine Schema.Config.ext (fun l => Decoder.read_filled_congr (hagree l)) fun k => ?_
    rw [Decoder.skipped_read_filled, Decoder.skipped_read_filled]
  rw [d.decode_eq, d.decode_eq, herrors, hconfig]
  simp only [hlenient, Bool.false_eq_true, false_and, if_false]

end

-- ============================================================== locality

/-- Locality. After a pass over the slots of a walk the errors are each leaf's own error or none,
in the order of the leaves; and a leaf on whose variable two sources agree holds the same value
and has the same error or none after both passes. So sources that agree on all variables of the
schema have the same answer, if unread names are no matter; and sources that differ in one
variable only come to the same, value by value and error by error, but for the leaves that read
it. -/
theorem decode_locality (s : Schema A) (registry : Registry A) (stem : String) (echo : Bool)
    (start : s.Config) {slots : List (Slot A s.Config)} (hwalk : s.slots? stem registry = .ok slots)
    (source other : Source) :
    let d : Decoder A := ⟨registry, stem, false, echo⟩
    let entry : Source → s.Leaf → Option ValueError :=
      Schema.Leaf.valueError? registry stem start
    (∀ given, (d.pass s slots start given).errors = s.leaves.filterMap (entry given))
      ∧ (∀ l : s.Leaf, source.Agree other (l.key stem) →
        l.read (d.pass s slots start source).config = l.read (d.pass s slots start other).config
          ∧ entry source l = entry other l)
      ∧ ((∀ l : s.Leaf, source.Agree other (l.key stem)) →
        d.decode s start source = d.decode s start other)
      ∧ ∀ changed, (∀ name, name ≠ changed → source.Agree other name) →
        (∀ l : s.Leaf, l.key stem ≠ changed →
            l.read (d.pass s slots start source).config
              = l.read (d.pass s slots start other).config)
          ∧ (∀ k : s.Skipped,
            k.read (d.pass s slots start source).config
              = k.read (d.pass s slots start other).config)
          ∧ (d.pass s slots start source).errors.filter (·.key ≠ changed)
            = (d.pass s slots start other).errors.filter (·.key ≠ changed) := by
  intro d entry
  have hpass : ∀ given, d.pass s slots start given = d.filled s start given :=
    d.pass_eq hwalk start
  simp only [hpass]
  refine ⟨fun given => rfl, fun l hl => ?_, fun hall => ?_, fun changed hrest => ?_⟩
  · exact ⟨Decoder.read_filled_congr hl, Schema.Leaf.valueError?_congr hl⟩
  · exact Decoder.decode_congr rfl hall
  · refine ⟨fun l hl => Decoder.read_filled_congr (hrest _ hl), fun k => ?_, ?_⟩
    · rw [Decoder.skipped_read_filled, Decoder.skipped_read_filled]
    · exact Decoder.filter_errors_filled_congr (p := fun name => name ≠ changed)
        fun name hname => hrest name (of_decide_eq_true hname)

/-- A value that becomes readable takes its own error away and leaves the one before it. -/
theorem decode_locality_worker :
    let d : Decoder Sample.AppCode := ⟨Sample.programRegistry, "JOB_", false, false⟩
    let start := Sample.worker.initial
    let before := ofBindings [("JOB_LEVEL", "high"), ("HOME", "/root")]
    let after := ofBindings [("JOB_LEVEL", "3"), ("HOME", "/root")]
    ∃ slots, Sample.worker.slots? "JOB_" Sample.programRegistry = .ok slots
      ∧ (d.pass Sample.worker slots start before).errors
        = [⟨"JOB_QUEUE_URL", .required⟩, ⟨"JOB_LEVEL", .invalid (.int "high" .invalidDigit)⟩]
      ∧ (∀ name, name ≠ "JOB_LEVEL" → before.Agree after name)
      ∧ (d.pass Sample.worker slots start after).errors.filter (·.key ≠ "JOB_LEVEL")
        = [⟨"JOB_QUEUE_URL", .required⟩] := by
  intro d start before after
  have hwalk : ∃ slots, Sample.worker.slots? "JOB_" Sample.programRegistry = .ok slots :=
    ⟨_, rfl⟩
  obtain ⟨slots, hslots⟩ := hwalk
  have hlocal := decode_locality Sample.worker Sample.programRegistry "JOB_" false start hslots
    before after
  have hagree : ∀ name, name ≠ "JOB_LEVEL" → before.Agree after name := by
    intro name hname
    have hother : "JOB_LEVEL" ≠ name := hname.symm
    simp [Source.Agree, before, after, ofBindings, Bindings.value?, hother]
  have herrors : (d.pass Sample.worker slots start before).errors
      = [⟨"JOB_QUEUE_URL", .required⟩, ⟨"JOB_LEVEL", .invalid (.int "high" .invalidDigit)⟩] := by
    rw [hlocal.1 before]
    decide +kernel
  refine ⟨slots, hslots, herrors, hagree, ?_⟩
  rw [← (hlocal.2.2.2 "JOB_LEVEL" hagree).2.2, herrors]
  decide

end EnvSettings
