/-
What a decoding answers.

The first answer is about a schema that is fine: each leaf counts for itself
(`decode_leaf_by_leaf`), so there is a configuration exactly if every leaf comes to a value, and
else there is one error for each leaf that does not. The second is about a schema that is not:
the first bad field decides (`decode_first_bad_field`), before the source is asked anything.
-/
import EnvSettings.Proofs.Decode.Pass
import EnvSettings.Sample.Records

namespace EnvSettings

open EnvSettings.Source

variable {A : Type} [AppTypes A] [DecidableEq A] {s : Schema A} {registry : Registry A}

-- ======================================================= a schema is fine

/-- A walk succeeds exactly if no field is bad. -/
theorem Schema.slots?_ok_iff {stem : String} :
    (∃ slots, s.slots? stem registry = .ok slots) ↔ s.firstError? registry [] = none := by
  simp only [Schema.slots?_eq_ok_iff, exists_and_left, exists_eq', and_true]

section

variable (hfine : s.firstError? registry [] = none) {stem : String} {echo : Bool} {start : s.Config}
  {source : Source}

include hfine

/-- The answer when unread names are no matter. -/
theorem Decoder.decode_lenient :
    (Decoder.mk registry stem false echo).decode s start source
      = if ((Decoder.mk registry stem false echo).filled s start source).errors ≠ [] then
          .error (.values ((Decoder.mk registry stem false echo).filled s start source).errors)
        else .ok ((Decoder.mk registry stem false echo).filled s start source).config := by
  rw [Decoder.decode_eq, hfine]
  simp only [Bool.false_eq_true, false_and, if_false]

/-- There is a configuration exactly if every leaf comes to a value. -/
theorem Decoder.exists_decode_eq_ok_iff :
    (∃ c, (Decoder.mk registry stem false echo).decode s start source = .ok c)
      ↔ ∀ l : s.Leaf, ∃ v, l.resolve registry stem start source = .ok v := by
  rw [← Decoder.filled_errors_eq_nil_iff (d := ⟨registry, stem, false, echo⟩),
    Decoder.decode_lenient hfine]
  constructor
  · rintro ⟨c, hc⟩
    by_contra herrors
    rw [if_pos herrors] at hc
    cases hc
  · intro herrors
    exact ⟨_, if_neg (not_not.mpr herrors)⟩

/-- The configuration is the one in which every leaf holds what it comes to and every skipped
field what it holds at the start. -/
theorem Decoder.decode_eq_ok_iff {c : s.Config} :
    (Decoder.mk registry stem false echo).decode s start source = .ok c
      ↔ (∀ l : s.Leaf, l.resolve registry stem start source = .ok (l.read c))
        ∧ ∀ k : s.Skipped, k.read c = k.read start := by
  have hread : ∀ {l : s.Leaf} {v : l.type.Value}, l.resolve registry stem start source = .ok v →
      l.read ((Decoder.mk registry stem false echo).filled s start source).config = v :=
    fun hv => Decoder.read_filled (d := ⟨registry, stem, false, echo⟩) hv
  have hskip : ∀ k : s.Skipped,
      k.read ((Decoder.mk registry stem false echo).filled s start source).config = k.read start :=
    fun k => Decoder.skipped_read_filled (d := ⟨registry, stem, false, echo⟩) k
  constructor
  · intro hc
    have hresolve := (Decoder.exists_decode_eq_ok_iff hfine).mp ⟨c, hc⟩
    have herrors :=
      Decoder.filled_errors_eq_nil_iff (d := ⟨registry, stem, false, echo⟩).mpr hresolve
    rw [Decoder.decode_lenient hfine, if_neg (not_not.mpr herrors)] at hc
    cases hc
    refine ⟨fun l => ?_, hskip⟩
    obtain ⟨v, hv⟩ := hresolve l
    rw [hread hv, hv]
  · rintro ⟨hleaves, hskipped⟩
    have herrors := Decoder.filled_errors_eq_nil_iff (d := ⟨registry, stem, false, echo⟩).mpr
      fun l => ⟨_, hleaves l⟩
    rw [Decoder.decode_lenient hfine, if_neg (not_not.mpr herrors)]
    -- the two configurations agree on all that a configuration has
    refine congrArg Except.ok (Schema.Config.ext (fun l => hread (hleaves l)) fun k => ?_)
    rw [hskip k, hskipped k]

/-- An error is the list of the errors of the leaves, and the list is not empty. -/
theorem Decoder.decode_eq_error_iff {e : DecodeError} :
    (Decoder.mk registry stem false echo).decode s start source = .error e
      ↔ s.leaves.filterMap (Schema.Leaf.valueError? registry stem start source) ≠ []
        ∧ e = .values (s.leaves.filterMap (Schema.Leaf.valueError? registry stem start source)) := by
  rw [Decoder.decode_lenient hfine]
  show _ ↔ ((Decoder.mk registry stem false echo).filled s start source).errors ≠ []
    ∧ e = .values ((Decoder.mk registry stem false echo).filled s start source).errors
  by_cases herrors : ((Decoder.mk registry stem false echo).filled s start source).errors ≠ []
  · rw [if_pos herrors]
    constructor
    · intro he
      cases he
      exact ⟨herrors, rfl⟩
    · rintro ⟨-, rfl⟩
      rfl
  · rw [if_neg herrors]
    constructor
    · intro he
      cases he
    · rintro ⟨h, -⟩
      exact absurd h herrors

end

/-- If the schema is fine, the value errors are those of the leaves that fail, if there are any. -/
theorem Decoder.decode_eq_values_iff {d : Decoder A} (hfine : s.firstError? d.registry [] = none)
    {start : s.Config} {source : Source} {errors : List ValueError} :
    d.decode s start source = .error (.values errors)
      ↔ errors = s.leaves.filterMap (Schema.Leaf.valueError? d.registry d.stem start source)
        ∧ errors ≠ [] := by
  constructor
  · intro hanswer
    cases Decoder.decode_eq_iff_ends.mp hanswer with
    | values fine failed => exact ⟨rfl, failed⟩
  · rintro ⟨rfl, hne⟩
    exact (Decoder.Ends.values hfine hne).decode_eq

/-- Decoding leaf by leaf. If the walk over a schema succeeds, there is a configuration exactly
if every leaf comes to a value on its own; it is then the one in which every leaf holds that
value and every skipped field what it holds at the start. Otherwise the answer is the errors of the
leaves that fail, one for each, in the order of the leaves. -/
theorem decode_leaf_by_leaf (s : Schema A) (registry : Registry A) (stem : String) (echo : Bool)
    (start : s.Config) (source : Source) (hwalk : ∃ slots, s.slots? stem registry = .ok slots) :
    ((∃ c, (Decoder.mk registry stem false echo).decode s start source = .ok c)
        ↔ ∀ l : s.Leaf, ∃ v, l.resolve registry stem start source = .ok v)
      ∧ (∀ c, (Decoder.mk registry stem false echo).decode s start source = .ok c
        ↔ (∀ l : s.Leaf, l.resolve registry stem start source = .ok (l.read c))
          ∧ ∀ k : s.Skipped, k.read c = k.read start)
      ∧ (∀ e, (Decoder.mk registry stem false echo).decode s start source = .error e
        ↔ s.leaves.filterMap (Schema.Leaf.valueError? registry stem start source) ≠ []
          ∧ e = .values (s.leaves.filterMap (Schema.Leaf.valueError? registry stem start source)))
      ∧ s.leaves.Nodup ∧ ∀ l : s.Leaf, l ∈ s.leaves := by
  have hfine := Schema.slots?_ok_iff.mp hwalk
  refine ⟨Decoder.exists_decode_eq_ok_iff hfine, fun c => ?_, fun e => ?_, s.leaves_nodup,
    Schema.mem_leaves⟩
  · exact Decoder.decode_eq_ok_iff hfine
  · exact Decoder.decode_eq_error_iff hfine

/-- A required value that is missing, a value that cannot be read, and another one in a group
that its converter refuses: three errors, and none for the leaves that have a default. -/
theorem decode_leaf_by_leaf_worker :
    (∃ slots, Sample.worker.slots? "JOB_" Sample.programRegistry = .ok slots)
      ∧ (Decoder.mk Sample.programRegistry "JOB_" false true).decode Sample.worker
          Sample.worker.initial (ofBindings [("JOB_LEVEL", "high"), ("JOB_RETRY_BACK_OFF", "soon")])
        = .error (.values [⟨"JOB_QUEUE_URL", .required⟩,
            ⟨"JOB_LEVEL", .invalid (.int "high" .invalidDigit)⟩,
            ⟨"JOB_RETRY_BACK_OFF", .invalid (.custom "parsing \"soon\": invalid duration")⟩]) := by
  have hwalk : ∃ slots, Sample.worker.slots? "JOB_" Sample.programRegistry = .ok slots :=
    ⟨_, rfl⟩
  refine ⟨hwalk, ?_⟩
  have hanswer := decode_leaf_by_leaf Sample.worker Sample.programRegistry "JOB_" true
    Sample.worker.initial (ofBindings [("JOB_LEVEL", "high"), ("JOB_RETRY_BACK_OFF", "soon")]) hwalk
  refine (hanswer.2.2.1 _).mpr ⟨?_, ?_⟩
  · decide +kernel
  · decide +kernel

-- =================================================== a schema is not fine

/-- The answer is an error of the schema exactly if there is a first bad field. -/
theorem Decoder.decode_eq_schemaError_iff {d : Decoder A} {start : s.Config} {source : Source}
    {e : SchemaError} :
    d.decode s start source = .error (.schema e) ↔ s.firstError? d.registry [] = some e := by
  constructor
  · intro hanswer
    cases Decoder.decode_eq_iff_ends.mp hanswer with
    | schema bad => exact bad
  · exact fun hbad => (Decoder.Ends.schema hbad).decode_eq

/-- The first error of a schema whose names are not empty names the first bad field by the names
from the root. -/
theorem Schema.firstError?_eq_some_iff_path (hnames : ∀ f ∈ s.fields [], f.name ≠ "")
    {e : SchemaError} :
    s.firstError? registry [] = some e
      ↔ ∃ before f after, s.fields [] = before ++ f :: after
        ∧ (∀ g ∈ before, ∀ fault, ¬ g.form.Bad registry fault)
        ∧ f.form.Bad registry e.fault ∧ e.path = ".".intercalate f.path := by
  rw [Schema.firstError?_eq_some_iff]
  refine exists_congr fun before => exists_congr fun f => exists_congr fun after => ?_
  refine and_congr_right fun hfields => ?_
  have hf : f ∈ s.fields [] := by rw [hfields]; simp
  have habove : "" ∉ f.above := by
    intro hempty
    rcases Schema.name_of_mem_above hf hempty with h | ⟨g, hg, hgname⟩
    · cases h
    · exact hnames g hg hgname
  have hpath := SchemaError.ofField_path habove f.name e.fault
  have he : e = .ofField f.above f.name e.fault ↔ e.path = ".".intercalate f.path := by
    rw [Field.path, ← hpath]
    constructor
    · exact congrArg SchemaError.path
    · intro h
      obtain ⟨path, fault⟩ := e
      simp only at h
      rw [h]
      rfl
  rw [he]
  tauto

/-- Errors of the schema. Whatever the stem, the source and the strictness, the answer is such
an error exactly if some field is bad; it speaks of the first bad field in the order of the
fields, a group before the fields in it, and gives its names from the root and its fault; and
the source has not been asked anything. -/
theorem decode_first_bad_field (s : Schema A) (registry : Registry A)
    (hnames : ∀ f ∈ s.fields [], f.name ≠ "") (stem : String) (strict echo : Bool)
    (start : s.Config) (source : Source) :
    ((∃ e, (Decoder.mk registry stem strict echo).decode s start source = .error (.schema e))
        ↔ ∃ f ∈ s.fields [], ∃ fault, f.form.Bad registry fault)
      ∧ (∀ e, (Decoder.mk registry stem strict echo).decode s start source = .error (.schema e)
        ↔ ∃ before f after, s.fields [] = before ++ f :: after
          ∧ (∀ g ∈ before, ∀ fault, ¬ g.form.Bad registry fault)
          ∧ f.form.Bad registry e.fault ∧ e.path = ".".intercalate f.path)
      ∧ (∀ e, (Decoder.mk registry stem strict echo).decode s start source = .error (.schema e)
        → ((Decoder.mk registry stem strict echo).run s start source).calls = []
          ∧ ∀ stem' strict' echo' start' source',
            (Decoder.mk registry stem' strict' echo').decode s start' source'
              = .error (.schema e)) := by
  refine ⟨?_, fun e => ?_, fun e he => ⟨?_, fun stem' strict' echo' start' source' => ?_⟩⟩
  · simp only [Decoder.decode_eq_schemaError_iff]
    rw [← Option.ne_none_iff_exists', Ne, Schema.firstError?_eq_none_iff]
    push Not
    rfl
  · rw [Decoder.decode_eq_schemaError_iff]
    exact Schema.firstError?_eq_some_iff_path hnames
  · rw [Decoder.run_eq, Decoder.decode_eq_schemaError_iff.mp he]
  · have hfirst : s.firstError? registry [] = some e := Decoder.decode_eq_schemaError_iff.mp he
    exact Decoder.decode_eq_schemaError_iff.mpr hfirst

/-- A value in a group comes before a pointer behind the group, and a value that is required and
has a default is not asked for its converter. -/
theorem decode_first_bad_field_in_group :
    let s : Schema Sample.AppCode :=
      .group "store" .plain (.value "tag" (.app .tag) true ⟨true, some "x", ""⟩ .done) <|
      .pointer "next" "Box<Store>" .done
    (∀ f ∈ s.fields [], f.name ≠ "")
      ∧ (Decoder.mk Registry.builtins "" true false).decode s s.initial (ofBindings [("NEXT", "1")])
        = .error (.schema ⟨"store.tag", .requiredWithDefault⟩) := by
  intro s
  have hnames : ∀ f ∈ s.fields [], f.name ≠ "" := by decide
  refine ⟨hnames, ?_⟩
  have hanswer := decode_first_bad_field s Registry.builtins hnames "" true false s.initial
    (ofBindings [("NEXT", "1")])
  refine (hanswer.2.1 _).mpr ?_
  refine ⟨[⟨[], "store", .group .plain⟩], ⟨["store"], "tag", _⟩, _, rfl, ?_, ?_, by decide⟩
  · intro g hg fault hbad
    rw [List.mem_singleton.mp hg] at hbad
    cases hbad with
    | requiredGroup required => cases required
    | defaultOnGroup _ given => cases given
  · exact .requiredWithDefault rfl (by decide) rfl

end EnvSettings
