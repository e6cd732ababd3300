/-
A documentation and a decoding agree. Both start from a walk of their own and take different
things from it, the one what the slots say, the other what they do; so what is documented is
what is read only because both walks are about the same leaves (`Schema.describe_eq` here, and
`Decoder.run_eq` for the decoding).

A reader of a documentation also wants to know what happens when nothing is set. Then an entry
has an error exactly if it is required or has a default that cannot be read (`FieldInfo.Unmet`),
and the entries alone, with the types of their values, decide the answer.
-/
import EnvSettings.Docs
import EnvSettings.Proofs.Decode.Answer

namespace EnvSettings

open EnvSettings.Source

variable {A : Type} [AppTypes A] [DecidableEq A] {s : Schema A} {registry : Registry A}
  {stem : String}

-- ================================================================ entries

/-- What there is to know about a leaf. -/
def Schema.Leaf.info (stem : String) (l : s.Leaf) : FieldInfo :=
  ⟨l.key stem, l.rule.required, l.rule.default?, l.rule.doc, Naming.shortTypeName l.type.name⟩

/-- A documentation has an entry for each leaf in the order of the leaves, unless a field is
bad. -/
theorem Schema.describe_eq (s : Schema A) (stem : String) (registry : Registry A) :
    s.describe stem registry
      = match s.firstError? registry [] with
        | some e => .error e
        | none => .ok (s.leaves.map (Leaf.info stem)) := by
  unfold Schema.describe
  rw [s.slots?_eq]
  cases s.firstError? registry [] with
  | some e => rfl
  | none =>
      simp only [List.map_map]
      rfl

/-- There is no documentation exactly if there is a first bad field. -/
theorem Schema.describe_eq_error_iff {e : SchemaError} :
    s.describe stem registry = .error e ↔ s.firstError? registry [] = some e := by
  rw [s.describe_eq]
  cases s.firstError? registry [] with
  | some first => simp
  | none => simp

/-- There is a documentation exactly if no field is bad, and then it has an entry for each leaf. -/
theorem Schema.describe_eq_ok_iff {infos : List FieldInfo} :
    s.describe stem registry = .ok infos
      ↔ s.firstError? registry [] = none ∧ s.leaves.map (Leaf.info stem) = infos := by
  rw [s.describe_eq]
  cases s.firstError? registry [] with
  | some first => simp
  | none => simp

-- ========================================================== unset entries

/-- Why an entry whose variable is not set has an error; `decode` reads a text for the entry. -/
inductive FieldInfo.Unmet {V : Type} (info : FieldInfo) (decode : String → Except ParseError V) :
    ValueFault → Prop
  | required (needed : info.required = true) : Unmet info decode .required
  | default {text : String} {e : ParseError} (given : info.default? = some text)
      (unreadable : decode text = .error e) : Unmet info decode (.default text e)

/-- The faults of an unset entry are those that its leaf comes to. -/
theorem Schema.Leaf.unmet_iff (hfine : s.firstError? registry [] = none) {start : s.Config}
    {source : Source} {l : s.Leaf} (hunset : present? (source.get (l.key stem)) = none)
    {fault : ValueFault} :
    (l.info stem).Unmet (l.decode registry) fault
      ↔ l.resolve registry stem start source = .error fault := by
  unfold resolve
  rw [hunset]
  simp only
  by_cases hrequired : l.rule.required = true
  · rw [if_pos hrequired]
    have hdefault : l.rule.default? = none := l.default?_eq_none_of_required hfine hrequired
    constructor
    · intro hunmet
      cases hunmet with
      | required => rfl
      | default given _ =>
          have hnone : (l.info stem).default? = none := hdefault
          rw [hnone] at given
          cases given
    · intro hfault
      cases hfault
      exact .required hrequired
  · rw [if_neg hrequired]
    constructor
    · intro hunmet
      cases hunmet with
      | required needed => exact absurd needed hrequired
      | @default text e given unreadable =>
          have hgiven : l.rule.default? = some text := given
          rw [hgiven]
          simp only [unreadable]
          rfl
    · intro hfault
      cases hdefault : l.rule.default? with
      | none =>
          rw [hdefault] at hfault
          cases hfault
      | some text =>
          rw [hdefault] at hfault
          simp only at hfault
          cases hdecode : l.decode registry text with
          | ok v =>
              rw [hdecode] at hfault
              cases hfault
          | error e =>
              rw [hdecode] at hfault
              cases hfault
              exact .default hdefault hdecode

/-- A leaf whose variable is missing or empty has an error exactly if its entry is unmet. -/
theorem Schema.Leaf.valueError?_eq_some_iff (hfine : s.firstError? registry [] = none)
    {start : s.Config} {source : Source} {l : s.Leaf}
    (hunset : present? (source.get (l.key stem)) = none) {e : ValueError} :
    l.valueError? registry stem start source = some e
      ↔ e.key = (l.info stem).key ∧ (l.info stem).Unmet (l.decode registry) e.fault := by
  rw [l.unmet_iff hfine hunset]
  unfold valueError?
  obtain ⟨key, fault⟩ := e
  cases l.resolve registry stem start source with
  | ok v => simp
  | error other =>
      simp only [Option.some.injEq, ValueError.mk.injEq, Except.error.injEq]
      exact and_congr_left' eq_comm

-- ============================================================== agreement

/-- The names that a decoding asks for are those of the entries. -/
theorem Decoder.gets_eq {d : Decoder A} (hfine : s.firstError? d.registry [] = none)
    (start : s.Config) (source : Source) :
    (d.run s start source).calls.filterMap Call.name?
      = (s.leaves.map (Schema.Leaf.info d.stem)).map (·.key) := by
  rw [Decoder.run_calls hfine, List.filterMap_append, List.filterMap_map, List.map_map]
  have hlist : (if (d.filled s start source).errors = [] ∧ d.denyUnused = true then [Call.list]
      else []).filterMap Call.name? = [] := by
    split
    · rfl
    · rfl
  rw [hlist, List.append_nil, ← List.filterMap_eq_map]
  rfl

/-- Documentation and decoding. There is no documentation exactly if every decoding answers the
same error of the schema. If there is one, the names that a decoding asks for are those of the
entries, in their order; and if none of these is set, the value errors are one for each entry
that is required or whose default cannot be read, in the order of the entries. -/
theorem describe_decode_agree (s : Schema A) (registry : Registry A) (stem : String) :
    (∀ e strict echo start, s.describe stem registry = .error e
        ↔ ∀ source,
          (Decoder.mk registry stem strict echo).decode s start source = .error (.schema e))
      ∧ ∀ infos, s.describe stem registry = .ok infos →
        infos = s.leaves.map (Schema.Leaf.info stem)
          ∧ (∀ strict echo start source,
            ((Decoder.mk registry stem strict echo).run s start source).calls.filterMap Call.name?
              = infos.map (·.key))
          ∧ ∃ unmet : s.Leaf → Option ValueError,
            (∀ l e, unmet l = some e ↔ e.key = (l.info stem).key
              ∧ (l.info stem).Unmet (l.decode registry) e.fault)
            ∧ ∀ start source, (∀ info ∈ infos, present? (source.get info.key) = none) →
              (s.leaves.filterMap unmet = [] → ∀ echo,
                ∃ c, (Decoder.mk registry stem false echo).decode s start source = .ok c)
              ∧ ∀ strict echo errors,
                (Decoder.mk registry stem strict echo).decode s start source
                    = .error (.values errors)
                  ↔ errors = s.leaves.filterMap unmet ∧ errors ≠ [] := by
  refine ⟨fun e strict echo start => ?_, fun infos hinfos => ?_⟩
  · rw [Schema.describe_eq_error_iff]
    constructor
    · intro hfirst source
      exact Decoder.decode_eq_schemaError_iff.mpr hfirst
    · intro hanswer
      have hempty := Decoder.decode_eq_schemaError_iff.mp (hanswer Source.empty)
      exact hempty
  · obtain ⟨hfine, rfl⟩ := Schema.describe_eq_ok_iff.mp hinfos
    refine ⟨rfl, fun strict echo start source => ?_,
      Schema.Leaf.valueError? registry stem s.initial Source.empty, fun l e => ?_,
      fun start source hunset => ?_⟩
    · exact Decoder.gets_eq (d := ⟨registry, stem, strict, echo⟩) hfine start source
    · exact l.valueError?_eq_some_iff hfine rfl
    · have hsame : s.leaves.filterMap (Schema.Leaf.valueError? registry stem s.initial Source.empty)
          = s.leaves.filterMap (Schema.Leaf.valueError? registry stem start source) := by
        refine List.filterMap_congr fun l hl => ?_
        rw [l.valueError?_start registry stem s.initial start]
        have hl := hunset (l.info stem) (List.mem_map_of_mem hl)
        exact Schema.Leaf.valueError?_congr hl.symm
      rw [hsame]
      refine ⟨fun herrors echo => ?_, fun strict echo errors => ?_⟩
      · refine (Decoder.exists_decode_eq_ok_iff hfine).mpr ?_
        exact (Decoder.filled_errors_eq_nil_iff (d := ⟨registry, stem, false, echo⟩)).mp herrors
      · exact Decoder.decode_eq_values_iff (d := ⟨registry, stem, strict, echo⟩) hfine

end EnvSettings
