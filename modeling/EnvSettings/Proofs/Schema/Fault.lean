/-
What is wrong with a schema, said of the tree alone: its fields are listed with the groups
around them, and a field is bad by itself, whatever stands before or behind it.

# First bad field

`FieldForm.Bad` gives each fault its reason. The reasons exclude each other, so a field has at
most one fault though several reasons may seem to apply: an empty default counts before a
default on a required value, both before a missing converter, and on a group the demand for a
value counts before a default. `FieldForm.fault?` computes the fault (`fault?_eq_some_iff`), and
`Schema.firstError?` is the error of the first bad field in the order of the list, in which a
group stands before its own fields.

# Paths

An error names its field by the names from the root joined by points (`SchemaError.ofField_path`).
This takes names that are not empty: an empty name at the root leaves no trace in the text, and
the point behind it is not written either.
-/
import EnvSettings.Schema.Walker

namespace EnvSettings

variable {A : Type}

-- ================================================================ fields

/-- What a schema says of a field besides its name. -/
inductive FieldForm (A : Type)
  | value (type : TypeCode A) (byConverter : Bool) (rule : FieldRule)
  | group (rule : FieldRule)
  | pointer (typeName : String)
  | skip

/-- A field of a schema with its place in the tree. -/
structure Field (A : Type) where
  /-- The names of the groups around the field, the outermost first. -/
  above : List String
  name : String
  form : FieldForm A

/-- The names from the root to the field. -/
def Field.path (f : Field A) : List String := f.above ++ [f.name]

/-- The fields of a schema that stands inside the groups `above`, in their order and depth first,
a group before the fields in it. -/
def Schema.fields (above : List String) : Schema A → List (Field A)
  | .done => []
  | .value name type byConverter rule rest =>
    ⟨above, name, .value type byConverter rule⟩ :: rest.fields above
  | .group name rule inner rest =>
    ⟨above, name, .group rule⟩ :: (inner.fields (above ++ [name]) ++ rest.fields above)
  | .pointer name typeName rest => ⟨above, name, .pointer typeName⟩ :: rest.fields above
  | .skip name _ rest => ⟨above, name, .skip⟩ :: rest.fields above

/-- A group around a field is one of the groups above the schema or itself a field of it. -/
theorem Schema.name_of_mem_above {s : Schema A} {above : List String} {f : Field A}
    (hf : f ∈ s.fields above) {name : String} (hname : name ∈ f.above) :
    name ∈ above ∨ ∃ g ∈ s.fields above, g.name = name := by
  induction s generalizing above with
  | done => cases hf
  | value n type byConverter rule rest ih =>
      rcases List.mem_cons.mp hf with rfl | hf
      · exact Or.inl hname
      · refine (ih hf).imp_right ?_
        rintro ⟨g, hg, hgn⟩
        exact ⟨g, List.mem_cons_of_mem _ hg, hgn⟩
  | group n rule inner rest ihInner ihRest =>
      rcases List.mem_cons.mp hf with rfl | hf
      · exact Or.inl hname
      · rcases List.mem_append.mp hf with hf | hf
        · rcases ihInner hf with hin | ⟨g, hg, hgn⟩
          · rcases List.mem_append.mp hin with habove | hn
            · exact Or.inl habove
            · refine Or.inr ⟨_, List.mem_cons_self, ?_⟩
              exact (List.mem_singleton.mp hn).symm
          · exact Or.inr ⟨g, List.mem_cons_of_mem _ (List.mem_append_left _ hg), hgn⟩
        · refine (ihRest hf).imp_right ?_
          rintro ⟨g, hg, hgn⟩
          exact ⟨g, List.mem_cons_of_mem _ (List.mem_append_right _ hg), hgn⟩
  | pointer n typeName rest ih =>
      rcases List.mem_cons.mp hf with rfl | hf
      · exact Or.inl hname
      · refine (ih hf).imp_right ?_
        rintro ⟨g, hg, hgn⟩
        exact ⟨g, List.mem_cons_of_mem _ hg, hgn⟩
  | skip n type rest ih =>
      rcases List.mem_cons.mp hf with rfl | hf
      · exact Or.inl hname
      · refine (ih hf).imp_right ?_
        rintro ⟨g, hg, hgn⟩
        exact ⟨g, List.mem_cons_of_mem _ hg, hgn⟩

-- ================================================================= paths

/-- The error of the field `name` inside the groups `above`. -/
def SchemaError.ofField (above : List String) (name : String) (fault : SchemaFault) :
    SchemaError :=
  let around := ".".intercalate above
  ⟨if around = "" then name else around ++ "." ++ name, fault⟩

/-- Names that are not empty make a path that is not empty. -/
theorem intercalate_ne_empty {names : List String} (hnames : names ≠ [])
    (hnonempty : "" ∉ names) : ".".intercalate names ≠ "" := by
  cases names with
  | nil => exact absurd rfl hnames
  | cons name names =>
      have hname : name ≠ "" := fun h => hnonempty (h ▸ List.mem_cons_self)
      cases names with
      | nil => simpa using hname
      | cons other names =>
          rw [String.intercalate_cons_cons]
          simp [hname]

/-- An error names its field by the names from the root, joined by points. -/
theorem SchemaError.ofField_path {above : List String} (hnonempty : "" ∉ above) (name : String)
    (fault : SchemaFault) :
    (SchemaError.ofField above name fault).path = ".".intercalate (above ++ [name]) := by
  by_cases habove : above = []
  · simp [SchemaError.ofField, habove]
  · have hne := intercalate_ne_empty habove hnonempty
    rw [String.intercalate_append_of_ne_nil habove (List.cons_ne_nil _ _)]
    simp only [SchemaError.ofField, if_neg hne, String.intercalate_singleton]

-- ================================================================ faults

variable [AppTypes A] [DecidableEq A]

/-- A field with a fault, and the reason for it. -/
inductive FieldForm.Bad (registry : Registry A) : FieldForm A → SchemaFault → Prop
  | emptyDefault {type : TypeCode A} {byConverter : Bool} {rule : FieldRule}
      (empty : rule.default? = some "") : Bad registry (.value type byConverter rule) .emptyDefault
  | requiredWithDefault {type : TypeCode A} {byConverter : Bool} {rule : FieldRule}
      {text : String} (given : rule.default? = some text) (nonempty : text ≠ "")
      (required : rule.required = true) :
      Bad registry (.value type byConverter rule) .requiredWithDefault
  /-- The value counts on a converter that nobody has registered, and is fine otherwise. -/
  | unsupported {type : TypeCode A} {rule : FieldRule}
      (fine : ∀ text, rule.default? = some text → text ≠ "" ∧ rule.required = false)
      (lacking : registry.converter? type = none) :
      Bad registry (.value type true rule) (.unsupported (Naming.shortTypeName type.name))
  | requiredGroup {rule : FieldRule} (required : rule.required = true) :
      Bad registry (.group rule) .requiredGroup
  | defaultOnGroup {rule : FieldRule} {text : String} (optional : rule.required = false)
      (given : rule.default? = some text) : Bad registry (.group rule) .defaultOnGroup
  | pointer {typeName : String} : Bad registry (.pointer typeName) (.pointer typeName)

/-- What is wrong with a field of this form, as the walk finds it. -/
def FieldForm.fault? (registry : Registry A) : FieldForm A → Option SchemaFault
  | .value type byConverter rule => valueFault? registry type byConverter rule
  | .group rule => rule.groupFault?
  | .pointer typeName => some (.pointer typeName)
  | .skip => none

/-- The policy of a value is fine if its default, where there is one, is not empty and the value
is not required. -/
theorem FieldRule.valueFault?_eq_none_iff {rule : FieldRule} :
    rule.valueFault? = none
      ↔ ∀ text, rule.default? = some text → text ≠ "" ∧ rule.required = false := by
  unfold FieldRule.valueFault?
  cases rule.default? with
  | none => simp
  | some text =>
      by_cases htext : text = ""
      · simp [htext]
      · cases hrequired : rule.required <;> simp [htext]

/-- A policy is bad if its default is empty, or if the field is required as well. -/
theorem FieldRule.valueFault?_eq_some_iff {rule : FieldRule} {fault : SchemaFault} :
    rule.valueFault? = some fault
      ↔ (rule.default? = some "" ∧ fault = .emptyDefault)
        ∨ ∃ text, rule.default? = some text ∧ text ≠ "" ∧ rule.required = true
          ∧ fault = .requiredWithDefault := by
  unfold FieldRule.valueFault?
  cases rule.default? with
  | none => simp
  | some text =>
      by_cases htext : text = ""
      · simp [htext, @eq_comm _ _ fault]
      · cases hrequired : rule.required <;> simp [htext, @eq_comm _ _ fault]

/-- The walk finds wrong with a value what is bad about it. -/
theorem valueFault?_eq_some_iff {registry : Registry A} {type : TypeCode A} {byConverter : Bool}
    {rule : FieldRule} {fault : SchemaFault} :
    valueFault? registry type byConverter rule = some fault
      ↔ FieldForm.Bad registry (.value type byConverter rule) fault := by
  cases hrule : rule.valueFault? with
  | some ruleFault =>
      have hfault : valueFault? registry type byConverter rule = some ruleFault := by
        simp only [valueFault?, hrule]
      rw [hfault, ← hrule, FieldRule.valueFault?_eq_some_iff]
      constructor
      · rintro (⟨hempty, rfl⟩ | ⟨text, hgiven, hnonempty, hrequired, rfl⟩)
        · exact .emptyDefault hempty
        · exact .requiredWithDefault hgiven hnonempty hrequired
      · intro hbad
        cases hbad with
        | emptyDefault empty => exact Or.inl ⟨empty, rfl⟩
        | requiredWithDefault given nonempty required =>
            exact Or.inr ⟨_, given, nonempty, required, rfl⟩
        | unsupported fine lacking =>
            rw [FieldRule.valueFault?_eq_none_iff.mpr fine] at hrule
            cases hrule
  | none =>
      have hfine := FieldRule.valueFault?_eq_none_iff.mp hrule
      have hfault : valueFault? registry type byConverter rule
          = if byConverter && !registry.contains type
            then some (.unsupported (Naming.shortTypeName type.name)) else none := by
        simp only [valueFault?, hrule]
      rw [hfault]
      constructor
      · intro h
        by_cases hlacking : (byConverter && !registry.contains type) = true
        · rw [if_pos hlacking] at h
          cases h
          simp only [Registry.contains, Bool.and_eq_true, Bool.not_eq_true',
            Option.isSome_eq_false_iff, Option.isNone_iff_eq_none] at hlacking
          obtain ⟨rfl, hnone⟩ := hlacking
          exact .unsupported hfine hnone
        · rw [if_neg hlacking] at h
          cases h
      · intro hbad
        cases hbad with
        | emptyDefault empty => exact absurd rfl (hfine _ empty).1
        | requiredWithDefault given nonempty required =>
            have hoptional := (hfine _ given).2
            rw [required] at hoptional
            cases hoptional
        | unsupported fine lacking => simp [Registry.contains, lacking]

/-- The walk finds wrong with a group what is bad about it. -/
theorem groupFault?_eq_some_iff {registry : Registry A} {rule : FieldRule}
    {fault : SchemaFault} :
    rule.groupFault? = some fault ↔ FieldForm.Bad registry (.group rule) fault := by
  unfold FieldRule.groupFault?
  constructor
  · intro h
    by_cases hrequired : rule.required = true
    · rw [if_pos hrequired] at h
      cases h
      exact .requiredGroup hrequired
    · rw [if_neg hrequired] at h
      by_cases hdefault : rule.default?.isSome = true
      · rw [if_pos hdefault] at h
        cases h
        obtain ⟨text, htext⟩ := Option.isSome_iff_exists.mp hdefault
        exact .defaultOnGroup (by simpa using hrequired) htext
      · rw [if_neg hdefault] at h
        cases h
  · intro hbad
    cases hbad with
    | requiredGroup required => rw [if_pos required]
    | defaultOnGroup optional given => simp [optional, given]

/-- The fault of a field is the one that there is a reason for. -/
theorem FieldForm.fault?_eq_some_iff {registry : Registry A} {form : FieldForm A}
    {fault : SchemaFault} : form.fault? registry = some fault ↔ form.Bad registry fault := by
  cases form with
  | value type byConverter rule => exact valueFault?_eq_some_iff
  | group rule => exact groupFault?_eq_some_iff
  | pointer typeName =>
      constructor
      · intro h
        cases h
        exact .pointer
      · intro hbad
        cases hbad
        rfl
  | skip =>
      constructor
      · intro h
        cases h
      · intro hbad
        cases hbad

/-- The walk finds nothing wrong exactly if nothing is bad. -/
theorem FieldForm.fault?_eq_none_iff {registry : Registry A} {form : FieldForm A} :
    form.fault? registry = none ↔ ∀ fault, ¬ form.Bad registry fault := by
  rw [Option.eq_none_iff_forall_ne_some]
  exact forall_congr' fun fault => not_congr FieldForm.fault?_eq_some_iff

-- ================================================================ errors

/-- The error of a field, if it has a fault. -/
def Field.error? (registry : Registry A) (f : Field A) : Option SchemaError :=
  (f.form.fault? registry).map (SchemaError.ofField f.above f.name)

/-- An error of a field speaks of that field and has a reason. -/
theorem Field.error?_eq_some_iff {registry : Registry A} {f : Field A} {e : SchemaError} :
    f.error? registry = some e
      ↔ f.form.Bad registry e.fault ∧ e = .ofField f.above f.name e.fault := by
  unfold Field.error?
  rw [Option.map_eq_some_iff]
  constructor
  · rintro ⟨fault, hfault, rfl⟩
    exact ⟨FieldForm.fault?_eq_some_iff.mp hfault, rfl⟩
  · rintro ⟨hbad, he⟩
    exact ⟨e.fault, FieldForm.fault?_eq_some_iff.mpr hbad, he.symm⟩

theorem Field.error?_eq_none_iff {registry : Registry A} {f : Field A} :
    f.error? registry = none ↔ ∀ fault, ¬ f.form.Bad registry fault := by
  unfold Field.error?
  rw [Option.map_eq_none_iff]
  exact FieldForm.fault?_eq_none_iff

/-- The error of the first field with a fault. -/
def Schema.firstError? (registry : Registry A) (above : List String) (s : Schema A) :
    Option SchemaError :=
  (s.fields above).findSome? (Field.error? registry)

/-- In a list of fields the error of the head comes first. -/
theorem findSome?_error_cons {registry : Registry A} {f : Field A} {fs : List (Field A)} :
    (f :: fs).findSome? (Field.error? registry)
      = ((f.form.fault? registry).map (SchemaError.ofField f.above f.name)).or
        (fs.findSome? (Field.error? registry)) := by
  rw [List.findSome?_cons, ← Field.error?]
  cases f.error? registry with
  | some e => rfl
  | none => rfl

/-- The fields in a group come behind the group and before its siblings. -/
theorem Schema.firstError?_group {registry : Registry A} {above : List String} {name : String}
    {rule : FieldRule} {inner rest : Schema A} :
    (Schema.group name rule inner rest).firstError? registry above
      = (rule.groupFault?.map (SchemaError.ofField above name)).or
        ((inner.firstError? registry (above ++ [name])).or (rest.firstError? registry above)) := by
  unfold Schema.firstError?
  rw [Schema.fields, findSome?_error_cons, List.findSome?_append]
  rfl

/-- The first error is that of a bad field with no bad field before it. -/
theorem Schema.firstError?_eq_some_iff {registry : Registry A} {above : List String}
    {s : Schema A} {e : SchemaError} :
    s.firstError? registry above = some e
      ↔ ∃ before f after, s.fields above = before ++ f :: after
        ∧ (f.form.Bad registry e.fault ∧ e = .ofField f.above f.name e.fault)
        ∧ ∀ g ∈ before, ∀ fault, ¬ g.form.Bad registry fault := by
  unfold Schema.firstError?
  rw [List.findSome?_eq_some_iff]
  simp only [Field.error?_eq_some_iff, Field.error?_eq_none_iff]

/-- There is no first bad field exactly if no field is bad. -/
theorem Schema.firstError?_eq_none_iff {registry : Registry A} {above : List String}
    {s : Schema A} :
    s.firstError? registry above = none
      ↔ ∀ f ∈ s.fields above, ∀ fault, ¬ f.form.Bad registry fault := by
  unfold Schema.firstError?
  rw [List.findSome?_eq_none_iff]
  simp only [Field.error?_eq_none_iff]

end EnvSettings
