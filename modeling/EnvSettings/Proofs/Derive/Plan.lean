/-
What is derived from a definition: one visit for each field that is to be visited, in the order of
the fields, and none for any other.

A field is visited if it is visible and its options do not skip it. How it is visited depends on the
form of its type first and on its mode second: a field whose value is stored elsewhere
(`TypeForm.PointsAway`) is only reported. The attributes of every field are read, so a malformed one
is an error also where the field is not visited; `Definition.exists_plan_iff` says when there is an
implementation at all.
-/
import EnvSettings.Derive.Plan
import EnvSettings.Proofs.Derive.Options

namespace EnvSettings.Derive

-- ================================================================== types

/-- The type stands for a value that is stored elsewhere, brackets around it left aside. -/
inductive TypeForm.PointsAway : TypeForm → Prop
  | reference : PointsAway .reference
  | rawPointer : PointsAway .rawPointer
  | path {last : String} (owner : last = "Box" ∨ last = "Rc" ∨ last = "Arc") :
      PointsAway (.path last)
  | enclosed {inner : TypeForm} (away : inner.PointsAway) : PointsAway (.enclosed inner)
  | grouped {inner : TypeForm} (away : inner.PointsAway) : PointsAway (.grouped inner)

/-- A type counts as a pointer exactly if it points away. -/
theorem TypeForm.isPointer_iff {form : TypeForm} : form.isPointer = true ↔ form.PointsAway := by
  induction form with
  | reference => exact iff_of_true rfl .reference
  | rawPointer => exact iff_of_true rfl .rawPointer
  | path last =>
      have hnames : isPointer (.path last) = true ↔ last = "Box" ∨ last = "Rc" ∨ last = "Arc" := by
        simp [isPointer, indirectNames]
      rw [hnames]
      constructor
      · exact .path
      · intro h
        cases h with
        | path owner => exact owner
  | enclosed inner ih =>
      constructor
      · exact fun h => .enclosed (ih.mp h)
      · intro h
        cases h with
        | enclosed away => exact ih.mpr away
  | grouped inner ih =>
      constructor
      · exact fun h => .grouped (ih.mp h)
      · intro h
        cases h with
        | grouped away => exact ih.mpr away
  | other =>
      refine iff_of_false (fun h => ?_) fun h => ?_
      · cases h
      · cases h

-- ================================================================= fields

namespace FieldDefinition

/-- The field is known outside by the name: its own, without the mark of a raw name. -/
inductive KnownAs (field : FieldDefinition) : String → Prop
  | raw {name : String} (marked : field.name = "r#" ++ name) : KnownAs field name
  | plain (unmarked : ¬ ['r', '#'] <+: field.name.toList) : KnownAs field field.name

/-- A field is known by its public name. -/
theorem knownAs_publicName (field : FieldDefinition) : field.KnownAs field.publicName := by
  by_cases hmark : ['r', '#'] <+: field.name.toList
  · obtain ⟨rest, hrest⟩ := hmark
    have hpublic : field.publicName = String.ofList rest := by
      rw [publicName, ← hrest]
      rfl
    have hmarked : ("r#" ++ String.ofList rest).toList = ['r', '#'] ++ rest := by simp
    rw [hpublic]
    exact .raw (String.toList_inj.mp (hmarked.trans hrest).symm)
  · have hpublic : field.publicName = field.name := by
      have hkept : Naming.withoutRawMark field.name.toList = field.name.toList := by
        unfold Naming.withoutRawMark
        split
        · next rest hname => exact absurd ⟨rest, hname.symm⟩ hmark
        · rfl
      rw [publicName, hkept, String.ofList_toList]
    rw [hpublic]
    exact .plain hmark

/-- The visit that a visited field gets, by its options. -/
inductive Gets (field : FieldDefinition) (options : FieldOptions) : Visit → Prop
  | pointer {name : String} (known : field.KnownAs name) (away : field.type.form.PointsAway) :
      Gets field options (.pointer name field.type.text)
  | value {name : String} (known : field.KnownAs name) (own : ¬ field.type.form.PointsAway)
      (mode : options.mode = .value) :
      Gets field options (.value ⟨name, field.type.text, options.rule, field.name⟩)
  | registered {name : String} (known : field.KnownAs name) (own : ¬ field.type.form.PointsAway)
      (mode : options.mode = .registered) :
      Gets field options (.registered ⟨name, field.type.text, options.rule, field.name⟩)
  | group {name : String} (known : field.KnownAs name) (own : ¬ field.type.form.PointsAway)
      (mode : options.mode = .group) :
      Gets field options (.group ⟨name, field.type.text, options.rule, field.name⟩)

/-- The field is visible and its options do not skip it. -/
def isVisited (field : FieldDefinition) (options : FieldOptions) : Bool :=
  field.isVisible && options.mode ≠ .skip

/-- A field that is to be visited gets a visit. -/
theorem visit?_of_isVisited {field : FieldDefinition} {options : FieldOptions}
    (h : field.isVisited options = true) :
    ∃ visit, field.visit? options = some visit ∧ field.Gets options visit := by
  have hknown := field.knownAs_publicName
  have haway := field.type.form.isPointer_iff
  obtain ⟨hvisible, hskip⟩ := Bool.and_eq_true_iff.mp h
  unfold visit?
  simp only [hvisible]
  cases hpointer : field.type.form.isPointer with
  | true =>
      cases hmode : options.mode with
      | skip => exact absurd hmode (of_decide_eq_true hskip)
      | _ => exact ⟨_, rfl, .pointer hknown (haway.mp hpointer)⟩
  | false =>
      have hown : ¬ field.type.form.PointsAway := fun away => by
        rw [haway.mpr away] at hpointer
        cases hpointer
      cases hmode : options.mode with
      | value => exact ⟨_, rfl, .value hknown hown hmode⟩
      | registered => exact ⟨_, rfl, .registered hknown hown hmode⟩
      | group => exact ⟨_, rfl, .group hknown hown hmode⟩
      | skip => exact absurd hmode (of_decide_eq_true hskip)

/-- A field that is not to be visited gets none. -/
theorem visit?_of_not_isVisited {field : FieldDefinition} {options : FieldOptions}
    (h : field.isVisited options = false) : field.visit? options = none := by
  unfold visit?
  cases hvisible : field.isVisible with
  | false => rfl
  | true =>
      have hskip : options.mode = .skip := by
        simpa [isVisited, hvisible] using h
      simp only [hskip]
      rfl

end FieldDefinition

/-- The attributes of all fields are read, and then the visited ones get their visits. -/
theorem visits_eq_ok_iff {fields : List FieldDefinition} {visits : List Visit} :
    Derive.visits fields = .ok visits
      ↔ ∃ options,
        List.Forall₂ (fun field o => FieldOptions.SaidBy field.attributes o) fields options
        ∧ visits = (fields.zip options).filterMap fun read => read.1.visit? read.2 := by
  have hcons (field : FieldDefinition) (own : FieldOptions)
      (rest : List (FieldDefinition × FieldOptions)) :
      ((field, own) :: rest).filterMap (fun read => read.1.visit? read.2)
        = (field.visit? own).toList ++ rest.filterMap fun read => read.1.visit? read.2 := by
    cases hvisit : field.visit? own with
    | none => exact List.filterMap_cons_none hvisit
    | some visit => exact List.filterMap_cons_some hvisit
  induction fields generalizing visits with
  | nil =>
      constructor
      · intro h
        cases h
        exact ⟨[], .nil, rfl⟩
      · rintro ⟨_, h, rfl⟩
        cases h
        rfl
  | cons field fields ih =>
      rw [Derive.visits, bind_eq_ok_iff]
      constructor
      · rintro ⟨own, hown, h⟩
        obtain ⟨rest, hrest, hdone⟩ := bind_eq_ok_iff.mp h
        cases hdone
        obtain ⟨options, hoptions, rfl⟩ := ih.mp hrest
        have hsaid := FieldOptions.ofAttributes_eq_ok_iff.mp hown
        exact ⟨own :: options, .cons hsaid hoptions, (hcons field own _).symm⟩
      · rintro ⟨_, h, rfl⟩
        cases h with
        | @cons _ own _ options hsaid hoptions =>
            refine ⟨own, FieldOptions.ofAttributes_eq_ok_iff.mpr hsaid, ?_⟩
            rw [bind_eq_ok_iff, List.zip_cons_cons, hcons]
            exact ⟨_, ih.mpr ⟨options, hoptions, rfl⟩, rfl⟩

-- =================================================================== stem

/-- The stems that an attribute gives, in their order. An attribute that is not about the definition
as a whole gives none. -/
inductive Attribute.GivesStems (attr : Attribute) : List String → Prop
  | other (foreign : attr.name ≠ "config") : GivesStems attr []
  | config {items : List Item} {texts : List String} (name : attr.name = "config")
      (list : attr.argument = .items items)
      (each : List.Forall₂ (fun item text => item = .keyed "prefix" (.literal (.text text)) false)
        items texts) :
      GivesStems attr texts

/-- An item gives a stem exactly if it sets the prefix to a text. -/
theorem stemOfItem_eq_ok_iff {item : Item} {text : String} :
    stemOfItem item = .ok text ↔ item = .keyed "prefix" (.literal (.text text)) false := by
  constructor
  · intro h
    cases item with
    | noKey found => cases h
    | keyed key value more =>
        unfold stemOfItem at h
        simp only at h
        split at h
        · cases h
        · next hkey =>
            rw [Classical.not_not] at hkey
            split at h
            · cases h
            · cases h
            · cases more with
              | true => cases h
              | false =>
                  cases h
                  rw [hkey]
            · cases h
  · rintro rfl
    rfl

/-- Of texts that replace each other the last one is left. -/
theorem foldl_some_eq_getLast?_or (texts : List String) (stem? : Option String) :
    texts.foldl (fun _ text => some text) stem? = texts.getLast?.or stem? := by
  induction texts generalizing stem? with
  | nil => rfl
  | cons text texts ih =>
      rw [List.foldl_cons, ih, List.getLast?_cons]
      cases texts.getLast? with
      | none => rfl
      | some last => rfl

/-- Of lists of texts that replace each other the last text of all is left. -/
theorem foldl_getLast?_or (lists : List (List String)) (stem? : Option String) :
    lists.foldl (fun stem? texts => texts.getLast?.or stem?) stem?
      = lists.flatten.getLast?.or stem? := by
  induction lists generalizing stem? with
  | nil => rfl
  | cons texts lists ih =>
      rw [List.foldl_cons, ih, List.flatten_cons, List.getLast?_append, Option.or_assoc]

/-- The last of the stems that items give counts. -/
theorem stemOfItems_eq_ok_iff {stem? result : Option String} {items : List Item} :
    items.foldlM (fun _ item => return some (← stemOfItem item)) stem? = .ok result
      ↔ ∃ texts,
        List.Forall₂ (fun item text => item = .keyed "prefix" (.literal (.text text)) false)
          items texts
        ∧ result = texts.getLast?.or stem? := by
  simp only [← foldl_some_eq_getLast?_or]
  refine foldlM_eq_ok_iff fun stem? item result => ?_
  rw [bind_return_eq_ok_iff]
  simp only [stemOfItem_eq_ok_iff]

/-- The last of the stems that an attribute gives counts, else the one so far. -/
theorem stemOfAttribute_eq_ok_iff {stem? result : Option String} {attr : Attribute} :
    stemOfAttribute stem? attr = .ok result
      ↔ ∃ texts, attr.GivesStems texts ∧ result = texts.getLast?.or stem? := by
  unfold stemOfAttribute
  by_cases hname : attr.name = "config"
  · have hgives_iff {texts : List String} :
        attr.GivesStems texts ↔ ∃ items, attr.argument = .items items
          ∧ List.Forall₂ (fun item text => item = .keyed "prefix" (.literal (.text text)) false)
            items texts := by
      constructor
      · intro hgives
        cases hgives with
        | other foreign => exact absurd hname foreign
        | config name list each => exact ⟨_, list, each⟩
      · rintro ⟨items, hlist, heach⟩
        exact .config hname hlist heach
    rw [if_neg (not_not.mpr hname)]
    simp only [hgives_iff]
    cases attr.argument with
    | items items => simp only [stemOfItems_eq_ok_iff, Argument.items.injEq, exists_eq_left']
    | absent | value literal => simp
  · rw [if_pos hname]
    constructor
    · intro h
      cases h
      exact ⟨[], .other hname, rfl⟩
    · rintro ⟨texts, hgives, rfl⟩
      cases hgives with
      | other => rfl
      | config name => exact absurd name hname

/-- The stem of a definition is the last one that its attributes give. -/
theorem stem?_eq_ok_iff {attributes : List Attribute} {result : Option String} :
    stem? attributes = .ok result
      ↔ ∃ lists, List.Forall₂ Attribute.GivesStems attributes lists
        ∧ result = lists.flatten.getLast? := by
  have hlast (lists : List (List String)) : lists.flatten.getLast?
      = lists.foldl (fun stem? texts => texts.getLast?.or stem?) none := by
    rw [foldl_getLast?_or, Option.or_none]
  simp only [hlast]
  refine foldlM_eq_ok_iff fun stem? attr result => ?_
  exact stemOfAttribute_eq_ok_iff

-- =================================================================== plan

/-- What is made of the elements that count stands in their order, if nothing is made of the
others. -/
theorem forall₂_filter_filterMap {α β : Type} {r : α → β → Prop} {p : α → Bool} {f : α → Option β}
    (hcounts : ∀ a, p a = true → ∃ b, f a = some b ∧ r a b) (hother : ∀ a, p a = false → f a = none)
    (l : List α) : List.Forall₂ r (l.filter p) (l.filterMap f) := by
  induction l with
  | nil => exact .nil
  | cons a l ih =>
      cases ha : p a with
      | true =>
          obtain ⟨b, hb, hr⟩ := hcounts a ha
          rw [List.filter_cons_of_pos ha, List.filterMap_cons_some hb]
          exact .cons hr ih
      | false =>
          rw [List.filter_cons_of_neg (by rw [ha]; decide), List.filterMap_cons_none (hother a ha)]
          exact ih

/-- A definition has visits exactly if it is a record with named fields and these have visits. -/
theorem Definition.visits_eq_ok_iff {definition : Definition} {visits : List Visit} :
    definition.visits = .ok visits
      ↔ definition.kind = .struct ∧ Derive.visits definition.fields = .ok visits := by
  unfold Definition.visits
  cases definition.kind with
  | struct => simp
  | tuple | unit | enum | union => simp

/-- What the parts of an implementation have to do with the definition. -/
theorem Definition.plan_eq_ok {definition : Definition} {plan : Plan}
    (h : definition.plan = .ok plan) :
    stem? definition.attributes = .ok plan.stem? ∧ definition.visits = .ok plan.visits := by
  unfold Definition.plan at h
  obtain ⟨stem, hstem, h⟩ := bind_eq_ok_iff.mp h
  obtain ⟨visits, hvisits, h⟩ := bind_eq_ok_iff.mp h
  cases h
  exact ⟨hstem, hvisits⟩

/-- There is an implementation exactly for a record with named fields of which all attributes are
well-formed. -/
theorem Definition.exists_plan_iff {definition : Definition} :
    (∃ plan, definition.plan = .ok plan)
      ↔ definition.kind = .struct
        ∧ (∀ attr ∈ definition.attributes, ∃ texts, attr.GivesStems texts)
        ∧ ∀ field ∈ definition.fields, ∃ o, FieldOptions.SaidBy field.attributes o := by
  rw [← exists_forall₂_iff, ← exists_forall₂_iff]
  constructor
  · rintro ⟨plan, hplan⟩
    obtain ⟨hstem, hvisits⟩ := Definition.plan_eq_ok hplan
    obtain ⟨texts, htexts, -⟩ := stem?_eq_ok_iff.mp hstem
    obtain ⟨hkind, hfields⟩ := Definition.visits_eq_ok_iff.mp hvisits
    obtain ⟨options, hoptions, -⟩ := Derive.visits_eq_ok_iff.mp hfields
    exact ⟨hkind, ⟨texts, htexts⟩, options, hoptions⟩
  · rintro ⟨hkind, ⟨texts, htexts⟩, options, hoptions⟩
    have hstem := stem?_eq_ok_iff.mpr ⟨texts, htexts, rfl⟩
    have hfields := Derive.visits_eq_ok_iff.mpr ⟨options, hoptions, rfl⟩
    have hvisits := Definition.visits_eq_ok_iff.mpr ⟨hkind, hfields⟩
    refine ⟨_, bind_eq_ok_iff.mpr ⟨_, hstem, bind_eq_ok_iff.mpr ⟨_, hvisits, rfl⟩⟩⟩

/-- Deriving an implementation. There is one exactly if the definition is a record with named
fields, every attribute about the definition as a whole is well-formed, and so are the attributes of
every field, visible or not. Its stem is the last one given, and its visits are those of the fields
that are visible and not skipped, one for each and in their order: a field whose value is stored
elsewhere is reported as such, any other is visited as its mode says, under its name without the
mark of a raw one, with the policy that its attributes state, and with itself as the place for the
value. -/
theorem plan_visits_each_field (definition : Definition) :
    ((∃ plan, definition.plan = .ok plan)
        ↔ definition.kind = .struct
          ∧ (∀ attr ∈ definition.attributes, ∃ texts, attr.GivesStems texts)
          ∧ ∀ field ∈ definition.fields, ∃ o, FieldOptions.SaidBy field.attributes o)
      ∧ ∀ plan, definition.plan = .ok plan →
        (∃ texts, List.Forall₂ Attribute.GivesStems definition.attributes texts
          ∧ plan.stem? = texts.flatten.getLast?)
        ∧ ∃ options,
          List.Forall₂ (fun field o => FieldOptions.SaidBy field.attributes o)
            definition.fields options
          ∧ List.Forall₂ (fun read visit => read.1.Gets read.2 visit)
            ((definition.fields.zip options).filter fun read => read.1.isVisited read.2)
            plan.visits := by
  refine ⟨Definition.exists_plan_iff, fun plan hplan => ?_⟩
  obtain ⟨hstem, hvisits⟩ := Definition.plan_eq_ok hplan
  obtain ⟨options, hoptions, hmade⟩ :=
    visits_eq_ok_iff.mp (Definition.visits_eq_ok_iff.mp hvisits).2
  refine ⟨stem?_eq_ok_iff.mp hstem, options, hoptions, ?_⟩
  rw [hmade]
  exact forall₂_filter_filterMap (fun _ => FieldDefinition.visit?_of_isVisited)
    (fun _ => FieldDefinition.visit?_of_not_isVisited) _

/-- A hidden field whose options are read all the same, a boxed group, a skipped field, and a group
and a value that are visited as they are to be. -/
theorem plan_visits_each_field_pool :
    let plainRule (doc : String) : FieldRule := ⟨false, none, doc⟩
    let field (items : List Item) : Attribute := ⟨"field", .items items⟩
    let definition : Definition := {
      attributes := [⟨"config", .items [.keyed "prefix" (.literal (.text "POOL_")) false]⟩]
      kind := .struct
      header := ⟨"Pool", .none, none⟩
      fields := [
        ⟨[field [.keyed "required" .absent false]], false, "secret", "String", .path "String"⟩,
        ⟨[field [.keyed "nested" .absent false]], true, "r#type", "(Box<Kind>)",
          .enclosed (.path "Box")⟩,
        ⟨[field [.keyed "skip" .absent false]], true, "cache", "Cache", .path "Cache"⟩,
        ⟨[⟨"doc", .value (.text " How to try again ")⟩, field [.keyed "nested" .absent false]],
          true, "retry", "Retry", .path "Retry"⟩,
        ⟨[field [.keyed "default" (.literal (.text "3")) false]], true, "size", "u8", .path "u8"⟩] }
    let visits : List Visit := [
      .pointer "type" "(Box<Kind>)",
      .group ⟨"retry", "Retry", plainRule "How to try again", "retry"⟩,
      .value ⟨"size", "u8", ⟨false, some "3", ""⟩, "size"⟩]
    ∃ plan, definition.plan = .ok plan ∧ plan.visits = visits
      ∧ ∃ options,
        List.Forall₂ (fun field o => FieldOptions.SaidBy field.attributes o)
          definition.fields options
        ∧ List.Forall₂ (fun read visit => read.1.Gets read.2 visit)
          ((definition.fields.zip options).filter fun read => read.1.isVisited read.2) visits := by
  intro plainRule field definition visits
  have hplan : definition.plan = .ok ⟨"Pool", "", none, some "POOL_", visits⟩ := by
    -- that a key is a plain name is not found by evaluation
    simp [definition, field, Definition.plan, Definition.visits, Derive.visits,
      FieldOptions.ofAttributes, settings, Item.setting]
    decide +kernel
  obtain ⟨-, options, hoptions, hvisits⟩ := (plan_visits_each_field definition).2 _ hplan
  exact ⟨_, hplan, rfl, options, hoptions, hvisits⟩

end EnvSettings.Derive
