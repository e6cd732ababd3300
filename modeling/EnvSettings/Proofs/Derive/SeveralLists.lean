/-
Options that stand in several lists.

The lines of a field's description are gathered from all its attributes, but of several lists of
options only the first is read (`FieldOptions.ofAttributes_eq_ok_iff_of_listed`). If no key is
repeated, this differs from reading all options in one list unless nothing is lost with the later
lists: the first one is at fault itself, or everything in them would hold without them, a
requirement that is denied or a description that stands before the field already
(`Redundant`).

# Where the difference comes from

The settings of the one list are those of the first list and those of the others, which have other
keys (`settingOf?_append`). Every key has a part of the options to itself, but for the modes, which
exclude each other. So a setting of a later list either shows in its part of the options
(`redundant_of_ofSettings_append_eq`) or it is redundant there, and a list of redundant settings
shows nowhere (`ofSettings_append_of_redundant`).
-/
import EnvSettings.Proofs.Derive.Permutation

namespace EnvSettings.Derive

open EnvSettings.Text

-- ======================================================= lists of options

namespace Attribute

/-- The list of options that an attribute is. -/
def options? (attr : Attribute) : Option (List Item) :=
  match attr.argument with
  | .items items => if attr.name = "field" then some items else none
  | _ => none

/-- The lists of options of a field, in their order. -/
def optionLists (attributes : List Attribute) : List (List Item) :=
  attributes.filterMap options?

/-- The same attributes with all options in one list. -/
def inOneList (attributes : List Attribute) : List Attribute :=
  ⟨"field", .items (optionLists attributes).flatten⟩ :: attributes.filter (·.name ≠ "field")

/-- Other attributes have no list of options. -/
theorem options?_eq_none {attr : Attribute} (h : attr.name ≠ "field") : attr.options? = none := by
  unfold options?
  split
  · exact if_neg h
  · rfl

/-- Attributes that are not for the field have no lists of options. -/
theorem optionLists_eq_nil {attributes : List Attribute}
    (h : ∀ attr ∈ attributes, attr.name ≠ "field") : optionLists attributes = [] :=
  List.filterMap_eq_nil_iff.mpr fun attr hattr => options?_eq_none (h attr hattr)

/-- Putting the lists together leaves the documentation alone. -/
theorem docLine_inOneList (attributes : List Attribute) :
    docLine (inOneList attributes) = docLine attributes := by
  rw [← docLine_filter (inOneList attributes), inOneList, List.filter_cons_of_neg (by simp),
    docLine_filter, docLine_filter]

end Attribute

open Attribute

namespace FieldOptions

/-- Only the first list of options is read. -/
theorem ofAttributes_eq_ok_iff_of_listed {attributes : List Attribute}
    (listed : ∀ attr ∈ attributes, attr.name = "field" → ∃ items, attr.argument = .items items)
    {options : FieldOptions} :
    ofAttributes attributes = .ok options
      ↔ OfItems (docLine attributes) ((optionLists attributes).headD []) options := by
  cases hfind : attributes.find? (·.name = "field") with
  | none =>
      have hplain : ∀ attr ∈ attributes, attr.name ≠ "field" := by
        simpa only [List.find?_eq_none, decide_eq_true_eq] using hfind
      rw [optionLists_eq_nil hplain, List.headD_nil, ofItems_iff .nil, ofAttributes_eq_ok_iff,
        SaidBy]
      simp only [giveSettings_iff_of_find?_eq_none hfind, exists_eq_left]
  | some attr =>
      obtain ⟨hname, before, after, rfl, hbefore⟩ := List.find?_eq_some_iff_append.mp hfind
      rw [decide_eq_true_eq] at hname
      obtain ⟨items, hitems⟩ := listed attr (by simp) hname
      have hearlier : optionLists before = [] :=
        optionLists_eq_nil fun other hother => by simpa using hbefore other hother
      have hfirst : optionLists (before ++ attr :: after) = items :: optionLists after := by
        have hattr : attr.options? = some items := by simp [options?, hitems, hname]
        rw [optionLists, List.filterMap_append, List.filterMap_cons_some hattr, ← optionLists,
          ← optionLists, hearlier, List.nil_append]
      rw [hfirst, List.headD_cons, ofAttributes_eq_ok_iff_of_find? hfind hitems]

/-- The one list is read as a whole. -/
theorem ofAttributes_inOneList_eq_ok_iff {attributes : List Attribute} {options : FieldOptions} :
    ofAttributes (inOneList attributes) = .ok options
      ↔ OfItems (docLine attributes) (optionLists attributes).flatten options := by
  have hfind : (inOneList attributes).find? (·.name = "field")
      = some ⟨"field", .items (optionLists attributes).flatten⟩ := List.find?_cons_of_pos rfl
  rw [ofAttributes_eq_ok_iff_of_find? hfind rfl, docLine_inOneList]

end FieldOptions

-- =================================================================== keys

/-- The key of an item that has one. -/
def Item.key? : Item → Option String
  | .keyed key _ _ => some key
  | .noKey _ => none

/-- Items that give settings have the keys of these. -/
theorem filterMap_key?_of_gives {items : List Item} {entries : List (String × Setting)}
    (each : List.Forall₂ Item.Gives items entries) :
    items.filterMap Item.key? = entries.map Prod.fst := by
  induction each with
  | nil => rfl
  | @cons item entry items entries hgives _ ih =>
      have hkey : item.key? = some entry.1 := by
        cases hgives with
        | flag plain | text plain | bool plain => rfl
      rw [List.filterMap_cons_some hkey, ih, List.map_cons]

/-- What two lists in a row correspond to comes apart in the same way. -/
theorem forall₂_append_inv {α β : Type} {r : α → β → Prop} {first rest : List α} {l : List β}
    (h : List.Forall₂ r (first ++ rest) l) :
    ∃ front back, l = front ++ back ∧ List.Forall₂ r first front ∧ List.Forall₂ r rest back := by
  refine ⟨l.take first.length, l.drop first.length, (List.take_append_drop _ l).symm, ?_, ?_⟩
  · exact (List.forall₂_take_append _ _ _ h.flip).flip
  · exact (List.forall₂_drop_append _ _ _ h.flip).flip

-- ========================================================== more settings

/-- A setting that says what holds without it. -/
inductive Redundant (doc : String) : String × Setting → Prop
  | notRequired : Redundant doc ("required", .bool false)
  | sameDoc {text : String} (same : trim text = doc) : Redundant doc ("doc", .text text)

/-- A further setting of `required` that changes nothing is false. -/
theorem Redundant.of_required {doc : String} {setting : Setting}
    (h : Redundant doc ("required", setting)) : setting = .bool false := by
  generalize hentry : ("required", setting) = entry at h
  cases h with
  | notRequired => exact (Prod.mk.inj hentry).2
  | sameDoc same => exact absurd (Prod.mk.inj hentry).1 (by decide)

/-- A further documentation that changes nothing is the same line. -/
theorem Redundant.of_doc {doc : String} {setting : Setting} (h : Redundant doc ("doc", setting)) :
    ∃ text, setting = .text text ∧ trim text = doc := by
  generalize hentry : ("doc", setting) = entry at h
  cases h with
  | notRequired => exact absurd (Prod.mk.inj hentry).1 (by decide)
  | @sameDoc text same => exact ⟨text, (Prod.mk.inj hentry).2, same⟩

theorem settingOf?_append (first rest : List (String × Setting)) (key : String) :
    settingOf? (first ++ rest) key = (settingOf? rest key).or (settingOf? first key) := by
  rw [settingOf?, List.reverse_append, List.lookup_append]
  rfl

theorem modeEntries_append (first rest : List (String × Setting)) :
    modeEntries (first ++ rest) = modeEntries first ++ modeEntries rest :=
  List.filter_append first rest

/-- A way to visit the field is asked for if its key has a setting. -/
theorem mem_modesOf {key : String} {mode : FieldMode} (known : (key, mode) ∈ modeKeys)
    {setting? : String → Option Setting} {setting : Setting} (h : setting? key = some setting) :
    mode ∈ modesOf setting? := by
  refine List.mem_map.mpr ⟨(key, mode), List.mem_filter.mpr ⟨known, ?_⟩, rfl⟩
  rw [h, Option.isSome_some]

section

variable {doc : String} {first rest : List (String × Setting)}
  (distinct : ((first ++ rest).map Prod.fst).Nodup)
include distinct

theorem nodup_keys_left : (first.map Prod.fst).Nodup := by
  rw [List.map_append] at distinct
  exact distinct.of_append_left

theorem nodup_keys_right : (rest.map Prod.fst).Nodup := by
  rw [List.map_append] at distinct
  exact distinct.of_append_right

/-- A key of a later list is none of the first. -/
theorem settingOf?_eq_none_of_mem_rest {entry : String × Setting} (h : entry ∈ rest) :
    settingOf? first entry.1 = none := by
  rw [← Option.not_isSome_iff_eq_none, isSome_settingOf?_iff (nodup_keys_left distinct)]
  rw [List.map_append] at distinct
  exact fun hfirst => List.disjoint_of_nodup_append distinct hfirst (List.mem_map_of_mem h)

/-- What does not conflict with more does not conflict without it. -/
theorem coherent_of_append (h : Coherent (settingOf? (first ++ rest))) :
    Coherent (settingOf? first) := by
  rw [coherent_iff distinct, modeEntries_append, List.length_append] at h
  rw [coherent_iff (nodup_keys_left distinct)]
  obtain ⟨hallowed, hone⟩ := h
  refine ⟨fun entry hentry => hallowed entry (List.mem_append_left rest hentry), ?_⟩
  omega

/-- If a later list says how the field is visited, the first one does not. -/
theorem modesOf_eq_nil_of_mem_rest (h : Coherent (settingOf? (first ++ rest)))
    {entry : String × Setting} (hentry : entry ∈ rest)
    (hmode : entry.1 ∈ modeKeys.map Prod.fst) : modesOf (settingOf? first) = [] := by
  have hone := ((coherent_iff distinct).mp h).2
  have hrest : entry ∈ modeEntries rest := List.mem_filter.mpr ⟨hentry, decide_eq_true hmode⟩
  have hpos := List.length_pos_of_mem hrest
  rw [modeEntries_append, List.length_append] at hone
  rw [← List.length_eq_zero_iff, length_modesOf (nodup_keys_left distinct)]
  omega

/-- A setting of a later list with which the options are the same as without that list is
redundant. -/
theorem redundant_of_ofSettings_append_eq (h : Coherent (settingOf? (first ++ rest)))
    (hsame : FieldOptions.ofSettings doc (settingOf? (first ++ rest))
      = FieldOptions.ofSettings doc (settingOf? first))
    {entry : String × Setting} (hentry : entry ∈ rest) : Redundant doc entry := by
  obtain ⟨key, setting⟩ := entry
  have hnew : settingOf? first key = none := settingOf?_eq_none_of_mem_rest distinct hentry
  have hsetting : settingOf? (first ++ rest) key = some setting :=
    (settingOf?_eq_some_iff distinct).mpr (List.mem_append_right first hentry)
  obtain ⟨option, hsaid⟩ := h.allowed hsetting
  -- The part of the options that is the key's own tells what the setting is.
  cases hsaid with
  | required =>
      have hpart := congrArg (·.rule.required) hsame
      simp [FieldOptions.ofSettings, hnew, hsetting] at hpart
  | requiredBool value =>
      have hpart := congrArg (·.rule.required) hsame
      simp only [FieldOptions.ofSettings, hnew, hsetting] at hpart
      subst hpart
      exact .notRequired
  | default text =>
      have hpart := congrArg (·.rule.default?) hsame
      simp [FieldOptions.ofSettings, hnew, hsetting] at hpart
  | doc text =>
      have hpart := congrArg (·.rule.doc) hsame
      simp only [FieldOptions.ofSettings, hnew, hsetting] at hpart
      exact .sameDoc hpart
  | @mode _ mode known =>
      have hkey : key ∈ modeKeys.map Prod.fst := List.mem_map_of_mem known
      have hplain : (FieldOptions.ofSettings doc (settingOf? (first ++ rest))).mode = .value := by
        rw [hsame, FieldOptions.mode_ofSettings_eq_value_iff]
        exact modesOf_eq_nil_of_mem_rest distinct h hentry hkey
      have hasked := mem_modesOf known hsetting
      rw [FieldOptions.mode_ofSettings_eq_value_iff.mp hplain] at hasked
      cases hasked

end

section

variable {doc : String} {first rest : List (String × Setting)}
  (redundant : ∀ entry ∈ rest, Redundant doc entry)
include redundant

/-- Settings that change nothing say nothing of the mode. -/
theorem modeEntries_eq_nil_of_redundant : modeEntries rest = [] := by
  refine List.filter_eq_nil_iff.mpr fun entry hentry => ?_
  have hapart : "required" ∉ modeKeys.map Prod.fst ∧ "doc" ∉ modeKeys.map Prod.fst := by decide
  cases redundant entry hentry with
  | notRequired => simpa only [decide_eq_true_eq] using hapart.1
  | sameDoc same => simpa only [decide_eq_true_eq] using hapart.2

/-- Settings that change nothing are of the keys `required` and `doc` only. -/
theorem settingOf?_append_of_redundant {key : String} (hrequired : key ≠ "required")
    (hdoc : key ≠ "doc") : settingOf? (first ++ rest) key = settingOf? first key := by
  have hnone : settingOf? rest key = none := by
    refine lookup_eq_none_of_notMem fun hkey => ?_
    rw [List.map_reverse, List.mem_reverse] at hkey
    obtain ⟨entry, hentry, rfl⟩ := List.mem_map.mp hkey
    cases redundant entry hentry with
    | notRequired => exact hrequired rfl
    | sameDoc same => exact hdoc rfl
  rw [settingOf?_append, hnone, Option.none_or]

theorem modesOf_append_of_redundant :
    modesOf (settingOf? (first ++ rest)) = modesOf (settingOf? first) := by
  have hapart : ∀ entry ∈ modeKeys, entry.1 ≠ "required" ∧ entry.1 ≠ "doc" := by decide
  refine congrArg (List.map Prod.snd) (List.filter_congr fun entry hentry => ?_)
  obtain ⟨hrequired, hdoc⟩ := hapart entry hentry
  rw [settingOf?_append_of_redundant redundant hrequired hdoc]

variable (distinct : ((first ++ rest).map Prod.fst).Nodup)
include distinct

/-- Settings that change nothing conflict with none. -/
theorem coherent_append_of_redundant (h : Coherent (settingOf? first)) :
    Coherent (settingOf? (first ++ rest)) := by
  obtain ⟨hallowed, hone⟩ := (coherent_iff (nodup_keys_left distinct)).mp h
  rw [coherent_iff distinct, modeEntries_append, modeEntries_eq_nil_of_redundant redundant,
    List.append_nil]
  refine ⟨fun entry hentry => ?_, hone⟩
  rcases List.mem_append.mp hentry with hentry | hentry
  · exact hallowed entry hentry
  · cases redundant entry hentry with
    | notRequired => exact ⟨_, .requiredBool false⟩
    | @sameDoc text same => exact ⟨_, .doc text⟩

/-- The requirement and the description that a later list gives are those that hold without it, and
it gives nothing else. -/
theorem ofSettings_append_of_redundant :
    FieldOptions.ofSettings doc (settingOf? (first ++ rest))
      = FieldOptions.ofSettings doc (settingOf? first) := by
  have hdefault : settingOf? (first ++ rest) "default" = settingOf? first "default" :=
    settingOf?_append_of_redundant redundant (by decide) (by decide)
  have hfresh : ∀ {key setting}, settingOf? rest key = some setting →
      Redundant doc (key, setting) ∧ settingOf? first key = none := by
    intro key setting h
    have hmem := (settingOf?_eq_some_iff (nodup_keys_right distinct)).mp h
    exact ⟨redundant _ hmem, settingOf?_eq_none_of_mem_rest distinct hmem⟩
  unfold FieldOptions.ofSettings
  rw [modesOf_append_of_redundant redundant, hdefault, settingOf?_append, settingOf?_append]
  congr 2
  · cases hgiven : settingOf? rest "required" with
    | none => rw [Option.none_or]
    | some setting =>
        obtain ⟨hredundant, hnone⟩ := hfresh hgiven
        rw [hredundant.of_required, hnone, Option.some_or]
  · cases hgiven : settingOf? rest "doc" with
    | none => rw [Option.none_or]
    | some setting =>
        obtain ⟨hredundant, hnone⟩ := hfresh hgiven
        obtain ⟨text, rfl, hsame⟩ := hredundant.of_doc
        rw [hnone, Option.some_or]
        exact hsame

end

-- ======================================================== reading them all

/-- Every item is redundant, as each gives one entry. -/
theorem forall_redundant_iff {doc : String} {items : List Item} :
    (∀ item ∈ items, ∃ entry, item.Gives entry ∧ Redundant doc entry)
      ↔ ∃ entries, List.Forall₂ Item.Gives items entries
        ∧ ∀ entry ∈ entries, Redundant doc entry := by
  rw [← exists_forall₂_iff]
  refine exists_congr fun entries => ?_
  constructor
  · intro h
    have hflip : List.Forall₂ (fun entry item => Redundant doc entry ∧ flip Item.Gives entry item)
        entries items := h.flip.imp fun _ _ hboth => hboth.symm
    obtain ⟨hall, heach⟩ := (List.forall₂_and_left _ _).mp hflip
    exact ⟨heach.flip, hall⟩
  · rintro ⟨heach, hall⟩
    exact ((List.forall₂_and_left _ _).mpr ⟨hall, heach.flip⟩).flip.imp fun _ _ h => h.symm

namespace FieldOptions

section

variable {doc : String} {first rest : List Item} {options : FieldOptions}
  (distinct : ((first ++ rest).filterMap Item.key?).Nodup)
include distinct

/-- What a longer list comes to is read off its two parts. -/
theorem ofItems_append_iff :
    OfItems doc (first ++ rest) options
      ↔ ∃ front back, List.Forall₂ Item.Gives first front ∧ List.Forall₂ Item.Gives rest back
        ∧ ((front ++ back).map Prod.fst).Nodup ∧ Coherent (settingOf? (front ++ back))
        ∧ options = ofSettings doc (settingOf? (front ++ back)) := by
  constructor
  · rintro ⟨entries, heach, hentries⟩
    obtain ⟨front, back, rfl, hfront, hback⟩ := forall₂_append_inv heach
    rw [filterMap_key?_of_gives heach] at distinct
    exact ⟨front, back, hfront, hback, distinct, hentries⟩
  · rintro ⟨front, back, hfront, hback, -, hentries⟩
    exact ⟨front ++ back, List.rel_append hfront hback, hentries⟩

/-- A part of a list that comes to options does so, too. -/
theorem exists_ofItems_of_append (h : OfItems doc (first ++ rest) options) :
    ∃ fewer, OfItems doc first fewer := by
  obtain ⟨front, back, hfront, -, hkeys, hcoherent, -⟩ := (ofItems_append_iff distinct).mp h
  exact ⟨_, front, hfront, coherent_of_append hkeys hcoherent, rfl⟩

/-- If a list that is made longer comes to the same options, all that is added is redundant. -/
theorem redundant_of_ofItems_append (hfirst : OfItems doc first options)
    (h : OfItems doc (first ++ rest) options) :
    ∀ item ∈ rest, ∃ entry, item.Gives entry ∧ Redundant doc entry := by
  obtain ⟨front, back, hfront, hback, hkeys, hcoherent, hoptions⟩ :=
    (ofItems_append_iff distinct).mp h
  have hsame := hoptions.symm.trans ((ofItems_iff hfront).mp hfirst).2
  exact forall_redundant_iff.mpr ⟨back, hback, fun entry hentry =>
    redundant_of_ofSettings_append_eq hkeys hcoherent hsame hentry⟩

/-- If all that is added is redundant, a list comes to the same options with it. -/
theorem ofItems_append_iff_of_redundant
    (redundant : ∀ item ∈ rest, ∃ entry, item.Gives entry ∧ Redundant doc entry) :
    OfItems doc (first ++ rest) options ↔ OfItems doc first options := by
  obtain ⟨back, hback, hredundant⟩ := forall_redundant_iff.mp redundant
  constructor
  · intro h
    obtain ⟨front, other, hfront, hother, hkeys, hcoherent, rfl⟩ :=
      (ofItems_append_iff distinct).mp h
    cases rightUnique_gives.forall₂ hother hback
    exact ⟨front, hfront, coherent_of_append hkeys hcoherent,
      ofSettings_append_of_redundant hredundant hkeys⟩
  · rintro ⟨front, hfront, hcoherent, rfl⟩
    have heach := List.rel_append hfront hback
    rw [filterMap_key?_of_gives heach] at distinct
    exact ⟨front ++ back, heach, coherent_append_of_redundant hredundant distinct hcoherent,
      (ofSettings_append_of_redundant hredundant distinct).symm⟩

end

end FieldOptions

/-- Options in several lists, no key of which is repeated, give the same outcome as in one list
exactly if nothing is lost with the lists after the first: there are no options anyway, or every
later item gives an entry that is redundant. -/
theorem options_apart_eq_in_one_list_iff {attributes : List Attribute}
    (listed : ∀ attr ∈ attributes, attr.name = "field" → ∃ items, attr.argument = .items items)
    (distinct : ((optionLists attributes).flatten.filterMap Item.key?).Nodup) :
    (FieldOptions.ofAttributes attributes).toOption
        = (FieldOptions.ofAttributes (inOneList attributes)).toOption
      ↔ (∃ fault, FieldOptions.ofAttributes attributes = .error fault)
        ∨ ∀ item ∈ (optionLists attributes).tail.flatten,
            ∃ entry, item.Gives entry ∧ Redundant (docLine attributes) entry := by
  have hlists : (optionLists attributes).flatten
      = (optionLists attributes).headD [] ++ (optionLists attributes).tail.flatten := by
    cases optionLists attributes with
    | nil => rfl
    | cons items lists => rfl
  rw [hlists] at distinct
  simp only [toOption_eq_iff, FieldOptions.ofAttributes_inOneList_eq_ok_iff, hlists]
  constructor
  · intro h
    cases hread : FieldOptions.ofAttributes attributes with
    | error fault => exact .inl ⟨fault, rfl⟩
    | ok options =>
        have hfirst := (FieldOptions.ofAttributes_eq_ok_iff_of_listed listed).mp hread
        exact .inr (FieldOptions.redundant_of_ofItems_append distinct hfirst
          ((h options).mp hread))
  · rintro (⟨fault, hfault⟩ | hredundant) options
    · rw [hfault]
      refine iff_of_false (fun h => ?_) fun h => ?_
      · cases h
      · obtain ⟨fewer, hfewer⟩ := FieldOptions.exists_ofItems_of_append distinct h
        rw [← FieldOptions.ofAttributes_eq_ok_iff_of_listed listed, hfault] at hfewer
        cases hfewer
    · rw [FieldOptions.ofItems_append_iff_of_redundant distinct hredundant,
        FieldOptions.ofAttributes_eq_ok_iff_of_listed listed]

/-- A second list that denies a requirement and repeats the description loses nothing. -/
theorem options_apart_eq_in_one_list_same_doc :
    let attributes : List Attribute := [⟨"doc", .value (.text " Port to bind")⟩,
      ⟨"field", .items [.keyed "default" (.literal (.text "80")) false]⟩,
      ⟨"field", .items [.keyed "required" (.literal (.bool false)) false,
        .keyed "doc" (.literal (.text "Port to bind ")) false]⟩]
    ((optionLists attributes).flatten.filterMap Item.key?).Nodup
      ∧ (FieldOptions.ofAttributes attributes).toOption
        = (FieldOptions.ofAttributes (inOneList attributes)).toOption := by
  intro attributes
  have hlisted : ∀ attr ∈ attributes, attr.name = "field" →
      ∃ items, attr.argument = .items items := by
    simp [attributes]
  have hdistinct : ((optionLists attributes).flatten.filterMap Item.key?).Nodup := by decide
  refine ⟨hdistinct, (options_apart_eq_in_one_list_iff hlisted hdistinct).mpr (.inr ?_)⟩
  have hlater : (optionLists attributes).tail.flatten
      = [.keyed "required" (.literal (.bool false)) false,
        .keyed "doc" (.literal (.text "Port to bind ")) false] := by decide
  have hsame : trim "Port to bind " = docLine attributes := by decide
  simp only [hlater, List.forall_mem_cons, List.not_mem_nil, false_imp_iff, implies_true, and_true]
  exact ⟨⟨_, .bool (by simp), .notRequired⟩, ⟨_, .text (by simp), .sameDoc hsame⟩⟩

/-- A way to visit the field is lost with a second list, without an error. -/
theorem nested_in_second_list_lost :
    let attributes : List Attribute := [
      ⟨"field", .items [.keyed "default" (.literal (.text "x")) false]⟩,
      ⟨"field", .items [.keyed "nested" .absent false]⟩]
    ((optionLists attributes).flatten.filterMap Item.key?).Nodup
      ∧ FieldOptions.ofAttributes attributes = .ok ⟨⟨false, some "x", ""⟩, .value⟩
      ∧ FieldOptions.ofAttributes (inOneList attributes)
        = .ok ⟨⟨false, some "x", ""⟩, .group⟩ := by
  intro attributes
  refine ⟨by decide, ?_, ?_⟩
  · cbv
  · cbv

end EnvSettings.Derive
