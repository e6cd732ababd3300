/-
The options of a field mean the same in every order, that in which they are written and that in
which their table is gone through.

If no key is repeated, a table is known by its entries: the setting of a key is the one it is listed
with (`lookup_eq_some_iff_mem`), and rearranging the entries changes no setting
(`lookup_of_perm`). What options come out depends on the settings alone, so it is the same for all
arrangements, and so is whether any come out: every entry must be allowed, and at most one may say
how the field is visited (`coherent_iff`).
-/
import EnvSettings.Proofs.Derive.Options
import Mathlib.Data.List.Permutation

namespace EnvSettings.Derive

-- ========================================================== distinct keys

/-- Where keys are distinct, a setting is found exactly if it is there. -/
theorem lookup_eq_some_iff_mem {table : List (String × Setting)}
    (distinct : (table.map Prod.fst).Nodup) {key : String} {setting : Setting} :
    table.lookup key = some setting ↔ (key, setting) ∈ table := by
  induction table with
  | nil => simp
  | cons entry table ih =>
      obtain ⟨hnew, hdistinct⟩ := List.nodup_cons.mp distinct
      rw [lookup_cons_eq_ite, List.mem_cons, ← ih hdistinct]
      by_cases hkey : key = entry.1
      · rw [if_pos hkey, hkey, lookup_eq_none_of_notMem hnew]
        simp [Prod.ext_iff, eq_comm]
      · rw [if_neg hkey]
        simp [Prod.ext_iff, hkey]

/-- Rearranging a table changes no setting. -/
theorem lookup_of_perm {table other : List (String × Setting)}
    (distinct : (table.map Prod.fst).Nodup) (h : table.Perm other) :
    (List.lookup · table) = (List.lookup · other) := by
  have hother : (other.map Prod.fst).Nodup := (h.map Prod.fst).nodup_iff.mp distinct
  funext key
  ext setting
  rw [lookup_eq_some_iff_mem distinct, lookup_eq_some_iff_mem hother]
  exact h.mem_iff

section

variable {entries : List (String × Setting)} (distinct : (entries.map Prod.fst).Nodup)
include distinct

/-- Where keys are distinct, a key has a setting exactly if the two stand together. -/
theorem settingOf?_eq_some_iff {key : String} {setting : Setting} :
    settingOf? entries key = some setting ↔ (key, setting) ∈ entries := by
  have hreverse : (entries.reverse.map Prod.fst).Nodup :=
    (entries.reverse_perm.map Prod.fst).nodup_iff.mpr distinct
  rw [settingOf?, lookup_eq_some_iff_mem hreverse, List.mem_reverse]

/-- The order of entries with distinct keys does not count. -/
theorem settingOf?_of_perm {other : List (String × Setting)} (h : entries.Perm other) :
    settingOf? entries = settingOf? other := by
  have hother : (other.map Prod.fst).Nodup := (h.map Prod.fst).nodup_iff.mp distinct
  funext key
  ext setting
  rw [settingOf?_eq_some_iff distinct, settingOf?_eq_some_iff hother]
  exact h.mem_iff

theorem isSome_settingOf?_iff {key : String} :
    (settingOf? entries key).isSome = true ↔ key ∈ entries.map Prod.fst := by
  simp [Option.isSome_iff_exists, settingOf?_eq_some_iff distinct]

end

-- =============================================================== coherence

/-- The entries that say how the field is visited. -/
def modeEntries (entries : List (String × Setting)) : List (String × Setting) :=
  entries.filter fun entry => entry.1 ∈ modeKeys.map Prod.fst

/-- As many ways to visit the field are asked for as entries ask for one. -/
theorem length_modesOf {entries : List (String × Setting)}
    (distinct : (entries.map Prod.fst).Nodup) :
    (modesOf (settingOf? entries)).length = (modeEntries entries).length := by
  have hmodeKeys : (modeKeys.map Prod.fst).Nodup := by decide
  have hasked : ((modeKeys.filter fun entry => (settingOf? entries entry.1).isSome).map
      Prod.fst).Nodup := hmodeKeys.sublist (List.filter_sublist.map Prod.fst)
  have hasking : ((modeEntries entries).map Prod.fst).Nodup :=
    distinct.sublist (List.filter_sublist.map Prod.fst)
  have hsame : ((modeKeys.filter fun entry => (settingOf? entries entry.1).isSome).map
      Prod.fst).Perm ((modeEntries entries).map Prod.fst) := by
    refine (List.perm_ext_iff_of_nodup hasked hasking).mpr fun key => ?_
    simp only [modeEntries, List.mem_map, List.mem_filter, isSome_settingOf?_iff distinct,
      decide_eq_true_eq]
    constructor
    · rintro ⟨mode, ⟨hmode, entry, hentry, hkey⟩, rfl⟩
      exact ⟨entry, ⟨hentry, mode, hmode, hkey.symm⟩, hkey⟩
    · rintro ⟨entry, ⟨hentry, mode, hmode, hkey⟩, rfl⟩
      exact ⟨mode, ⟨hmode, entry, hentry, hkey.symm⟩, hkey⟩
  have hlength := hsame.length_eq
  rwa [List.length_map, List.length_map, ← List.length_map Prod.snd] at hlength

/-- Entries of different keys are coherent if each is allowed and at most one of them says how the
field is visited. -/
theorem coherent_iff {entries : List (String × Setting)}
    (distinct : (entries.map Prod.fst).Nodup) :
    Coherent (settingOf? entries)
      ↔ (∀ entry ∈ entries, ∃ option, FieldOption.Says entry.1 entry.2 option)
        ∧ (modeEntries entries).length ≤ 1 := by
  rw [← length_modesOf distinct]
  constructor
  · rintro ⟨hallowed, hone⟩
    exact ⟨fun entry hentry => hallowed ((settingOf?_eq_some_iff distinct).mpr hentry), hone⟩
  · rintro ⟨hallowed, hone⟩
    exact ⟨fun h => hallowed _ ((settingOf?_eq_some_iff distinct).mp h), hone⟩

-- ================================================================== order

namespace FieldOptions

/-- Reads the attributes of a field, going through the table of its options in a given order. -/
def ofAttributesIn (order : List (String × Setting) → List (String × Setting))
    (attributes : List Attribute) : Except Fault FieldOptions :=
  let plain : FieldOptions := ⟨⟨false, none, docLine attributes⟩, .value⟩
  match attributes.find? (·.name = "field") with
  | none => .ok plain
  | some attr =>
    match attr.argument with
    | .items items => do plain.addAll (order (← settings items))
    | _ => .error .optionsNotListed

/-- The table's own order is one of them. -/
theorem ofAttributesIn_id : ofAttributesIn id = ofAttributes := rfl

/-- The options that are read do not depend on the order. -/
theorem ofAttributesIn_eq_ok_iff {order : List (String × Setting) → List (String × Setting)}
    (rearranges : ∀ table, (order table).Perm table) {attributes : List Attribute}
    {options : FieldOptions} :
    ofAttributesIn order attributes = .ok options ↔ ofAttributes attributes = .ok options := by
  unfold ofAttributesIn ofAttributes
  cases attributes.find? (·.name = "field") with
  | none => rfl
  | some attr =>
      cases hargument : attr.argument with
      | absent | value literal => simp only [hargument]
      | items items =>
          simp only [hargument, bind_eq_ok_iff]
          refine exists_congr fun table => and_congr_right fun htable => ?_
          obtain ⟨entries, -, rfl⟩ := settings_eq_ok_iff.mp htable
          have hkeys := nodup_keys_tableOf entries
          have horder := (rearranges (tableOf entries)).symm
          rw [addAll_eq_ok_iff hkeys, addAll_eq_ok_iff ((horder.map Prod.fst).nodup_iff.mp hkeys),
            lookup_of_perm hkeys horder]

end FieldOptions

-- ================================================================ outcome

theorem toOption_eq_some_iff {ε α : Type} {x : Except ε α} {a : α} :
    x.toOption = some a ↔ x = .ok a := by
  cases x with
  | error e => simp [Except.toOption]
  | ok b => simp [Except.toOption]

/-- Two readings have the same outcome if they give the same results: then they fail together. -/
theorem toOption_eq_iff {ε α : Type} {x y : Except ε α} :
    x.toOption = y.toOption ↔ ∀ a, x = .ok a ↔ y = .ok a := by
  rw [Option.ext_iff]
  simp only [toOption_eq_some_iff]

/-- An item gives one setting at most. -/
theorem rightUnique_gives : Relator.RightUnique Item.Gives := by
  intro item entry other hentry hother
  rw [← Item.setting_eq_ok_iff] at hentry hother
  exact Except.ok.inj (hentry.symm.trans hother)

/-- Options are no part of a description. -/
theorem docLine_filter (attributes : List Attribute) :
    docLine (attributes.filter (·.name ≠ "field")) = docLine attributes := by
  simp only [docLine, List.filterMap_filter]
  refine congrArg _ (List.filterMap_congr fun attr _ => ?_)
  by_cases hfield : attr.name = "field"
  · simp [hfield]
  · simp [hfield]

namespace FieldOptions

/-- The options that a list of items comes to. -/
def OfItems (doc : String) (items : List Item) (options : FieldOptions) : Prop :=
  ∃ entries, List.Forall₂ Item.Gives items entries ∧ Coherent (settingOf? entries)
    ∧ options = ofSettings doc (settingOf? entries)

/-- Items come to options exactly if their settings are coherent. -/
theorem ofItems_iff {doc : String} {items : List Item} {entries : List (String × Setting)}
    (each : List.Forall₂ Item.Gives items entries) {options : FieldOptions} :
    OfItems doc items options
      ↔ Coherent (settingOf? entries) ∧ options = ofSettings doc (settingOf? entries) := by
  constructor
  · rintro ⟨other, heach, hother⟩
    rwa [rightUnique_gives.forall₂ heach each] at hother
  · exact fun h => ⟨entries, each, h⟩

/-- The first list of options is read. -/
theorem ofAttributes_eq_ok_iff_of_find? {attributes : List Attribute} {attr : Attribute}
    {items : List Item} (hfind : attributes.find? (·.name = "field") = some attr)
    (hitems : attr.argument = .items items) {options : FieldOptions} :
    ofAttributes attributes = .ok options ↔ OfItems (docLine attributes) items options := by
  rw [ofAttributes_eq_ok_iff, SaidBy, OfItems]
  refine exists_congr fun entries => and_congr_left fun _ => ?_
  rw [Attribute.giveSettings_iff_of_find?_eq_some hfind]
  constructor
  · rintro ⟨_, hother, heach⟩
    cases hitems.symm.trans hother
    exact heach
  · exact fun heach => ⟨items, hitems, heach⟩

/-- A list of options is read by its entries, wherever it stands among attributes of other
kinds. -/
theorem ofAttributes_one_list_iff {before after : List Attribute} {items : List Item}
    {entries : List (String × Setting)}
    (once : ∀ other ∈ before ++ after, other.name ≠ "field")
    (each : List.Forall₂ Item.Gives items entries) {options : FieldOptions} :
    ofAttributes (before ++ ⟨"field", .items items⟩ :: after) = .ok options
      ↔ Coherent (settingOf? entries)
        ∧ options = ofSettings (docLine (before ++ after)) (settingOf? entries) := by
  have hfind : (before ++ ⟨"field", .items items⟩ :: after).find? (·.name = "field")
      = some ⟨"field", .items items⟩ := by
    rw [List.find?_eq_some_iff_append]
    refine ⟨rfl, before, after, rfl, fun other hother => ?_⟩
    simpa using once other (List.mem_append_left _ hother)
  have hdoc : docLine (before ++ ⟨"field", .items items⟩ :: after) = docLine (before ++ after) := by
    rw [← docLine_filter, List.filter_append, List.filter_cons_of_neg (by simp),
      ← List.filter_append, docLine_filter]
  rw [ofAttributes_eq_ok_iff_of_find? hfind rfl, ofItems_iff each, hdoc]

end FieldOptions

/-- The options in one list mean the same in every order. For entries of different keys there is one
outcome, options or none, of the list in every arrangement and with its table gone through in every
order, the program's own among them. There are options exactly if every entry is allowed and at most
one says how the field is visited. -/
theorem options_in_any_order {before after : List Attribute} {items : List Item}
    {entries : List (String × Setting)}
    (once : ∀ other ∈ before ++ after, other.name ≠ "field")
    (each : List.Forall₂ Item.Gives items entries) (distinct : (entries.map Prod.fst).Nodup) :
    ∃ outcome : Option FieldOptions,
      (FieldOptions.ofAttributes (before ++ ⟨"field", .items items⟩ :: after)).toOption = outcome
      ∧ (∀ arranged order, arranged.Perm items → (∀ table, (order table).Perm table) →
        (FieldOptions.ofAttributesIn order
          (before ++ ⟨"field", .items arranged⟩ :: after)).toOption = outcome)
      ∧ (outcome.isSome = true
        ↔ (∀ entry ∈ entries, ∃ option, FieldOption.Says entry.1 entry.2 option)
          ∧ (entries.filter fun entry => entry.1 ∈ modeKeys.map Prod.fst).length ≤ 1) := by
  refine ⟨_, rfl, fun arranged order harranged horder => ?_, ?_⟩
  · obtain ⟨given, hgiven, hentries⟩ := List.perm_comp_forall₂ harranged each
    refine toOption_eq_iff.mpr fun options => ?_
    rw [FieldOptions.ofAttributesIn_eq_ok_iff horder,
      FieldOptions.ofAttributes_one_list_iff once hgiven,
      FieldOptions.ofAttributes_one_list_iff once each,
      settingOf?_of_perm distinct hentries.symm]
  · rw [← modeEntries, ← coherent_iff distinct, Option.isSome_iff_exists]
    simp only [toOption_eq_some_iff, FieldOptions.ofAttributes_one_list_iff once each]
    exact ⟨fun ⟨_, hcoherent, _⟩ => hcoherent, fun hcoherent => ⟨_, hcoherent, rfl⟩⟩

/-- A default, a description and a way to visit the field, written in another order and gone through
in a third. -/
theorem options_in_any_order_group :
    let before : List Attribute := [⟨"doc", .value (.text "what")⟩]
    let items : List Item := [.keyed "default" (.literal (.text "x")) false,
      .keyed "nested" .absent false, .keyed "doc" (.literal (.text " where ")) false]
    let arranged : List Item := [.keyed "nested" .absent false,
      .keyed "doc" (.literal (.text " where ")) false,
      .keyed "default" (.literal (.text "x")) false]
    let entries := [("default", Setting.text "x"), ("nested", .flag), ("doc", .text " where ")]
    List.Forall₂ Item.Gives items entries ∧ (entries.map Prod.fst).Nodup
      ∧ ∃ options : FieldOptions,
        FieldOptions.ofAttributes (before ++ [⟨"field", .items items⟩]) = .ok options
        ∧ FieldOptions.ofAttributesIn List.reverse
            (before ++ [⟨"field", .items arranged⟩]) = .ok options := by
  intro before items arranged entries
  have honce : ∀ other ∈ before ++ [], other.name ≠ "field" := by simp [before]
  have hgives : List.Forall₂ Item.Gives items entries :=
    .cons (.text (by simp)) (.cons (.flag (by simp)) (.cons (.text (by simp)) .nil))
  have hdistinct : (entries.map Prod.fst).Nodup := by decide
  have hallowed : ∀ entry ∈ entries, ∃ option, FieldOption.Says entry.1 entry.2 option := by
    simp only [entries, List.forall_mem_cons, List.not_mem_nil, false_imp_iff, implies_true,
      and_true]
    exact ⟨⟨_, .default "x"⟩, ⟨.mode .group, .mode (by decide)⟩, ⟨_, .doc " where "⟩⟩
  obtain ⟨outcome, hown, hany, hsome⟩ := options_in_any_order honce hgives hdistinct
  obtain ⟨options, rfl⟩ := Option.isSome_iff_exists.mp (hsome.mpr ⟨hallowed, by decide⟩)
  have harranged := hany arranged List.reverse (by decide) List.reverse_perm
  exact ⟨hgives, hdistinct, options, toOption_eq_some_iff.mp hown,
    toOption_eq_some_iff.mp harranged⟩

end EnvSettings.Derive
