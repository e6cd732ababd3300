/-
What the attributes of a field say, without the way in which it is read.

Of every key the setting that is given last counts. Every setting that counts must be an allowed
one, at most one of them may say how the field is visited (`Coherent`), and the settings that count
say what the options are (`FieldOptions.ofSettings`). `FieldOptions.ofAttributes_eq_ok_iff` proves
that nothing else matters, not the table and not the order in which it is gone through.

# Step and run

`FieldOptions.add_ofSettings` is the step of going through the table: to the options of some
settings one of a new key is added, and what comes out are the options of the settings with the new
one, or the error of a second way to visit the field. The run, `FieldOptions.addAll_eq_ok_iff`, is
by induction on the table from its end.
-/
import EnvSettings.Proofs.Derive.Settings
import Mathlib.Data.List.Induction

namespace EnvSettings.Derive

open EnvSettings.Text

-- ================================================================ options

/-- The keys that say how a field is visited. -/
def modeKeys : List (String × FieldMode) :=
  [("nested", .group), ("registered", .registered), ("skip", .skip)]

/-- What a setting says, if it is allowed for the key. -/
inductive FieldOption.Says : String → Setting → FieldOption → Prop
  | required : Says "required" .flag (.required true)
  | requiredBool (value : Bool) : Says "required" (.bool value) (.required value)
  | default (text : String) : Says "default" (.text text) (.default text)
  | doc (text : String) : Says "doc" (.text text) (.doc (trim text))
  | mode {key : String} {mode : FieldMode} (known : (key, mode) ∈ modeKeys) :
      Says key .flag (.mode mode)

/-- An option is read exactly from the key and the setting that say it. -/
theorem FieldOption.read_eq_ok_iff {key : String} {setting : Setting} {option : FieldOption} :
    FieldOption.read key setting = .ok option ↔ Says key setting option := by
  constructor
  · intro h
    unfold FieldOption.read at h
    split at h <;> cases h
    · exact .required
    · exact .requiredBool _
    · exact .default _
    · exact .doc _
    · exact .mode (by decide)
    · exact .mode (by decide)
    · exact .mode (by decide)
  · intro h
    cases h with
    | required | requiredBool value | default text | doc text => rfl
    | mode known =>
        rcases List.mem_cons.mp known with h | known
        · cases h
          rfl
        · rcases List.mem_cons.mp known with h | known
          · cases h
            rfl
          · cases List.mem_singleton.mp known
            rfl

/-- The ways to visit the field that settings ask for. -/
def modesOf (setting? : String → Option Setting) : List FieldMode :=
  (modeKeys.filter fun entry => (setting? entry.1).isSome).map Prod.snd

/-- Settings of other keys do not count for the mode. -/
theorem modesOf_update_of_notMem {key : String} (hkey : key ∉ modeKeys.map Prod.fst)
    (setting? : String → Option Setting) (new? : Option Setting) :
    modesOf (Function.update setting? key new?) = modesOf setting? := by
  unfold modesOf
  refine congrArg (List.map Prod.snd) (List.filter_congr fun entry hentry => ?_)
  have hne : entry.1 ≠ key := fun h => hkey (h ▸ List.mem_map_of_mem hentry)
  rw [Function.update_of_ne hne]

/-- One more element is kept: it stands somewhere among the others. -/
theorem filter_perm_cons {α : Type} {l : List α} (hl : l.Nodup) {a : α} (ha : a ∈ l)
    {p q : α → Bool} (hp : p a = false) (hq : q a = true) (hother : ∀ b ∈ l, b ≠ a → q b = p b) :
    (l.filter q).Perm (a :: l.filter p) := by
  obtain ⟨before, after, rfl⟩ := List.append_of_mem ha
  have hnotMem := (List.nodup_middle.mp hl).notMem
  have hsame : ∀ b ∈ before ++ after, q b = p b := by
    intro b hb
    refine hother b ?_ fun h => hnotMem (h ▸ hb)
    rw [List.mem_append] at hb ⊢
    exact hb.imp_right (List.mem_cons_of_mem a)
  have hbefore : before.filter q = before.filter p :=
    List.filter_congr fun b hb => hsame b (List.mem_append_left _ hb)
  have hafter : after.filter q = after.filter p :=
    List.filter_congr fun b hb => hsame b (List.mem_append_right _ hb)
  rw [List.filter_append, List.filter_append, List.filter_cons_of_pos hq,
    List.filter_cons_of_neg (by rw [hp]; decide), hbefore, hafter]
  exact List.perm_middle

/-- A setting of a new key that says how the field is visited adds this way to the others. -/
theorem modesOf_update_perm {key : String} {mode : FieldMode} (hkey : (key, mode) ∈ modeKeys)
    {setting? : String → Option Setting} (hnew : setting? key = none) (setting : Setting) :
    (modesOf (Function.update setting? key (some setting))).Perm (mode :: modesOf setting?) := by
  have hdistinct : (modeKeys.map Prod.fst).Nodup := by decide
  have hother : ∀ entry ∈ modeKeys, entry ≠ (key, mode) → entry.1 ≠ key := by
    intro entry hentry hne hsame
    exact hne (List.inj_on_of_nodup_map hdistinct hentry hkey hsame)
  refine List.Perm.map Prod.snd (filter_perm_cons (.of_map _ hdistinct) hkey ?_ ?_ ?_)
  · simp only [hnew, Option.isSome_none]
  · simp only [Function.update_self, Option.isSome_some]
  · intro entry hentry hne
    rw [Function.update_of_ne (hother entry hentry hne)]

/-- Every setting is allowed, and at most one says how the field is visited. -/
structure Coherent (setting? : String → Option Setting) : Prop where
  allowed : ∀ {key : String} {setting : Setting}, setting? key = some setting →
    ∃ option, FieldOption.Says key setting option
  oneMode : (modesOf setting?).length ≤ 1

/-- Where nothing is said, nothing is in conflict. -/
theorem coherent_nothing : Coherent fun _ => none := by
  refine ⟨fun h => ?_, Nat.zero_le _⟩
  cases h

/-- A setting of a new key keeps the settings coherent if it is allowed and asks for no second way
to visit the field. -/
theorem coherent_update_iff {key : String} {setting? : String → Option Setting} {setting : Setting}
    (hnew : setting? key = none) :
    Coherent (Function.update setting? key (some setting))
      ↔ Coherent setting? ∧ (∃ option, FieldOption.Says key setting option)
        ∧ (modesOf (Function.update setting? key (some setting))).length ≤ 1 := by
  constructor
  · intro h
    have hfewer : (modesOf setting?).length
        ≤ (modesOf (Function.update setting? key (some setting))).length := by
      refine ((List.monotone_filter_right modeKeys fun entry hentry => ?_).map Prod.snd).length_le
      by_cases hkey : entry.1 = key
      · rw [hkey, Function.update_self]
        rfl
      · rw [Function.update_of_ne hkey]
        exact hentry
    refine ⟨⟨fun {other} old hother => ?_, Nat.le_trans hfewer h.oneMode⟩, ?_, h.oneMode⟩
    · have hne : other ≠ key := by
        rintro rfl
        rw [hnew] at hother
        cases hother
      exact h.allowed ((Function.update_of_ne hne _ _).trans hother)
    · exact h.allowed (Function.update_self _ _ _)
  · rintro ⟨h, hsaid, hone⟩
    refine ⟨fun {other} old hother => ?_, hone⟩
    by_cases hkey : other = key
    · subst hkey
      rw [Function.update_self] at hother
      cases hother
      exact hsaid
    · rw [Function.update_of_ne hkey] at hother
      exact h.allowed hother

namespace FieldOptions

/-- The options that settings amount to, with the description that stands before the field where
none of them gives one. -/
def ofSettings (doc : String) (setting? : String → Option Setting) : FieldOptions where
  rule := {
    required :=
      match setting? "required" with
      | some .flag => true
      | some (.bool value) => value
      | _ => false
    default? :=
      match setting? "default" with
      | some (.text text) => some text
      | _ => none
    doc :=
      match setting? "doc" with
      | some (.text text) => trim text
      | _ => doc }
  mode := (modesOf setting?).head?.getD .value

/-- The mode is plain exactly if no setting asks for another one. -/
theorem mode_ofSettings_eq_value_iff {doc : String} {setting? : String → Option Setting} :
    (ofSettings doc setting?).mode = .value ↔ modesOf setting? = [] := by
  have hplain : ∀ entry ∈ modeKeys, entry.2 ≠ .value := by decide
  show (modesOf setting?).head?.getD .value = .value ↔ _
  cases hmodes : modesOf setting? with
  | nil => exact iff_of_true rfl rfl
  | cons mode modes =>
      have hmem : mode ∈ modesOf setting? := hmodes ▸ List.mem_cons_self
      obtain ⟨entry, hentry, rfl⟩ := List.mem_map.mp hmem
      exact iff_of_false (hplain entry (List.mem_filter.mp hentry).1) (List.cons_ne_nil _ _)

/-- A setting that says how the field is visited leaves its policy alone. -/
theorem rule_ofSettings_update (doc : String) {key : String} {mode : FieldMode}
    (known : (key, mode) ∈ modeKeys) (setting? : String → Option Setting) (new? : Option Setting) :
    (ofSettings doc (Function.update setting? key new?)).rule = (ofSettings doc setting?).rule := by
  have hapart : ∀ entry ∈ modeKeys,
      "required" ≠ entry.1 ∧ "default" ≠ entry.1 ∧ "doc" ≠ entry.1 := by decide
  obtain ⟨hrequired, hdefault, hdoc⟩ := hapart _ known
  simp only [ofSettings, Function.update_of_ne hrequired, Function.update_of_ne hdefault,
    Function.update_of_ne hdoc]

/-- An option of a new key is added to what is known unless it asks for a second way to visit the
field. -/
theorem add_ofSettings {doc key : String} {setting? : String → Option Setting} {setting : Setting}
    {option : FieldOption} (hsaid : FieldOption.Says key setting option)
    (hnew : setting? key = none) (hone : (modesOf setting?).length ≤ 1) :
    (ofSettings doc setting?).add option
      = if (modesOf (Function.update setting? key (some setting))).length ≤ 1 then
          .ok (ofSettings doc (Function.update setting? key (some setting)))
        else .error .severalModes := by
  have hsame : key ∉ modeKeys.map Prod.fst →
      modesOf (Function.update setting? key (some setting)) = modesOf setting? :=
    fun hkey => modesOf_update_of_notMem hkey setting? (some setting)
  cases hsaid with
  | required | requiredBool value | default text | doc text =>
      have hmodes := hsame (by decide)
      rw [hmodes, if_pos hone]
      simp [ofSettings, add, hmodes]
  | @mode _ mode known =>
      have hmodes := modesOf_update_perm known hnew .flag
      by_cases hfree : modesOf setting? = []
      · rw [hfree] at hmodes
        have hthis := List.perm_singleton.mp hmodes
        have hsingle : [mode].length ≤ 1 := Nat.le_refl 1
        rw [add, if_pos (mode_ofSettings_eq_value_iff.mpr hfree), hthis, if_pos hsingle]
        refine congrArg Except.ok ?_
        have hrule := rule_ofSettings_update doc known setting? (some .flag)
        have hmode : (ofSettings doc (Function.update setting? key (some .flag))).mode = mode := by
          show (modesOf _).head?.getD .value = mode
          rw [hthis]
          rfl
        rw [← hrule, ← hmode]
      · have hmore : ¬ (modesOf (Function.update setting? key (some .flag))).length ≤ 1 := by
          have hpos := List.length_pos_iff.mpr hfree
          rw [hmodes.length_eq, List.length_cons]
          omega
        rw [add, if_neg (mt mode_ofSettings_eq_value_iff.mp hfree), if_neg hmore]

/-- A table without repeated keys gives options exactly if its settings are coherent, and then those
that they amount to. -/
theorem addAll_eq_ok_iff {doc : String} {table : List (String × Setting)}
    (hkeys : (table.map Prod.fst).Nodup) {options : FieldOptions} :
    addAll ⟨⟨false, none, doc⟩, .value⟩ table = .ok options
      ↔ Coherent (List.lookup · table) ∧ options = ofSettings doc (List.lookup · table) := by
  induction table using List.reverseRecOn generalizing options with
  | nil =>
      constructor
      · intro h
        cases h
        exact ⟨coherent_nothing, rfl⟩
      · rintro ⟨-, rfl⟩
        rfl
  | append_singleton table entry ih =>
      obtain ⟨key, setting⟩ := entry
      rw [List.map_append, List.map_singleton, List.nodup_append] at hkeys
      obtain ⟨hkeys, -, hapart⟩ := hkeys
      have hfresh : key ∉ table.map Prod.fst := fun h => hapart key h key (by simp) rfl
      have hnew : table.lookup key = none := lookup_eq_none_of_notMem hfresh
      rw [lookup_concat hfresh, coherent_update_iff hnew, addAll, List.foldlM_append,
        bind_eq_ok_iff]
      constructor
      · rintro ⟨known, hknown, hlast⟩
        obtain ⟨hcoherent, rfl⟩ := (ih hkeys).mp hknown
        rw [List.foldlM_cons, bind_eq_ok_iff] at hlast
        obtain ⟨_, hlast, hdone⟩ := hlast
        cases hdone
        obtain ⟨option, hread, hadd⟩ := bind_eq_ok_iff.mp hlast
        have hsaid := FieldOption.read_eq_ok_iff.mp hread
        rw [add_ofSettings hsaid hnew hcoherent.oneMode] at hadd
        split at hadd
        · next hone =>
            cases hadd
            exact ⟨⟨hcoherent, ⟨option, hsaid⟩, hone⟩, rfl⟩
        · cases hadd
      · rintro ⟨⟨hcoherent, ⟨option, hsaid⟩, hone⟩, rfl⟩
        refine ⟨_, (ih hkeys).mpr ⟨hcoherent, rfl⟩, ?_⟩
        rw [List.foldlM_cons, bind_eq_ok_iff]
        refine ⟨_, bind_eq_ok_iff.mpr ⟨option, FieldOption.read_eq_ok_iff.mpr hsaid, ?_⟩, rfl⟩
        rw [add_ofSettings hsaid hnew hcoherent.oneMode, if_pos hone]

end FieldOptions

-- ============================================================= attributes

/-- The settings that the attributes of a field give, in their order: those of the first list of
options, or none. -/
inductive Attribute.GiveSettings : List Attribute → List (String × Setting) → Prop
  | none {attributes : List Attribute} (plain : ∀ attr ∈ attributes, attr.name ≠ "field") :
      GiveSettings attributes []
  | first {before after : List Attribute} {attr : Attribute} {items : List Item}
      {entries : List (String × Setting)} (earlier : ∀ other ∈ before, other.name ≠ "field")
      (name : attr.name = "field") (list : attr.argument = .items items)
      (each : List.Forall₂ Item.Gives items entries) :
      GiveSettings (before ++ attr :: after) entries

/-- The attributes of a field are well-formed and say that these are its options. -/
def FieldOptions.SaidBy (attributes : List Attribute) (options : FieldOptions) : Prop :=
  ∃ entries, Attribute.GiveSettings attributes entries ∧ Coherent (settingOf? entries)
    ∧ options = .ofSettings (docLine attributes) (settingOf? entries)

/-- Without a list of options there are no settings. -/
theorem Attribute.giveSettings_iff_of_find?_eq_none {attributes : List Attribute}
    {entries : List (String × Setting)} (h : attributes.find? (·.name = "field") = .none) :
    GiveSettings attributes entries ↔ entries = [] := by
  have hplain : ∀ attr ∈ attributes, attr.name ≠ "field" := by
    simpa only [List.find?_eq_none, decide_eq_true_eq] using h
  constructor
  · intro hgive
    cases hgive with
    | none plain => rfl
    | first earlier name list each => exact absurd name (hplain _ (by simp))
  · rintro rfl
    exact .none hplain

/-- Only the first attribute for the field gives settings. -/
theorem Attribute.giveSettings_iff_of_find?_eq_some {attributes : List Attribute}
    {entries : List (String × Setting)} {attr : Attribute}
    (h : attributes.find? (·.name = "field") = some attr) :
    GiveSettings attributes entries
      ↔ ∃ items, attr.argument = .items items ∧ List.Forall₂ Item.Gives items entries := by
  constructor
  · intro hgive
    cases hgive with
    | none plain =>
        have hname := List.find?_some h
        exact absurd (of_decide_eq_true hname) (plain _ (List.mem_of_find?_eq_some h))
    | @first before after other items _ earlier name list each =>
        have hfirst : (before ++ other :: after).find? (·.name = "field") = some other := by
          rw [List.find?_eq_some_iff_append]
          refine ⟨decide_eq_true name, before, after, rfl, fun a ha => ?_⟩
          simpa using earlier a ha
        rw [hfirst] at h
        cases h
        exact ⟨items, list, each⟩
  · rintro ⟨items, hlist, heach⟩
    obtain ⟨hname, before, after, rfl, hbefore⟩ := List.find?_eq_some_iff_append.mp h
    refine .first (fun other hother => ?_) (of_decide_eq_true hname) hlist heach
    simpa using hbefore other hother

/-- The options of a field are read from its attributes exactly if these are well-formed and say
so. -/
theorem FieldOptions.ofAttributes_eq_ok_iff {attributes : List Attribute} {options : FieldOptions} :
    ofAttributes attributes = .ok options ↔ SaidBy attributes options := by
  unfold ofAttributes SaidBy
  cases hfind : attributes.find? (·.name = "field") with
  | none =>
      simp only [Attribute.giveSettings_iff_of_find?_eq_none hfind]
      constructor
      · intro h
        cases h
        exact ⟨[], rfl, coherent_nothing, rfl⟩
      · rintro ⟨_, rfl, -, rfl⟩
        rfl
  | some attr =>
      simp only [Attribute.giveSettings_iff_of_find?_eq_some hfind]
      cases hargument : attr.argument with
      | items items =>
          simp only [bind_eq_ok_iff, settings_eq_ok_iff]
          constructor
          · rintro ⟨_, ⟨entries, heach, rfl⟩, hall⟩
            rw [addAll_eq_ok_iff (nodup_keys_tableOf entries), lookup_tableOf] at hall
            exact ⟨entries, ⟨items, rfl, heach⟩, hall⟩
          · rintro ⟨entries, ⟨_, hitems, heach⟩, hall⟩
            cases hitems
            refine ⟨_, ⟨entries, heach, rfl⟩, ?_⟩
            rw [addAll_eq_ok_iff (nodup_keys_tableOf entries), lookup_tableOf]
            exact hall
      | absent | value literal =>
          refine iff_of_false (fun h => ?_) ?_
          · cases h
          · rintro ⟨_, ⟨_, hlist, -⟩, -⟩
            cases hlist

end EnvSettings.Derive
