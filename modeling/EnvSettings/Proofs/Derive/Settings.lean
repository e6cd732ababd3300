/-
The settings of a list of options. The items of the list go into a table, each in the place of an
earlier one for the same key. What the table holds can be told without it: of every key the setting
given last (`settingOf?`), and no key twice.

# Step and run

`lookup_putSetting` is the step: an item changes the setting of its own key and no other. The run is
`lookup_foldl_putSetting`, which finds the last setting of every key, and for the table from nothing
`lookup_tableOf`. That no key stands in a table twice, `nodup_keys_tableOf`, lets whoever goes
through the table take its entries one by one: an entry never meets a setting of its own key.
-/
import EnvSettings.Derive.FieldOptions
import EnvSettings.Proofs.Lists
import Mathlib.Data.List.Forall2
import Mathlib.Data.List.Nodup
import Mathlib.Logic.Function.Basic

namespace EnvSettings.Derive

-- ============================================================= traversals

section

variable {ε α β γ : Type}

/-- Two steps succeed exactly if the first does and the second does with its result. -/
theorem bind_eq_ok_iff {x : Except ε α} {f : α → Except ε β} {b : β} :
    x >>= f = .ok b ↔ ∃ a, x = .ok a ∧ f a = .ok b := by
  cases x with
  | error e =>
      constructor
      · intro h
        cases h
      · rintro ⟨a, h, -⟩
        cases h
  | ok a =>
      constructor
      · intro h
        exact ⟨a, rfl, h⟩
      · rintro ⟨a, h, hb⟩
        cases h
        exact hb

theorem bind_return_eq_ok_iff {x : Except ε α} {f : α → β} {b : β} :
    (do return f (← x)) = .ok b ↔ ∃ a, x = .ok a ∧ b = f a := by
  rw [bind_eq_ok_iff]
  refine exists_congr fun a => and_congr_right fun _ => ?_
  constructor
  · intro h
    cases h
    rfl
  · rintro rfl
    rfl

/-- If a step takes in what an element gives, and fails where it gives nothing, then going through a
list is taking in what the elements give. -/
theorem foldlM_eq_ok_iff {step : γ → α → Except ε γ} {gives : α → β → Prop} {f : γ → β → γ}
    (hstep : ∀ c a r, step c a = .ok r ↔ ∃ b, gives a b ∧ r = f c b) {l : List α}
    {start result : γ} :
    l.foldlM step start = .ok result
      ↔ ∃ bs, List.Forall₂ gives l bs ∧ result = bs.foldl f start := by
  induction l generalizing start with
  | nil =>
      rw [List.foldlM_nil]
      constructor
      · intro h
        cases h
        exact ⟨[], .nil, rfl⟩
      · rintro ⟨_, h, rfl⟩
        cases h
        rfl
  | cons a l ih =>
      rw [List.foldlM_cons, bind_eq_ok_iff]
      simp only [hstep, ih]
      constructor
      · rintro ⟨_, ⟨b, hb, rfl⟩, bs, hbs, rfl⟩
        exact ⟨b :: bs, .cons hb hbs, rfl⟩
      · rintro ⟨_, h, rfl⟩
        cases h with
        | @cons _ b _ bs hb hbs => exact ⟨_, ⟨b, hb, rfl⟩, bs, hbs, rfl⟩

/-- Every element has a counterpart exactly if the list has one. -/
theorem exists_forall₂_iff {r : α → β → Prop} {l : List α} :
    (∃ bs, List.Forall₂ r l bs) ↔ ∀ a ∈ l, ∃ b, r a b := by
  induction l with
  | nil =>
      refine ⟨fun _ a ha => ?_, fun _ => ⟨[], .nil⟩⟩
      cases ha
  | cons a l ih =>
      rw [List.forall_mem_cons, ← ih]
      constructor
      · rintro ⟨_, h⟩
        cases h with
        | cons hb hbs => exact ⟨⟨_, hb⟩, _, hbs⟩
      · rintro ⟨⟨b, hb⟩, bs, hbs⟩
        exact ⟨b :: bs, .cons hb hbs⟩

end

-- ================================================================== items

/-- The item gives a key a setting: it is a plain name, alone or with a text or a truth value, and
nothing else stands before the next comma. -/
inductive Item.Gives : Item → String × Setting → Prop
  | flag {key : String} (plain : key.contains ':' = false) :
      Gives (.keyed key .absent false) (key, .flag)
  | text {key text : String} (plain : key.contains ':' = false) :
      Gives (.keyed key (.literal (.text text)) false) (key, .text text)
  | bool {key : String} {value : Bool} (plain : key.contains ':' = false) :
      Gives (.keyed key (.literal (.bool value)) false) (key, .bool value)

/-- An item is read as the setting that it gives. -/
theorem Item.setting_eq_ok_iff {item : Item} {entry : String × Setting} :
    item.setting = .ok entry ↔ item.Gives entry := by
  constructor
  · intro h
    cases item with
    | noKey found => cases h
    | keyed key value more =>
        unfold Item.setting at h
        simp only at h
        split at h
        · cases h
        · next hplain =>
            rw [Bool.not_eq_true] at hplain
            obtain ⟨setting, hsetting, hend⟩ := bind_eq_ok_iff.mp h
            cases more with
            | true => cases hend
            | false =>
                cases hend
                unfold ItemValue.setting at hsetting
                split at hsetting
                · cases hsetting
                  exact .flag hplain
                · cases hsetting
                  exact .text hplain
                · cases hsetting
                  exact .bool hplain
                · cases hsetting
                · cases hsetting
  · intro h
    cases h with
    | flag plain | text plain | bool plain =>
        unfold Item.setting
        simp only [plain]
        rfl

-- ================================================================== table

/-- The setting of a key that counts among several entries: the last one. -/
def settingOf? (entries : List (String × Setting)) (key : String) : Option Setting :=
  entries.reverse.lookup key

theorem settingOf?_cons (entry : String × Setting) (entries : List (String × Setting))
    (key : String) :
    settingOf? (entry :: entries) key
      = (settingOf? entries key).or (if key = entry.1 then some entry.2 else none) := by
  unfold settingOf?
  rw [List.reverse_cons, List.lookup_append, lookup_cons_eq_ite, List.lookup_nil]

/-- One more entry changes the setting of its own key and no other. -/
theorem lookup_putSetting (entry : String × Setting) (table : List (String × Setting))
    (key : String) :
    (putSetting entry table).lookup key
      = if key = entry.1 then some entry.2 else table.lookup key := by
  induction table with
  | nil => rw [putSetting, lookup_cons_eq_ite]
  | cons other table ih =>
      rw [putSetting]
      split
      · next htaken =>
          rw [lookup_cons_eq_ite, lookup_cons_eq_ite, htaken]
          split
          · rfl
          · rfl
      · next htaken =>
          rw [lookup_cons_eq_ite, lookup_cons_eq_ite, ih]
          by_cases hkey : key = other.1
          · rw [if_pos hkey, if_pos hkey, if_neg (hkey ▸ htaken)]
          · rw [if_neg hkey, if_neg hkey]

/-- In a table that entries are put into, the last entry of a key is found. -/
theorem lookup_foldl_putSetting (entries table : List (String × Setting)) (key : String) :
    (entries.foldl (fun table entry => putSetting entry table) table).lookup key
      = (settingOf? entries key).or (table.lookup key) := by
  induction entries generalizing table with
  | nil => rfl
  | cons entry entries ih =>
      rw [List.foldl_cons, ih, lookup_putSetting, settingOf?_cons, Option.or_assoc]
      congr 1
      by_cases hkey : key = entry.1
      · rw [if_pos hkey, if_pos hkey]
        rfl
      · rw [if_neg hkey, if_neg hkey]
        rfl

/-- The table that is filled from entries. -/
def tableOf (entries : List (String × Setting)) : List (String × Setting) :=
  entries.foldl (fun table entry => putSetting entry table) []

/-- In a table every key has the setting that counts. -/
theorem lookup_tableOf (entries : List (String × Setting)) :
    (List.lookup · (tableOf entries)) = settingOf? entries := by
  funext key
  exact (lookup_foldl_putSetting entries [] key).trans Option.or_none

/-- An entry adds its key unless it is there. -/
theorem map_fst_putSetting (entry : String × Setting) (table : List (String × Setting)) :
    (putSetting entry table).map Prod.fst
      = if entry.1 ∈ table.map Prod.fst then table.map Prod.fst
        else table.map Prod.fst ++ [entry.1] := by
  induction table with
  | nil => rfl
  | cons other table ih =>
      simp only [putSetting]
      by_cases htaken : other.1 = entry.1
      · simp [htaken]
      · have hother : ¬ entry.1 = other.1 := fun h => htaken h.symm
        rw [if_neg htaken, List.map_cons, ih, List.map_cons]
        by_cases hmem : entry.1 ∈ table.map Prod.fst
        · rw [if_pos hmem, if_pos (List.mem_cons_of_mem _ hmem)]
        · rw [if_neg hmem, if_neg (List.not_mem_cons_of_ne_of_not_mem hother hmem)]
          rfl

/-- No key stands in a table twice. -/
theorem nodup_keys_putSetting (entry : String × Setting) {table : List (String × Setting)}
    (h : (table.map Prod.fst).Nodup) : ((putSetting entry table).map Prod.fst).Nodup := by
  rw [map_fst_putSetting]
  split
  · exact h
  · next hmem => exact List.concat_eq_append ▸ h.concat hmem

/-- A table that entries are put into keeps its keys distinct. -/
theorem nodup_keys_foldl_putSetting (entries : List (String × Setting))
    {table : List (String × Setting)} (h : (table.map Prod.fst).Nodup) :
    ((entries.foldl (fun table entry => putSetting entry table) table).map Prod.fst).Nodup := by
  induction entries generalizing table with
  | nil => exact h
  | cons entry entries ih => exact ih (nodup_keys_putSetting entry h)

/-- The keys of a table are distinct. -/
theorem nodup_keys_tableOf (entries : List (String × Setting)) :
    ((tableOf entries).map Prod.fst).Nodup :=
  nodup_keys_foldl_putSetting entries List.nodup_nil

theorem lookup_eq_none_of_notMem {table : List (String × Setting)} {key : String}
    (hnew : key ∉ table.map Prod.fst) : table.lookup key = none := by
  rw [List.lookup_eq_none_iff]
  intro entry hentry
  rw [bne_iff_ne]
  exact fun h => hnew (h ▸ List.mem_map_of_mem hentry)

/-- In a table without repeated keys an entry of a new key counts beside all others. -/
theorem lookup_concat {table : List (String × Setting)} {entry : String × Setting}
    (hnew : entry.1 ∉ table.map Prod.fst) :
    (List.lookup · (table ++ [entry]))
      = Function.update (List.lookup · table) entry.1 (some entry.2) := by
  funext key
  show (table ++ [entry]).lookup key = _
  rw [List.lookup_append, lookup_cons_eq_ite, List.lookup_nil]
  by_cases hkey : key = entry.1
  · rw [if_pos hkey, hkey, lookup_eq_none_of_notMem hnew, Function.update_self]
    rfl
  · rw [if_neg hkey, Option.or_none, Function.update_of_ne hkey]

/-- Items have a table of settings exactly if each gives a setting. -/
theorem settings_eq_ok_iff {items : List Item} {table : List (String × Setting)} :
    settings items = .ok table
      ↔ ∃ entries, List.Forall₂ Item.Gives items entries ∧ table = tableOf entries := by
  refine foldlM_eq_ok_iff fun table item result => ?_
  rw [bind_return_eq_ok_iff]
  simp only [Item.setting_eq_ok_iff]

end EnvSettings.Derive
