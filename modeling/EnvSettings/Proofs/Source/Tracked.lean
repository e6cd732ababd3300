/-
What a tracked source knows. It keeps the questions it was asked; a name counts as fetched
exactly if a question asks for its value (`Tracked.mem_fetched`), whatever the answer was.
-/
import EnvSettings.Source.Tracked

namespace EnvSettings.Source

-- ======================================================== ascending names

/-- Putting a name in its place adds that name and no other. -/
theorem mem_insertName {name new : String} {names : List String} :
    name ∈ insertName new names ↔ name = new ∨ name ∈ names := by
  induction names with
  | nil => simp [insertName]
  | cons other rest ih =>
      unfold insertName
      by_cases hlt : new < other
      · rw [if_pos hlt, List.mem_cons]
      · rw [if_neg hlt]
        by_cases heq : new = other
        · rw [if_pos heq, heq, List.mem_cons, or_self_left]
        · rw [if_neg heq, List.mem_cons, ih, List.mem_cons, or_left_comm]

/-- Putting names in order keeps them. -/
theorem mem_ascending {name : String} {names : List String} :
    name ∈ ascending names ↔ name ∈ names := by
  induction names with
  | nil => rfl
  | cons other rest ih =>
      rw [List.mem_cons, ← ih]
      exact mem_insertName

/-- Putting a name in its place keeps names in strictly ascending order. -/
theorem pairwise_insertName {name : String} {names : List String}
    (hnames : names.Pairwise (· < ·)) : (insertName name names).Pairwise (· < ·) := by
  induction names with
  | nil => exact List.pairwise_singleton _ _
  | cons other rest ih =>
      obtain ⟨hother, hrest⟩ := List.pairwise_cons.mp hnames
      unfold insertName
      by_cases hlt : name < other
      · rw [if_pos hlt]
        refine List.pairwise_cons.mpr ⟨fun b hb => ?_, hnames⟩
        rcases List.mem_cons.mp hb with rfl | hb
        · exact hlt
        · exact String.lt_trans hlt (hother b hb)
      · rw [if_neg hlt]
        by_cases heq : name = other
        · rw [if_pos heq]
          exact hnames
        · rw [if_neg heq]
          have hgt : other < name := Decidable.of_not_not fun hge =>
            heq (String.le_antisymm (String.not_lt.mp hge) (String.not_lt.mp hlt))
          refine List.pairwise_cons.mpr ⟨fun b hb => ?_, ih hrest⟩
          rcases mem_insertName.mp hb with rfl | hb
          · exact hgt
          · exact hother b hb

/-- Names in ascending order are so, each once. -/
theorem pairwise_ascending (names : List String) : (ascending names).Pairwise (· < ·) := by
  induction names with
  | nil => exact List.Pairwise.nil
  | cons name names ih => exact pairwise_insertName ih

theorem nodup_of_pairwise_lt {names : List String} (hnames : names.Pairwise (· < ·)) :
    names.Nodup := by
  refine hnames.imp ?_
  rintro a b hlt rfl
  exact String.lt_irrefl a hlt

/-- Strictly ascending lists with the same names are the same. -/
theorem eq_of_pairwise_lt {names others : List String} (hnames : names.Pairwise (· < ·))
    (hothers : others.Pairwise (· < ·)) (hmem : ∀ name, name ∈ names ↔ name ∈ others) :
    names = others := by
  refine List.Perm.eq_of_pairwise (fun a b _ _ hab hba => ?_) hnames hothers ?_
  · exact absurd (String.lt_trans hab hba) (String.lt_irrefl a)
  · exact (List.perm_ext_iff_of_nodup (nodup_of_pairwise_lt hnames)
      (nodup_of_pairwise_lt hothers)).mpr hmem

-- ================================================================ tracking

/-- A question asks for a name exactly if it asks for its value. -/
theorem Call.name?_eq_some_iff {call : Call} {name : String} :
    call.name? = some name ↔ call = .get name := by
  cases call with
  | get other => simp [Call.name?]
  | list => simp [Call.name?]

/-- The names fetched are those whose value was asked for. -/
theorem Tracked.mem_fetched {t : Tracked} {name : String} :
    name ∈ t.fetched ↔ .get name ∈ t.calls := by
  unfold fetched
  rw [mem_ascending, List.mem_filterMap]
  constructor
  · rintro ⟨call, hcall, hname⟩
    rw [Call.name?_eq_some_iff.mp hname] at hcall
    exact hcall
  · intro hget
    exact ⟨_, hget, rfl⟩

end EnvSettings.Source
