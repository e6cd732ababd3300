/-
Lists cut in two: behind the run of elements in front for which something holds, and around one
element, with what stands before it and what stands behind it. Lists cut at every mark. Elements
side by side. Lists of what the elements of another one make, each at least one. And tables searched
for a key.

A list around an element starts with what stands before it or, if that is nothing, with the element;
and so it ends.
-/
import EnvSettings.Pieces
import Mathlib.Data.List.Chain
import Mathlib.Data.List.Forall2
import Mathlib.Data.List.TakeWhile

namespace EnvSettings

/-- Where `p` holds of all of a list's front and not of what comes next, the front is the run. -/
theorem span_append {α : Type} {p : α → Bool} {front back : List α}
    (hfront : ∀ a ∈ front, p a = true) (hback : ∀ a ∈ back.head?, p a = false) :
    (front ++ back).takeWhile p = front ∧ (front ++ back).dropWhile p = back := by
  rw [List.takeWhile_append_of_pos hfront, List.dropWhile_append_of_pos hfront]
  cases back with
  | nil => simp
  | cons a back =>
      have ha : ¬ p a = true := by simpa using hback a rfl
      rw [List.takeWhile_cons_of_neg ha, List.dropWhile_cons_of_neg ha, List.append_nil]
      exact ⟨rfl, rfl⟩

/-- The first element of a list around `a` is the first one before `a`, or `a`. -/
theorem forall_mem_head?_around {α : Type} {p : α → Prop} {before : List α} {a : α}
    (hbefore : ∀ b ∈ before.head?, p b) (ha : p a) (behind : List α) :
    ∀ b ∈ (before ++ a :: behind).head?, p b := by
  cases before with
  | nil => simpa using ha
  | cons b before => simpa using hbefore

/-- The last element of a list around `a` is the last one behind `a`, or `a`. -/
theorem forall_mem_getLast?_around {α : Type} {p : α → Prop} {behind : List α} {a : α}
    (before : List α) (ha : p a) (hbehind : ∀ b ∈ behind.getLast?, p b) :
    ∀ b ∈ (before ++ a :: behind).getLast?, p b := by
  have hreverse : (before ++ a :: behind).reverse
      = behind.reverse ++ a :: before.reverse := by simp
  rw [List.getLast?_eq_head?_reverse, hreverse]
  rw [List.getLast?_eq_head?_reverse] at hbehind
  exact forall_mem_head?_around hbehind ha before.reverse

section

variable {α : Type} [DecidableEq α] {mark : α} {as : List α}

/-- There is a piece behind every mark, and one in front of them all. -/
theorem length_splitOn (mark : α) (as : List α) :
    (as.splitOn mark).length = as.count mark + 1 := by
  induction as with
  | nil => rfl
  | cons a as ih =>
      rw [List.splitOn_cons_eq_if_modifyHead]
      by_cases ha : a = mark
      · rw [if_pos (beq_iff_eq.mpr ha), List.length_cons, ih, ha, List.count_cons_self]
      · rw [if_neg (fun h => ha (beq_iff_eq.mp h)), List.length_modifyHead, ih,
          List.count_cons_of_ne ha]

/-- No piece has the mark in it. -/
theorem notMem_of_mem_splitOn {piece : List α} (hpiece : piece ∈ as.splitOn mark) :
    mark ∉ piece := by
  induction as generalizing piece with
  | nil =>
      rw [List.splitOn_nil, List.mem_singleton] at hpiece
      rw [hpiece]
      exact List.not_mem_nil
  | cons a as ih =>
      rw [List.splitOn_cons_eq_if_modifyHead] at hpiece
      by_cases ha : a = mark
      · rw [if_pos (beq_iff_eq.mpr ha), List.mem_cons] at hpiece
        rcases hpiece with rfl | hpiece
        · exact List.not_mem_nil
        · exact ih hpiece
      · rw [if_neg fun h => ha (beq_iff_eq.mp h)] at hpiece
        -- the element goes in front of the first piece of the others
        cases hcut : as.splitOn mark with
        | nil => exact absurd hcut (List.splitOn_ne_nil mark as)
        | cons first others =>
            rw [hcut, List.modifyHead_cons, List.mem_cons] at hpiece
            rw [hcut] at ih
            rcases hpiece with rfl | hpiece
            · rw [List.mem_cons, not_or]
              exact ⟨Ne.symm ha, ih List.mem_cons_self⟩
            · exact ih (List.mem_cons_of_mem _ hpiece)

/-- What stands behind a mark is cut for itself. -/
theorem piecesEndedBy_append_cons (as rest : List α) :
    piecesEndedBy mark (as ++ mark :: rest) = as.splitOn mark ++ piecesEndedBy mark rest := by
  have hlast : (as.splitOn mark ++ rest.splitOn mark).getLast? = (rest.splitOn mark).getLast? :=
    List.getLast?_append_of_ne_nil _ (List.splitOn_ne_nil mark rest)
  have hinit : (as.splitOn mark ++ rest.splitOn mark).dropLast
      = as.splitOn mark ++ (rest.splitOn mark).dropLast :=
    List.dropLast_append_of_ne_nil (List.splitOn_ne_nil mark rest)
  simp only [piecesEndedBy, List.splitOn_append_cons_self, hlast, hinit]
  split
  · rfl
  · rfl

/-- Without a mark there is one piece, which has to be something. -/
theorem piecesEndedBy_of_notMem (has : mark ∉ as) (hsome : as ≠ []) :
    piecesEndedBy mark as = [as] := by
  have hlast : ¬ [as].getLast? = some [] := fun h => hsome (Option.some.inj h)
  unfold piecesEndedBy
  rw [List.splitOn_eq_singleton has, if_neg hlast]
end
/-- A relation holds along a list exactly if it holds of every two elements side by side. -/
theorem isChain_iff_forall_pair {α : Type} {r : α → α → Prop} {as : List α} :
    as.IsChain r ↔ ∀ a b, [a, b] <:+: as → r a b := by
  apply Iff.intro
  · intro hchain a b hpair
    have hboth := List.IsChain.infix hchain hpair
    exact List.isChain_pair.mp hboth
  · intro hpairs
    rw [List.isChain_iff_forall_rel_of_append_cons_cons]
    intro a b front back hparts
    exact hpairs a b ⟨front, back, by simp [hparts]⟩

/-- Where every element of a list makes at least one other, at least as many are made. -/
theorem length_le_length_flatMap {α β : Type} {f : α → List β} {as : List α}
    (hsome : ∀ a ∈ as, f a ≠ []) : as.length ≤ (as.flatMap f).length := by
  induction as with
  | nil => exact Nat.le_refl 0
  | cons a as ih =>
      obtain ⟨ha, has⟩ := List.forall_mem_cons.mp hsome
      have hpos : 0 < (f a).length := List.length_pos_iff.mpr ha
      have hrest := ih has
      rw [List.flatMap_cons, List.length_append, List.length_cons]
      omega

/-- There are as many exactly if each makes one. -/
theorem length_flatMap_eq_length_iff {α β : Type} {f : α → List β} {as : List α}
    (hsome : ∀ a ∈ as, f a ≠ []) :
    (as.flatMap f).length = as.length ↔ ∀ a ∈ as, (f a).length = 1 := by
  induction as with
  | nil => simp
  | cons a as ih =>
      obtain ⟨ha, has⟩ := List.forall_mem_cons.mp hsome
      have hpos : 0 < (f a).length := List.length_pos_iff.mpr ha
      have hrest := length_le_length_flatMap has
      rw [List.forall_mem_cons, ← ih has, List.flatMap_cons, List.length_append, List.length_cons]
      omega

/-- What they make corresponds to them exactly if each makes one that corresponds to it. -/
theorem forall₂_flatMap_iff {α β : Type} {r : α → β → Prop} {f : α → List β} {as : List α}
    (hsome : ∀ a ∈ as, f a ≠ []) :
    List.Forall₂ r as (as.flatMap f) ↔ ∀ a ∈ as, ∃ b, f a = [b] ∧ r a b := by
  constructor
  · intro hall
    have hone := (length_flatMap_eq_length_iff hsome).mp hall.length_eq.symm
    clear hsome
    induction as with
    | nil => simp
    | cons a as ih =>
        obtain ⟨ha, has⟩ := List.forall_mem_cons.mp hone
        obtain ⟨b, hb⟩ := List.length_eq_one_iff.mp ha
        rw [List.flatMap_cons, hb, List.singleton_append] at hall
        obtain ⟨hr, hrest⟩ := List.forall₂_cons.mp hall
        exact List.forall_mem_cons.mpr ⟨⟨b, hb, hr⟩, ih hrest has⟩
  · intro hall
    clear hsome
    induction as with
    | nil => exact .nil
    | cons a as ih =>
        obtain ⟨⟨b, hb, hr⟩, hrest⟩ := List.forall_mem_cons.mp hall
        rw [List.flatMap_cons, hb, List.singleton_append]
        exact .cons hr (ih hrest)

/-- An element of a list is its first one, with nothing before it, or one of the others. -/
theorem exists_split_cons_iff {α : Type} {a : α} {as : List α}
    {p : List α → α → List α → Prop} :
    (∃ before b after, a :: as = before ++ b :: after ∧ p before b after)
      ↔ p [] a as ∨ ∃ before b after, as = before ++ b :: after ∧ p (a :: before) b after := by
  apply Iff.intro
  · intro ⟨before, b, after, hsplit, hp⟩
    cases before with
    | nil =>
        obtain ⟨rfl, rfl⟩ := List.cons.inj hsplit
        exact Or.inl hp
    | cons c before =>
        obtain ⟨rfl, htail⟩ := List.cons.inj hsplit
        exact Or.inr ⟨before, b, after, htail, hp⟩
  · intro h
    rcases h with hp | ⟨before, b, after, rfl, hp⟩
    · exact ⟨[], a, as, rfl, hp⟩
    · exact ⟨a :: before, b, after, rfl, hp⟩

/-- An entry in front of a table is found for its own key and for no other. -/
theorem lookup_cons_eq_ite {α β : Type} [BEq α] [LawfulBEq α] [DecidableEq α] (entry : α × β)
    (table : List (α × β)) (key : α) :
    (entry :: table).lookup key = if key = entry.1 then some entry.2 else table.lookup key := by
  obtain ⟨own, value⟩ := entry
  rw [List.lookup_cons]
  by_cases hkey : key = own
  · simp [hkey]
  · rw [beq_false_of_ne hkey, if_neg hkey]

end EnvSettings
