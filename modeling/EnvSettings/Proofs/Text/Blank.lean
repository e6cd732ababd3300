/-
What trimming leaves of a text: the part between the white space at its ends that neither starts nor
ends with white space itself (`trimBlank_eq_iff`). There is one such part, so white space can be put
around a text, and trimming takes it off again.
-/
import EnvSettings.Text.Blank
import EnvSettings.Proofs.Lists
import Mathlib.Data.List.DropRight

namespace EnvSettings.Text

/-- Around `core` stands nothing but white space, and `core` has none at its own ends. -/
structure Trims (cs core : List Char) : Prop where
  around : ∃ front back, cs = front ++ core ++ back
    ∧ (∀ c ∈ front, isBlank c = true) ∧ ∀ c ∈ back, isBlank c = true
  start : ∀ c ∈ core.head?, isBlank c = false
  finish : ∀ c ∈ core.getLast?, isBlank c = false

/-- White space behind a text without any at its end is what is dropped there. -/
theorem trimEnd_append {core back : List Char} (hcore : ∀ c ∈ core.getLast?, isBlank c = false)
    (hback : ∀ c ∈ back, isBlank c = true) : trimEnd (core ++ back) = core := by
  have hreverse : ∀ c ∈ back.reverse, isBlank c = true := by simpa using hback
  have hhead : ∀ c ∈ core.reverse.head?, isBlank c = false := by simpa using hcore
  rw [trimEnd, List.reverse_append, (span_append hreverse hhead).2, List.reverse_reverse]

/-- A text has one core, and trimming finds it. -/
theorem Trims.trimBlank_eq {cs core : List Char} (h : Trims cs core) : trimBlank cs = core := by
  obtain ⟨⟨front, back, rfl, hfront, hback⟩, hstart, hfinish⟩ := h
  cases core with
  | nil =>
      have hall : ∀ c ∈ front ++ [] ++ back, isBlank c = true := by
        intro c hc
        rcases List.mem_append.mp hc with hc | hc
        · exact hfront c (by simpa using hc)
        · exact hback c hc
      rw [trimBlank, List.dropWhile_eq_nil_iff.mpr hall]
      rfl
  | cons c core =>
      have hhead : ∀ d ∈ (c :: core ++ back).head?, isBlank d = false := hstart
      rw [trimBlank, List.append_assoc, (span_append hfront hhead).2]
      exact trimEnd_append hfinish hback

theorem blank_eq_false_of_mem_getLast? (cs : List Char) :
    ∀ c ∈ (cs.rdropWhile isBlank).getLast?, isBlank c = false := by
  intro c hc
  obtain ⟨hne, hlast⟩ := List.mem_getLast?_eq_getLast hc
  have hnot := List.rdropWhile_last_not isBlank cs hne
  rw [hlast]
  exact Bool.eq_false_iff.mpr hnot

/-- Trimming leaves a core of the text. -/
theorem trims_trimBlank (cs : List Char) : Trims cs (trimBlank cs) := by
  have hend : trimBlank cs = (cs.dropWhile isBlank).rdropWhile isBlank := rfl
  have hparts : cs = cs.takeWhile isBlank ++ trimBlank cs
      ++ (cs.dropWhile isBlank).rtakeWhile isBlank := by
    rw [hend, List.append_assoc, List.rdropWhile_append_rtakeWhile,
      List.takeWhile_append_dropWhile]
  refine ⟨⟨_, _, hparts, fun c hc => List.mem_takeWhile_imp hc,
    fun c hc => List.mem_rtakeWhile_imp hc⟩, fun c hc => ?_, fun c hc => ?_⟩
  · -- the first character that is left is the first one behind the white space
    have hhead : c ∈ (cs.dropWhile isBlank).head? := by
      obtain ⟨rest, hrest⟩ := List.rdropWhile_prefix isBlank (cs.dropWhile isBlank)
      rw [← hrest, ← hend, List.head?_append, Option.mem_def.mp hc]
      rfl
    have hnot := List.head?_dropWhile_not isBlank cs
    rw [Option.mem_def.mp hhead] at hnot
    exact hnot
  · exact blank_eq_false_of_mem_getLast? _ c hc

/-- What trimming leaves starts with the first character that is not white space. -/
theorem exists_trims_cons {front : List Char} (hfront : ∀ c ∈ front, isBlank c = true) {c : Char}
    (hc : isBlank c = false) (rest : List Char) :
    ∃ core, Trims (front ++ c :: rest) (c :: core) := by
  have hparts : front ++ c :: rest
      = front ++ (c :: rest.rdropWhile isBlank) ++ rest.rtakeWhile isBlank := by
    rw [List.append_assoc, List.cons_append, List.rdropWhile_append_rtakeWhile]
  refine ⟨rest.rdropWhile isBlank, ⟨front, _, hparts, hfront,
    fun d hd => List.mem_rtakeWhile_imp hd⟩, fun d hd => ?_, fun d hd => ?_⟩
  · rw [← Option.some.inj hd]
    exact hc
  · have hends := blank_eq_false_of_mem_getLast? rest
    have hall : ∀ e ∈ ([] ++ c :: rest.rdropWhile isBlank).getLast?, isBlank e = false :=
      forall_mem_getLast?_around [] hc hends
    exact hall d hd

/-- Trimming leaves the one part of a text around which it is trimmed. -/
theorem trimBlank_eq_iff {cs core : List Char} : trimBlank cs = core ↔ Trims cs core := by
  apply Iff.intro
  · intro h
    rw [← h]
    exact trims_trimBlank cs
  · exact Trims.trimBlank_eq

end EnvSettings.Text
