/-
Texts without control characters, and the lines of a text.

A control character can end a line, move a cursor or start an escape sequence of a terminal, so a
message into which some other text has been copied should have none. Quoting takes care of that:
whatever a text is, its quoted form has no control character (`controlFree_quote`), because a
character that shows is none and every other one is written as an escape. And a text made of lines
that have no newline in them has these lines and no others (`lines_join`).
-/
import EnvSettings.Proofs.Lists
import EnvSettings.Text.Quoted

namespace EnvSettings.Text

-- ====================================================== control characters

/-- The character is one of the two sets of control characters or the delete character. -/
def isControl (c : Char) : Bool :=
  decide (c.toNat < 0x20) || (decide (0x7f ≤ c.toNat) && decide (c.toNat < 0xa0))

/-- No character of the text is a control character. -/
def ControlFree (s : String) : Prop := ∀ c ∈ s.toList, isControl c = false

theorem forall_isControl_of_all {cs : List Char} (h : cs.all (!isControl ·) = true) :
    ∀ c ∈ cs, isControl c = false := by
  intro c hc
  exact (Bool.not_eq_true' _).mp (List.all_eq_true.mp h c hc)

/-- To decide is to look at the characters of the text, not at all characters that there are. -/
instance : DecidablePred ControlFree := fun s =>
  decidable_of_iff (s.toList.all (!isControl ·) = true)
    ⟨forall_isControl_of_all, fun h => List.all_eq_true.mpr fun c hc => by rw [h c hc]; rfl⟩

namespace ControlFree

/-- Texts without control characters have none in a row. -/
theorem append {s t : String} (hs : ControlFree s) (ht : ControlFree t) : ControlFree (s ++ t) := by
  intro c hc
  rw [String.toList_append] at hc
  rcases List.mem_append.mp hc with hc | hc
  · exact hs c hc
  · exact ht c hc

theorem ofList {cs : List Char} (h : ∀ c ∈ cs, isControl c = false) :
    ControlFree (String.ofList cs) := by
  intro c hc
  rw [String.toList_ofList] at hc
  exact h c hc

/-- Texts between which stands another one. -/
theorem intercalate {between : String} (hbetween : ControlFree between) {texts : List String}
    (htexts : ∀ t ∈ texts, ControlFree t) : ControlFree (between.intercalate texts) := by
  induction texts with
  | nil => exact fun c hc => nomatch hc
  | cons t texts ih =>
      have hfirst := htexts t List.mem_cons_self
      have hrest := ih fun u hu => htexts u (List.mem_cons_of_mem _ hu)
      cases texts with
      | nil =>
          rw [String.intercalate_singleton]
          exact hfirst
      | cons u texts =>
          rw [String.intercalate_cons_cons]
          exact (hfirst.append hbetween).append hrest

/-- A newline is a control character. -/
theorem newline_not_mem {s : String} (h : ControlFree s) : '\n' ∉ s.toList := by
  intro hmem
  have hfree := h '\n' hmem
  cases hfree

end ControlFree

-- ================================================================= digits

theorem isControl_of_isDigit {c : Char} (h : c.isDigit = true) : isControl c = false := by
  have hrange : 48 ≤ c.toNat ∧ c.toNat ≤ 57 := Char.isDigit_iff_toNat.mp h
  unfold isControl
  rw [Bool.or_eq_false_iff, Bool.and_eq_false_iff, decide_eq_false_iff_not,
    decide_eq_false_iff_not, decide_eq_false_iff_not]
  omega

theorem isControl_digitChar (n : Nat) : isControl n.digitChar = false := by
  by_cases hn : n < 16
  · have hdigits : ∀ d < 16, isControl (Nat.digitChar d) = false := by decide
    exact hdigits n hn
  · rw [Nat.digitChar_eq_star.mpr (by omega)]
    decide

/-- The digits of a number are its last digit and those of the number without it. -/
theorem isControl_of_mem_toDigits {base : Nat} (hbase : 1 < base) (n : Nat) :
    ∀ c ∈ Nat.toDigits base n, isControl c = false := by
  induction n using Nat.strongRecOn with
  | _ n ih =>
      rw [Nat.toDigits_eq_if hbase]
      split
      · intro c hc
        rw [List.mem_singleton.mp hc]
        exact isControl_digitChar n
      · next hn =>
          have hless : n / base < n := Nat.div_lt_self (by omega) hbase
          intro c hc
          rcases List.mem_append.mp hc with hc | hc
          · exact ih _ hless c hc
          · rw [List.mem_singleton.mp hc]
            exact isControl_digitChar _

/-- A number is written without control characters. -/
theorem controlFree_toString (n : Nat) : ControlFree (toString n) := by
  rw [Nat.toString_eq_ofList_toDigits]
  exact .ofList (isControl_of_mem_toDigits (by decide) n)

-- ================================================================= quotes

/-- The ranges of visible characters stay clear of both ranges of control characters. -/
theorem isControl_of_isVisible {c : Char} (h : isVisible c = true) : isControl c = false := by
  have hranges : ∀ r ∈ visibleRanges, 0x20 ≤ r.1 ∧ r.2 < 0x7f ∨ 0xa0 ≤ r.1 := by decide +kernel
  unfold isVisible inRanges at h
  rw [List.any_eq_true] at h
  obtain ⟨r, hr, hc⟩ := h
  rw [Bool.and_eq_true, decide_eq_true_eq, decide_eq_true_eq] at hc
  have hclear := hranges r hr
  unfold isControl
  rw [Bool.or_eq_false_iff, Bool.and_eq_false_iff, decide_eq_false_iff_not,
    decide_eq_false_iff_not, decide_eq_false_iff_not]
  omega

theorem isControl_of_mem_codePointEscape (c : Char) :
    ∀ d ∈ codePointEscape c, isControl d = false := by
  have hopening : ∀ d ∈ ['\\', 'u', '\x7b'], isControl d = false :=
    forall_isControl_of_all (by decide)
  intro d hd
  unfold codePointEscape at hd
  rcases List.mem_append.mp hd with hd | hd
  · rcases List.mem_append.mp hd with hd | hd
    · exact hopening d hd
    · exact isControl_of_mem_toDigits (by decide) _ d hd
  · rw [List.mem_singleton.mp hd]
    decide

/-- An escape has no control character, whatever it stands for. -/
theorem isControl_of_mem_escape (c : Char) : ∀ d ∈ escape c, isControl d = false := by
  unfold escape
  split
  iterate 6 exact forall_isControl_of_all (by decide)
  · split
    · next hvisible =>
        intro d hd
        rw [List.mem_singleton.mp hd]
        exact isControl_of_isVisible hvisible
    · exact isControl_of_mem_codePointEscape c

/-- A quoted text has no control character, whatever the text is. -/
theorem controlFree_quote (s : String) : ControlFree (quote s) := by
  refine .ofList fun c hc => ?_
  rcases List.mem_cons.mp hc with rfl | hc
  · decide
  · rcases List.mem_append.mp hc with hc | hc
    · obtain ⟨d, -, hc⟩ := List.mem_flatMap.mp hc
      exact isControl_of_mem_escape d c hc
    · rw [List.mem_singleton.mp hc]
      decide

/-- A quoted text between two others. -/
theorem controlFree_around {before behind : String} (hbefore : ControlFree before)
    (hbehind : ControlFree behind) (s : String) : ControlFree (before ++ quote s ++ behind) :=
  (hbefore.append (controlFree_quote s)).append hbehind

-- ================================================================== lines

/-- The lines of a text, without the newlines that end them. -/
def lines (s : String) : List String := (piecesEndedBy '\n' s.toList).map String.ofList

/-- What lies behind the end of a line is cut for itself. -/
theorem lines_append (s rest : String) :
    lines (s ++ "\n" ++ rest) = (s.toList.splitOn '\n').map String.ofList ++ lines rest := by
  have hcut : (s ++ "\n" ++ rest).toList = s.toList ++ '\n' :: rest.toList := by simp
  rw [lines, hcut, piecesEndedBy_append_cons, List.map_append, lines]

/-- The lines of a text with a newline behind it are its pieces between newlines. -/
theorem lines_ended (s : String) :
    lines (s ++ "\n") = (s.toList.splitOn '\n').map String.ofList := by
  have hnothing := lines_append s ""
  rw [String.append_empty] at hnothing
  rw [hnothing]
  exact List.append_nil _

/-- A line with no newline in it, and a newline behind it, is the first line of a text. -/
theorem lines_newline_append {s : String} (hs : '\n' ∉ s.toList) (rest : String) :
    lines (s ++ "\n" ++ rest) = s :: lines rest := by
  rw [lines_append, List.splitOn_eq_singleton hs, List.map_singleton, String.ofList_toList,
    List.singleton_append]

/-- Lines with a newline behind each are the lines of their text. -/
theorem lines_join {ls : List String} (hls : ∀ l ∈ ls, '\n' ∉ l.toList) :
    lines (String.join (ls.map (· ++ "\n"))) = ls := by
  induction ls with
  | nil => rfl
  | cons l ls ih =>
      rw [List.map_cons, String.join_cons, lines_newline_append (hls l List.mem_cons_self),
        ih fun m hm => hls m (List.mem_cons_of_mem _ hm)]

theorem lines_join_append (texts : List String) (rest : String) :
    lines (String.join (texts.map (· ++ "\n")) ++ rest)
      = texts.flatMap (fun s => lines (s ++ "\n")) ++ lines rest := by
  induction texts with
  | nil => simp
  | cons s texts ih =>
      rw [List.map_cons, String.join_cons, String.append_assoc, lines_append, ih,
        List.flatMap_cons, List.append_assoc, lines_ended]

/-- There is one line more than there are newlines. -/
theorem length_lines (s : String) : (lines (s ++ "\n")).length = s.toList.count '\n' + 1 := by
  rw [lines_ended, List.length_map, length_splitOn]

/-- A text is one line exactly if no line ends in it. -/
theorem lines_eq_singleton_iff {s line : String} :
    lines (s ++ "\n") = [line] ↔ '\n' ∉ s.toList ∧ line = s := by
  have hone : '\n' ∉ s.toList → lines (s ++ "\n") = [s] := by
    intro hs
    rw [lines_ended, List.splitOn_eq_singleton hs, List.map_singleton, String.ofList_toList]
  constructor
  · intro hline
    have hlength := length_lines s
    rw [hline, List.length_singleton] at hlength
    have hs : '\n' ∉ s.toList := List.count_eq_zero.mp (by omega)
    rw [hone hs] at hline
    exact ⟨hs, (List.singleton_inj.mp hline).symm⟩
  · intro ⟨hs, hline⟩
    rw [hone hs, hline]

/-- Texts with a newline between any two and one at the end: each has one behind it. -/
theorem intercalate_newline_append {ls : List String} (hls : ls ≠ []) :
    "\n".intercalate ls ++ "\n" = String.join (ls.map (· ++ "\n")) := by
  induction ls with
  | nil => exact absurd rfl hls
  | cons l ls ih =>
      cases ls with
      | nil => simp
      | cons m ls =>
          rw [String.intercalate_cons_cons, String.append_assoc, ih (List.cons_ne_nil _ _)]
          exact String.join_cons.symm

end EnvSettings.Text
