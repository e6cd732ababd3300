/-
Two spellings of a name in several words: the words joined by underscores, and the words run
together with a capital at the start of each. The first always gives the words in upper case, joined
by underscores. The second gives that too unless two capitals come to stand side by side, which
takes a word of one letter, and no small letter follows them: then the rule on variable names sees
one acronym where there are two words (`startsWord_capital_iff`).

# The induction

Behind the first letter of a word nothing starts a new word up to the end of it (`behind_run`). So
from word to word all that is decided is whether an underscore is written in front of the next one,
and where one is missing the texts differ at once, since no word starts with an underscore
(`behind_words_eq_iff`).
-/
import EnvSettings.Proofs.Naming.SnakeCase

namespace EnvSettings.Naming

open EnvSettings.Text

-- ================================================================== words

/-- A small letter with small letters and digits behind it, all of ASCII. -/
def IsWord (word : List Char) : Prop :=
  ∃ c run, word = c :: run ∧ c.isLower = true ∧ ∀ d ∈ run, isSmall d = true

theorem isWord_of_all (c : Char) (run : List Char) (hc : c.isLower = true)
    (hrun : run.all isSmall = true) : IsWord (c :: run) :=
  ⟨c, run, rfl, hc, List.all_eq_true.mp hrun⟩

/-- A word with a capital at its start. -/
def capitalised : List Char → List Char
  | [] => []
  | c :: run => c.toUpper :: run

/-- Words run together, each with a capital at its start. -/
def camelCase (words : List String) : String :=
  String.ofList (words.flatMap fun word => capitalised word.toList)

/-- Behind the word `u` the capital of the word `w` starts a word. -/
def StartsBehind (u w : List Char) : Prop :=
  2 ≤ u.length ∨ ∃ c, w[1]? = some c ∧ c.isLower = true

-- ================================================================ letters

theorem isSmall_of_isLower {c : Char} (hc : c.isLower = true) : isSmall c = true := by
  unfold isSmall
  rw [hc, Bool.true_or]

theorem isLowercase_of_isSmall {c : Char} (hc : isSmall c = true) : isLowercase c = c.isLower :=
  isLowercase_of_ascii (toNat_lt_of_isSmall hc)

/-- The capital of a small letter is a capital, and nothing else, and its own upper case. -/
theorem capital_facts {c : Char} (hc : c.isLower = true) :
    isSeparator c.toUpper = false ∧ isUppercase c.toUpper = true ∧ isLowercase c.toUpper = false
      ∧ c.toUpper.isDigit = false ∧ upperOf c.toUpper = [c.toUpper] ∧ c.toUpper ≠ '_' := by
  have hcode : c.toUpper.toNat < 128 ∧ isSeparator c.toUpper = false ∧ c.toUpper.isUpper = true
      ∧ c.toUpper.isLower = false ∧ c.toUpper.isDigit = false ∧ c.toUpper.toUpper = c.toUpper
      ∧ c.toUpper ≠ '_' := by
    refine forall_ascii (p := fun c => c.isLower = true → c.toUpper.toNat < 128
      ∧ isSeparator c.toUpper = false ∧ c.toUpper.isUpper = true ∧ c.toUpper.isLower = false
      ∧ c.toUpper.isDigit = false ∧ c.toUpper.toUpper = c.toUpper ∧ c.toUpper ≠ '_') ?_
      (toNat_lt_of_isSmall (isSmall_of_isLower hc)) hc
    decide +kernel
  obtain ⟨hascii, hseparator, hupper, hlower, hdigit, hagain, hunderscore⟩ := hcode
  exact ⟨hseparator, (isUppercase_of_ascii hascii).trans hupper,
    (isLowercase_of_ascii hascii).trans hlower, hdigit,
    (upperOf_of_ascii hascii).trans (by rw [hagain]), hunderscore⟩

-- ================================================================== scan

/-- No words start with a small letter once they have their capitals. -/
theorem isLowercase_of_head?_capitalised {words : List (List Char)}
    (hwords : ∀ word ∈ words, IsWord word) {next : Char}
    (hnext : (words.flatMap capitalised).head? = some next) : isLowercase next = false := by
  cases words with
  | nil => cases hnext
  | cons word words =>
      obtain ⟨c, run, rfl, hc, -⟩ := hwords word List.mem_cons_self
      have hcapital : c.toUpper = next := Option.some.inj hnext
      rw [← hcapital]
      exact (capital_facts hc).2.2.1

/-- Behind a word with its capital, that of the next one starts a word exactly if it should. -/
theorem startsWord_capital_iff {c d : Char} {run rest : List Char} {words : List (List Char)}
    (hc : c.isLower = true) (hrun : ∀ e ∈ run, isSmall e = true) (hd : d.isLower = true)
    (hrest : ∀ e ∈ rest, isSmall e = true) (hwords : ∀ word ∈ words, IsWord word) :
    startsWord (run.getLastD c.toUpper) d.toUpper (rest ++ words.flatMap capitalised).head? = true
      ↔ StartsBehind (c :: run) (d :: rest) := by
  obtain ⟨-, hupper, -, -, -, -⟩ := capital_facts hd
  rw [startsWord_iff, StartsBehind]
  rcases List.eq_nil_or_concat run with rfl | ⟨front, last, rfl⟩
  · obtain ⟨-, hcapital, hlower, hdigit, -, -⟩ := capital_facts hc
    rw [List.getLastD_nil, hupper, hlower, hdigit, hcapital]
    -- what follows the two capitals is of the second word, or a third capital
    have hnext : (∃ next ∈ (rest ++ words.flatMap capitalised).head?, isLowercase next = true)
        ↔ ∃ e, (d :: rest)[1]? = some e ∧ e.isLower = true := by
      cases rest with
      | nil =>
          constructor
          · rintro ⟨next, hnext, hsmall⟩
            rw [isLowercase_of_head?_capitalised hwords hnext] at hsmall
            cases hsmall
          · rintro ⟨e, he, -⟩
            cases he
      | cons e rest =>
          show (∃ next, some e = some next ∧ isLowercase next = true)
            ↔ ∃ next, some e = some next ∧ next.isLower = true
          simp [isLowercase_of_isSmall (hrest e List.mem_cons_self)]
    simpa using hnext
  · -- a word of several characters ends in a small one
    have hlast : isSmall last = true := hrun last (by simp)
    have hlong : 2 ≤ (c :: front.concat last).length := by simp
    rw [isSmall, Bool.or_eq_true] at hlast
    have hbefore : isLowercase last = true ∨ last.isDigit = true := by
      rcases hlast with hlower | hdigit
      · exact Or.inl ((isLowercase_of_isSmall (isSmall_of_isLower hlower)).trans hlower)
      · exact Or.inr hdigit
    have hend : (front.concat last).getLastD c.toUpper = last := by simp
    rw [hend]
    exact ⟨fun _ => Or.inl hlong, fun _ => ⟨hupper, hbefore.imp_right Or.inl⟩⟩

-- ============================================================= whole names

/-- Words with their capitals behind another word are written like words behind underscores exactly
if each of them starts a word behind the one before it. -/
theorem behind_words_eq_iff {c : Char} {run : List Char} {words : List (List Char)}
    (hc : c.isLower = true) (hrun : ∀ e ∈ run, isSmall e = true)
    (hwords : ∀ word ∈ words, IsWord word) :
    behind (run.getLastD c.toUpper) false (words.flatMap capitalised)
        = words.flatMap (fun word => '_' :: word.map Char.toUpper)
      ↔ ((c :: run) :: words).IsChain StartsBehind := by
  induction words generalizing c run with
  | nil => exact ⟨fun _ => List.isChain_singleton _, fun _ => rfl⟩
  | cons word words ih =>
      obtain ⟨d, rest, rfl, hd, hrest⟩ := hwords word List.mem_cons_self
      have hmore := fun w hw => hwords w (List.mem_cons_of_mem _ hw)
      obtain ⟨hseparator, -, -, -, hone, hunderscore⟩ := capital_facts hd
      have hstarts := startsWord_capital_iff hc hrun hd hrest hmore
      have hbehind : behind (run.getLastD c.toUpper) false
          (((d :: rest) :: words).flatMap capitalised)
            = mark (startsWord (run.getLastD c.toUpper) d.toUpper
                (rest ++ words.flatMap capitalised).head?)
              ++ (d :: rest).map Char.toUpper
              ++ behind (rest.getLastD d.toUpper) false (words.flatMap capitalised) := by
        show behind _ false (d.toUpper :: (rest ++ words.flatMap capitalised)) = _
        rw [behind, hseparator, if_neg Bool.false_ne_true, hone, behind_run hrest]
        simp
      rw [hbehind, List.isChain_cons_cons, ← ih hd hrest hmore, ← hstarts]
      cases startsWord (run.getLastD c.toUpper) d.toUpper
          (rest ++ words.flatMap capitalised).head? with
      | true =>
          simp [mark]
      | false =>
          constructor
          · intro h
            have hfirst : d.toUpper = '_' := (List.cons.inj h).1
            exact absurd hfirst hunderscore
          · rintro ⟨h, -⟩
            cases h

/-- What words with their capitals give is the words in upper case, joined by underscores, exactly
if each of them starts a word behind the one before it. -/
theorem upperName_capitalised_eq_iff {words : List (List Char)}
    (hwords : ∀ word ∈ words, IsWord word) :
    upperName (words.flatMap capitalised)
        = ['_'].intercalate (words.map fun word => word.map Char.toUpper)
      ↔ words.IsChain StartsBehind := by
  cases words with
  | nil => exact ⟨fun _ => List.isChain_nil, fun _ => rfl⟩
  | cons word words =>
      obtain ⟨c, run, rfl, hc, hrun⟩ := hwords word List.mem_cons_self
      have hmore := fun w hw => hwords w (List.mem_cons_of_mem _ hw)
      obtain ⟨hseparator, -, -, -, hone, -⟩ := capital_facts hc
      have hname : upperName (((c :: run) :: words).flatMap capitalised)
          = (c :: run).map Char.toUpper
            ++ behind (run.getLastD c.toUpper) false (words.flatMap capitalised) := by
        show upperName (c.toUpper :: (run ++ words.flatMap capitalised)) = _
        rw [upperName, hseparator, if_neg Bool.false_ne_true, hone, behind_run hrun]
        rfl
      have hjoined : ['_'].intercalate (((c :: run) :: words).map fun word => word.map Char.toUpper)
          = (c :: run).map Char.toUpper
            ++ words.flatMap fun word => '_' :: word.map Char.toUpper := by
        rw [List.map_cons, intercalate_cons, List.flatMap_map]
      rw [hname, hjoined, List.append_cancel_left_eq, behind_words_eq_iff hc hrun hmore]

/-- A capital is no part of the raw mark. -/
theorem withoutRawMark_capitalised {words : List (List Char)}
    (hwords : ∀ word ∈ words, IsWord word) :
    withoutRawMark (words.flatMap capitalised) = words.flatMap capitalised := by
  unfold withoutRawMark
  split
  · next rest hmark =>
    have hsmall := isLowercase_of_head?_capitalised hwords (by rw [hmark]; rfl)
    exact absurd hsmall (by decide +kernel)
  · rfl

/-- Words joined by underscores are a name in snake case. -/
theorem isSnakeCase_intercalate {words : List String} (hne : words ≠ [])
    (hwords : ∀ word ∈ words, IsWord word.toList) : IsSnakeCase ("_".intercalate words) := by
  have hchars : ("_".intercalate words).toList = ['_'].intercalate (words.map String.toList) :=
    String.toList_intercalate
  refine ⟨⟨words.map String.toList, ?_, hchars⟩, ?_⟩
  · intro run hrun
    obtain ⟨word, hword, rfl⟩ := List.mem_map.mp hrun
    obtain ⟨c, rest, hsplit, hc, hrest⟩ := hwords word hword
    rw [hsplit]
    exact ⟨List.cons_ne_nil _ _, List.forall_mem_cons.mpr ⟨isSmall_of_isLower hc, hrest⟩⟩
  · obtain ⟨word, words, rfl⟩ := List.exists_cons_of_ne_nil hne
    obtain ⟨c, rest, hsplit, hc, -⟩ := hwords word List.mem_cons_self
    refine ⟨c, ?_, hc⟩
    rw [hchars, List.map_cons, intercalate_cons, hsplit]
    rfl

/-- Upper case does not touch the underscores between words. -/
theorem map_toUpper_intercalate (words : List String) :
    ("_".intercalate words).map Char.toUpper
      = "_".intercalate (words.map fun word => word.map Char.toUpper) := by
  have hunderscore : "_".toList = ['_'] := rfl
  refine String.toList_injective ?_
  rw [String.toList_map, String.toList_intercalate, String.toList_intercalate, hunderscore]
  cases words with
  | nil => rfl
  | cons word words =>
      rw [List.map_cons, List.map_cons, List.map_cons, intercalate_cons, intercalate_cons]
      simp [List.flatMap_map, List.map_flatMap]

end EnvSettings.Naming

namespace EnvSettings

open EnvSettings.Naming

/-- One variable for two spellings. Words joined by underscores give the words in upper case, joined
by underscores. With a capital each and nothing between them they give the same exactly if, of any
two words that follow each other, the first has two characters at least or the second goes on with a
small letter. -/
theorem camelCase_same_variable_iff (words : List String)
    (hwords : ∀ word ∈ words, IsWord word.toList) :
    screamingSnake ("_".intercalate words)
        = "_".intercalate (words.map fun word => word.map Char.toUpper)
      ∧ (screamingSnake (camelCase words) = screamingSnake ("_".intercalate words)
        ↔ ∀ u w, [u, w] <:+: words →
          2 ≤ u.length ∨ ∃ c, w.toList[1]? = some c ∧ c.isLower = true) := by
  have hsnake : screamingSnake ("_".intercalate words)
      = "_".intercalate (words.map fun word => word.map Char.toUpper) := by
    by_cases hne : words = []
    · subst hne
      rfl
    · rw [screamingSnake_of_isSnakeCase (isSnakeCase_intercalate hne hwords),
        map_toUpper_intercalate]
  refine ⟨hsnake, ?_⟩
  have hlists : ∀ word ∈ words.map String.toList, IsWord word := List.forall_mem_map.mpr hwords
  have hcamel : (screamingSnake (camelCase words)).toList
      = upperName ((words.map String.toList).flatMap capitalised) := by
    unfold screamingSnake camelCase
    rw [String.toList_ofList, String.toList_ofList, screamingSnakeChars_eq, ← List.flatMap_map,
      withoutRawMark_capitalised hlists]
  have hupper : ("_".intercalate (words.map fun word => word.map Char.toUpper)).toList
      = ['_'].intercalate ((words.map String.toList).map fun word => word.map Char.toUpper) := by
    rw [String.toList_intercalate, List.map_map, List.map_map]
    simp [Function.comp_def]
  rw [hsnake, ← String.toList_inj, hcamel, hupper, upperName_capitalised_eq_iff hlists,
    List.isChain_map, List.isChain_iff_forall_rel_of_append_cons_cons]
  constructor
  · rintro h u w ⟨front, back, hsplit⟩
    have hpair : words = front ++ u :: w :: back := by
      rw [← hsplit, List.append_assoc]
      rfl
    exact h hpair
  · rintro h u w front back rfl
    exact h u w ⟨front, back, by simp⟩

/-- A word of one letter before one that goes on with a digit. -/
theorem camelCase_same_variable_iff_one_letter :
    let words := ["max", "x", "y1"]
    (∀ word ∈ words, IsWord word.toList) ∧ camelCase words = "MaxXY1"
      ∧ screamingSnake ("_".intercalate words) = "MAX_X_Y1"
      ∧ screamingSnake (camelCase words) ≠ screamingSnake ("_".intercalate words) := by
  intro words
  have hwords : ∀ word ∈ words, IsWord word.toList :=
    List.forall_mem_cons.mpr ⟨isWord_of_all 'm' ['a', 'x'] rfl rfl,
      List.forall_mem_cons.mpr ⟨isWord_of_all 'x' [] rfl rfl,
        List.forall_mem_singleton.mpr (isWord_of_all 'y' ['1'] rfl rfl)⟩⟩
  obtain ⟨hsnake, hcamel⟩ := camelCase_same_variable_iff words hwords
  refine ⟨hwords, by decide, hsnake.trans (by decide +kernel), fun h => ?_⟩
  rcases hcamel.mp h "x" "y1" ⟨["max"], [], rfl⟩ with hlong | ⟨c, hc, hlower⟩
  · exact absurd hlong (by decide)
  · have hdigit : '1' = c := Option.some.inj hc
    rw [← hdigit] at hlower
    cases hlower

end EnvSettings
