/-
The rule on variable names, applied to what it has written. Of a name in ASCII it writes capitals,
digits and other characters that are no small letters, with single underscores between them. There
the rule finds its underscores again and leaves them where they are, and of its reasons to start a
word one is left: a letter right behind a digit, which the name had as a small letter. So the second
time it writes an underscore between every digit and a letter right behind it and changes nothing
else (`screamingSnakeChars_of_plain`), and the third time nothing at all, since no letter stands
right behind a digit any more (`isChain_splitDigits`).

# The induction

What stands behind a character of a word is passed from left to right with the flag that tells
whether an underscore was passed since that character (`cons_behind_of_plain`). The flag stands for
the underscore itself, so the text that is still to come is the mark of the flag and the rest.
-/
import EnvSettings.Proofs.Lists
import EnvSettings.Proofs.Naming.Gaps
import EnvSettings.Proofs.Text.Ascii

namespace EnvSettings.Naming

open EnvSettings.Text

-- ================================================== letters behind digits

/-- The second of two characters, a letter, belongs to another word than the first, a digit. -/
def BehindDigit (c d : Char) : Prop := c.isDigit = true ∧ d.isAlpha = true

instance (c d : Char) : Decidable (BehindDigit c d) := inferInstanceAs (Decidable (_ ∧ _))

/-- A text with an underscore between every digit and a letter right behind it. -/
def splitDigits : List Char → List Char
  | [] => []
  | [c] => [c]
  | c :: d :: rest => c :: (mark (BehindDigit c d) ++ splitDigits (d :: rest))

theorem not_behindDigit_underscore (c : Char) : ¬ BehindDigit c '_' :=
  fun h => Bool.false_ne_true h.2

theorem not_underscore_behindDigit (d : Char) : ¬ BehindDigit '_' d :=
  fun h => Bool.false_ne_true h.1

/-- Around an underscore nothing is split. -/
theorem splitDigits_underscore (c d : Char) (rest : List Char) :
    splitDigits (c :: '_' :: d :: rest) = c :: '_' :: splitDigits (d :: rest) := by
  simp only [splitDigits, not_behindDigit_underscore, not_underscore_behindDigit, mark,
    decide_false, Bool.false_eq_true, if_false, List.nil_append]

/-- What is split starts as it did. -/
theorem head?_splitDigits (cs : List Char) : (splitDigits cs).head? = cs.head? := by
  cases cs with
  | nil => rfl
  | cons c cs =>
      cases cs with
      | nil => rfl
      | cons d rest => rfl

/-- A text is as it was exactly if there was nothing to split. -/
theorem splitDigits_eq_self_iff {cs : List Char} :
    splitDigits cs = cs ↔ cs.IsChain fun c d => ¬ BehindDigit c d := by
  induction cs with
  | nil => exact iff_of_true rfl List.isChain_nil
  | cons c cs ih =>
      cases cs with
      | nil => exact iff_of_true rfl (List.isChain_singleton c)
      | cons d rest =>
          rw [splitDigits, List.isChain_cons_cons, ← ih]
          by_cases hd : BehindDigit c d
          · -- the underscore that is written would have to be the letter
            refine iff_of_false (fun h => ?_) fun h => h.1 hd
            simp only [hd, mark, decide_true, if_true, List.singleton_append, List.cons.injEq,
              true_and] at h
            rw [← h.1] at hd
            exact not_behindDigit_underscore c hd
          · simp [hd, mark]

/-- What is split has no letter right behind a digit. -/
theorem isChain_splitDigits (cs : List Char) :
    (splitDigits cs).IsChain fun c d => ¬ BehindDigit c d := by
  induction cs with
  | nil => exact List.isChain_nil
  | cons c cs ih =>
      cases cs with
      | nil => exact List.isChain_singleton c
      | cons d rest =>
          obtain ⟨back, hback⟩ : ∃ back, splitDigits (d :: rest) = d :: back :=
            List.head?_eq_some_iff.mp (head?_splitDigits (d :: rest))
          rw [splitDigits]
          rw [hback] at ih ⊢
          by_cases hd : BehindDigit c d
          · simp only [hd, mark, decide_true, if_true, List.singleton_append,
              List.isChain_cons_cons]
            exact ⟨not_behindDigit_underscore c, not_underscore_behindDigit d, ih⟩
          · simp only [hd, mark, decide_false, Bool.false_eq_true, if_false, List.nil_append]
            exact List.isChain_cons_cons.mpr ⟨hd, ih⟩

/-- Splitting once is enough. -/
theorem splitDigits_splitDigits (cs : List Char) :
    splitDigits (splitDigits cs) = splitDigits cs :=
  splitDigits_eq_self_iff.mpr (isChain_splitDigits cs)

-- ================================================================== plain

/-- A character of ASCII that is no small letter, and no separator but the underscore. -/
def IsPlain (c : Char) : Prop :=
  c.toNat < 128 ∧ c.isLower = false ∧ (isSeparator c = true → c = '_')

/-- The upper case of a character of ASCII is plain, unless the character is a separator. -/
theorem isPlain_toUpper {c : Char} (hc : c.toNat < 128) (hword : isSeparator c = false) :
    IsPlain c.toUpper := by
  refine forall_ascii (p := fun c => isSeparator c = false → c.toUpper.toNat < 128
    ∧ c.toUpper.isLower = false ∧ (isSeparator c.toUpper = true → c.toUpper = '_')) ?_ hc hword
  decide +kernel

theorem IsPlain.isLowercase {c : Char} (hc : IsPlain c) : isLowercase c = false :=
  (isLowercase_of_ascii hc.1).trans hc.2.1

/-- Plain characters are in upper case. -/
theorem IsPlain.upperOf {c : Char} (hc : IsPlain c) : upperOf c = [c] := by
  have hupper : c.toUpper = c := by
    refine forall_ascii (p := fun c => c.isLower = false → c.toUpper = c) ?_ hc.1 hc.2.1
    decide +kernel
  rw [upperOf_of_ascii hc.1, hupper]

/-- Among plain characters a word starts at a letter right behind a digit, and nowhere else. -/
theorem startsWord_of_plain {c d : Char} (hc : IsPlain c) (hd : IsPlain d) {after : Option Char}
    (hafter : ∀ next ∈ after, IsPlain next) :
    startsWord c d after = decide (BehindDigit c d) := by
  have hletter : d.isAlpha = d.isUpper := by
    show (d.isUpper || d.isLower) = d.isUpper
    rw [hd.2.1, Bool.or_false]
  rw [Bool.eq_iff_iff, startsWord_iff, decide_eq_true_eq, isUppercase_of_ascii hd.1,
    hc.isLowercase, BehindDigit, hletter, and_comm]
  apply and_congr_left
  intro _
  refine ⟨fun h => ?_, fun h => Or.inr (Or.inl h)⟩
  rcases h with h | h | ⟨-, next, hnext, hsmall⟩
  · cases h
  · exact h
  · rw [(hafter next hnext).isLowercase] at hsmall
    cases hsmall

-- =================================================================== scan

/-- A character of a word and what is written behind it: the text that is there, split. -/
theorem cons_behind_of_plain {c : Char} {apart : Bool} {rest : List Char} (hc : IsPlain c)
    (hplain : ∀ d ∈ rest, IsPlain d)
    (hsingle : (mark apart ++ rest).IsChain fun a b => a = '_' → b ≠ '_')
    (hends : (mark apart ++ rest).getLast? ≠ some '_') :
    c :: behind c apart rest = splitDigits (c :: (mark apart ++ rest)) := by
  induction rest generalizing c apart with
  | nil =>
      cases apart with
      | true => exact absurd rfl hends
      | false => rfl
  | cons d rest ih =>
      obtain ⟨hd, hrest⟩ := List.forall_mem_cons.mp hplain
      rw [behind]
      by_cases hseparator : isSeparator d = true
      · -- an underscore: no other stands before it, and it is the flag from here on
        obtain rfl : d = '_' := hd.2.2 hseparator
        have hfirst : apart = false := by
          cases apart with
          | true => exact absurd rfl ((List.isChain_cons_cons.mp hsingle).1 rfl)
          | false => rfl
        subst hfirst
        rw [if_pos hseparator]
        exact ih hc hrest hsingle hends
      · have hword : d ≠ '_' := ne_underscore_of_not_isSeparator (Bool.eq_false_iff.mpr hseparator)
        have hchain : (d :: rest).IsChain fun a b => a = '_' → b ≠ '_' :=
          (List.isChain_append.mp hsingle).2.1
        have hlast : (mark apart ++ d :: rest).getLast? = (d :: rest).getLast? := by
          rw [List.getLast?_append, List.getLast?_cons, Option.some_or]
        have hbehind : d :: behind d false rest = splitDigits (d :: rest) := by
          refine ih hd hrest hchain.tail fun h => hends ?_
          rw [hlast]
          cases rest with
          | nil => cases h
          | cons e rest => exact h
        have hstarts : startsWord c d rest.head? = decide (BehindDigit c d) :=
          startsWord_of_plain hc hd fun next hnext => hrest next (List.mem_of_mem_head? hnext)
        rw [if_neg hseparator, hd.upperOf, hstarts, List.append_assoc, List.singleton_append,
          hbehind]
        cases apart with
        | true =>
            show c :: '_' :: splitDigits (d :: rest) = splitDigits (c :: '_' :: d :: rest)
            rw [splitDigits_underscore]
        | false =>
            show _ = splitDigits (c :: d :: rest)
            rw [Bool.false_or, splitDigits]

/-- Of a text of plain characters whose underscores stand one by one between others a name is made
by splitting it. -/
theorem screamingSnakeChars_of_plain {cs : List Char} (hplain : ∀ c ∈ cs, IsPlain c)
    (hjoined : Joined cs) : screamingSnakeChars cs = splitDigits cs := by
  -- the raw mark starts with a small letter
  have hraw : withoutRawMark cs = cs := by
    unfold withoutRawMark
    split
    · have hsmall := (hplain 'r' List.mem_cons_self).2.1
      cases hsmall
    · rfl
  obtain ⟨c, hstart, hc⟩ := hjoined.starts
  obtain ⟨last, hlast, hend⟩ := hjoined.ends
  obtain ⟨rest, rfl⟩ := List.head?_eq_some_iff.mp hstart
  obtain ⟨hfirst, hrest⟩ := List.forall_mem_cons.mp hplain
  have hword : ¬ isSeparator c = true := fun h => hc (hfirst.2.2 h)
  rw [screamingSnakeChars_eq, hraw, upperName, if_neg hword, hfirst.upperOf]
  refine cons_behind_of_plain hfirst hrest hjoined.single.tail fun h => hend ?_
  cases rest with
  | nil => cases h
  | cons d rest => exact Option.some.inj (hlast.symm.trans h)

-- ================================================================== names

/-- Without its raw mark a name has no other characters. -/
theorem mem_of_mem_withoutRawMark {name : List Char} {c : Char} (hc : c ∈ withoutRawMark name) :
    c ∈ name := by
  unfold withoutRawMark at hc
  split at hc
  · exact List.mem_cons_of_mem _ (List.mem_cons_of_mem _ hc)
  · exact hc

/-- What a name gives, if it gives anything, has its underscores one by one between others. -/
theorem screamingSnakeChars_eq_nil_or_joined (name : List Char) :
    screamingSnakeChars name = [] ∨ Joined (screamingSnakeChars name) := by
  have hseparator := isSeparator_of_mem_wordChars 0 (withoutRawMark name)
  rw [screamingSnakeChars_eq, upperName_append (List.forall_mem_nil _), List.nil_append,
    List.length_nil]
  cases hentries : wordChars 0 (withoutRawMark name) with
  | nil => exact Or.inl rfl
  | cons entry rest => exact Or.inr (joined_spelled _ (hentries ▸ hseparator))

/-- Besides underscores a name gives the upper case of what it has besides separators. -/
theorem mem_screamingSnakeChars {name : List Char} {c : Char}
    (hc : c ∈ screamingSnakeChars name) :
    c = '_' ∨ ∃ d ∈ name, isSeparator d = false ∧ c ∈ upperOf d := by
  by_cases hunderscore : c = '_'
  · exact Or.inl hunderscore
  · have hmem : c ∈ (screamingSnakeChars name).filter (· ≠ '_') :=
      List.mem_filter.mpr ⟨hc, decide_eq_true hunderscore⟩
    rw [screamingSnakeChars_eq, upperName_append (List.forall_mem_nil _),
      filter_spelled _ (isSeparator_of_mem_wordChars _ _), flatMap_wordChars,
      List.mem_flatMap] at hmem
    obtain ⟨d, hd, hupper⟩ := hmem
    obtain ⟨hname, hword⟩ := List.mem_filter.mp hd
    refine Or.inr ⟨d, mem_of_mem_withoutRawMark hname, ?_, hupper⟩
    exact (Bool.not_eq_true' _).mp hword

/-- A name in ASCII gives plain characters. -/
theorem isPlain_of_mem_screamingSnakeChars {name : List Char} (hname : ∀ c ∈ name, c.toNat < 128) :
    ∀ c ∈ screamingSnakeChars name, IsPlain c := by
  intro c hc
  rcases mem_screamingSnakeChars hc with rfl | ⟨d, hd, hword, hupper⟩
  · exact ⟨by decide, rfl, fun _ => rfl⟩
  · rw [upperOf_of_ascii (hname d hd), List.mem_singleton] at hupper
    rw [hupper]
    exact isPlain_toUpper (hname d hd) hword

/-- What a name in ASCII gives, gives itself with its letters behind digits split from them. -/
theorem screamingSnakeChars_twice {name : List Char} (hname : ∀ c ∈ name, c.toNat < 128) :
    screamingSnakeChars (screamingSnakeChars name) = splitDigits (screamingSnakeChars name) := by
  rcases screamingSnakeChars_eq_nil_or_joined name with hnil | hjoined
  · rw [hnil]
    rfl
  · exact screamingSnakeChars_of_plain (isPlain_of_mem_screamingSnakeChars hname) hjoined

end EnvSettings.Naming

namespace EnvSettings

open EnvSettings.Naming

/-- The rule on variable names, applied again. What a name in ASCII gives is given itself with one
underscore more between every digit and a letter right behind it, and with nothing else changed. So
it stays as it is exactly if no letter stands right behind a digit in it, and the third time the
rule changes nothing. -/
theorem screamingSnake_reapplied (name : String) (hname : ∀ c ∈ name.toList, c.toNat < 128) :
    let variableName := screamingSnake name
    (screamingSnake variableName).toList = splitDigits variableName.toList
      ∧ (screamingSnake variableName = variableName
        ↔ ¬ ∃ c d, [c, d] <:+: variableName.toList ∧ c.isDigit = true ∧ d.isAlpha = true)
      ∧ screamingSnake (screamingSnake variableName) = screamingSnake variableName := by
  intro variableName
  have hchars : variableName.toList = screamingSnakeChars name.toList := String.toList_ofList
  have htwice : (screamingSnake variableName).toList = splitDigits variableName.toList := by
    rw [screamingSnake, String.toList_ofList, hchars, screamingSnakeChars_twice hname]
  have hascii : ∀ c ∈ variableName.toList, c.toNat < 128 := by
    rw [hchars]
    exact fun c hc => (isPlain_of_mem_screamingSnakeChars hname c hc).1
  refine ⟨htwice, ?_, ?_⟩
  · rw [← String.toList_inj, htwice, splitDigits_eq_self_iff, isChain_iff_forall_pair]
    apply Iff.intro
    · intro hpairs ⟨c, d, hpair, hbehind⟩
      exact hpairs c d hpair hbehind
    · intro hnone c d hpair hbehind
      exact hnone ⟨c, d, hpair, hbehind⟩
  · refine String.toList_injective ?_
    have hthird : (screamingSnake (screamingSnake variableName)).toList
        = splitDigits (screamingSnake variableName).toList := by
      have hone : (screamingSnake variableName).toList
          = screamingSnakeChars variableName.toList := String.toList_ofList
      rw [screamingSnake, String.toList_ofList, hone, screamingSnakeChars_twice hascii]
    rw [hthird, htwice, splitDigits_splitDigits]

/-- Small letters behind digits, of which the first time takes no notice. -/
theorem screamingSnake_reapplied_digest :
    screamingSnake "sha256sum-v2" = "SHA256SUM_V2"
      ∧ screamingSnake "SHA256SUM_V2" = "SHA256_SUM_V2"
      ∧ screamingSnake "SHA256_SUM_V2" = "SHA256_SUM_V2" := by
  have hascii : "sha256sum-v2".toList.all (fun c => c.toNat < 128) = true := by decide +kernel
  have hname : ∀ c ∈ "sha256sum-v2".toList, c.toNat < 128 :=
    fun c hc => of_decide_eq_true (List.all_eq_true.mp hascii c hc)
  have hfirst : screamingSnake "sha256sum-v2" = "SHA256SUM_V2" := by decide +kernel
  have hagain := screamingSnake_reapplied "sha256sum-v2" hname
  simp only [hfirst] at hagain
  obtain ⟨hsplit, -, hthird⟩ := hagain
  have hsecond : screamingSnake "SHA256SUM_V2" = "SHA256_SUM_V2" := by
    refine String.toList_injective (hsplit.trans ?_)
    decide
  rw [hsecond] at hthird
  exact ⟨hfirst, hsecond, hthird⟩

end EnvSettings
