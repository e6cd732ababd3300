/-
The rule on variable names, said without a scan. A name gives its characters that are no separators,
in their order and in upper case, and between two of them that follow each other an underscore or
nothing (`spelled`). Which of the two it is shows in the name (`Parted`): separators stand between
the two, or they stand side by side and the second starts a word.

# From the scan to the places

The scan looks at what it has written to see whether an underscore stands there already. No
character has an underscore in its upper case, but the underscore itself (`upperOf_facts`), so what
it looks for is whether separators were passed since the last character of a word. With a flag for
that the output need not be looked at, nor need underscores be taken back from its end
(`screamingSnakeChars_eq`, by induction on the rest of the name). A second induction on the rest
gives the characters their places: the part that was passed ends in a character of a word and the
separators behind it, which are some exactly if the flag is set (`upperOf_append_behind`).
-/
import EnvSettings.Naming
import Mathlib.Data.List.Chain

namespace EnvSettings.Naming

open EnvSettings.Text

-- ============================================================ upper case

theorem eq_of_ofNat_eq_underscore {n : Nat} (h : Char.ofNat n = '_') : n = 95 := by
  unfold Char.ofNat at h
  by_cases hvalid : n.isValidChar
  · rw [dif_pos hvalid] at h
    exact congrArg Char.toNat h
  · rw [dif_neg hvalid] at h
    cases h

/-- The upper case of a character is never empty, and an underscore stands in that of the underscore
only. -/
theorem upperOf_facts {c : Char} (hc : c ≠ '_') : upperOf c ≠ [] ∧ '_' ∉ upperOf c := by
  have hexpansions : ∀ entry ∈ upperExpansions,
      entry.2.map Char.ofNat ≠ [] ∧ '_' ∉ entry.2.map Char.ofNat := by decide +kernel
  have hshifts : ∀ shift ∈ upperShifts,
      shift.run.contains (Int.toNat (95 - shift.distance)) = false := by decide +kernel
  unfold upperOf
  split
  · next codes hcodes =>
    obtain ⟨front, back, hsplit, -⟩ := List.lookup_eq_some_iff.mp hcodes
    refine hexpansions (c.toNat, codes) ?_
    rw [hsplit]
    exact List.mem_append_right front List.mem_cons_self
  · split
    · next shift hshift =>
      refine ⟨List.cons_ne_nil _ _, fun hmem => ?_⟩
      have hcode := eq_of_ofNat_eq_underscore (List.mem_singleton.mp hmem).symm
      have hplace : c.toNat = Int.toNat (95 - shift.distance) := by omega
      have hrun := List.find?_some hshift
      rw [hplace, hshifts shift (List.mem_of_find?_eq_some hshift)] at hrun
      cases hrun
    · exact ⟨List.cons_ne_nil _ _, fun hmem => hc (List.mem_singleton.mp hmem).symm⟩

theorem ne_underscore_of_not_isSeparator {c : Char} (hc : isSeparator c = false) : c ≠ '_' := by
  rintro rfl
  cases hc

-- ======================================================= without the output

/-- The underscore between two characters of words, if they are apart. -/
def mark (apart : Bool) : List Char := if apart then ['_'] else []

/-- What the rest of a name gives behind the character `c` of a word; `apart` tells whether
separators were passed since. -/
def behind (c : Char) (apart : Bool) : List Char → List Char
  | [] => []
  | d :: rest =>
    if isSeparator d then behind c true rest
    else mark (apart || startsWord c d rest.head?) ++ upperOf d ++ behind d false rest

/-- What a name gives. -/
def upperName : List Char → List Char
  | [] => []
  | c :: rest => if isSeparator c then upperName rest else upperOf c ++ behind c false rest

section

variable {out : List Char} {last : Char}

/-- Behind a word an underscore is written if there is none. -/
theorem breakWord_mark (hout : out.getLast? = some last) (hlast : last ≠ '_') (apart : Bool) :
    breakWord (out ++ mark apart) = out ++ ['_'] := by
  cases apart with
  | true =>
      show breakWord (out ++ ['_']) = out ++ ['_']
      exact if_pos (Or.inr List.getLast?_concat)
  | false =>
      show breakWord (out ++ []) = out ++ ['_']
      rw [List.append_nil]
      refine if_neg ?_
      rintro (rfl | hunderscore)
      · cases hout
      · rw [hout] at hunderscore
        exact hlast (Option.some.inj hunderscore)

/-- What does not end in an underscore stays as it is. -/
theorem trimUnderscores_of_getLast? {cs : List Char} {c : Char} (hlast : cs.getLast? = some c)
    (hc : c ≠ '_') : trimUnderscores cs = cs := by
  have hhead : cs.reverse.head? = some c := by rw [List.head?_reverse, hlast]
  obtain ⟨rest, hrest⟩ := List.head?_eq_some_iff.mp hhead
  unfold trimUnderscores
  rw [hrest, List.dropWhile_cons_of_neg (by simpa using hc), ← hrest, List.reverse_reverse]

/-- Behind a word an underscore is taken back. -/
theorem trimUnderscores_mark (hout : out.getLast? = some last) (hlast : last ≠ '_')
    (apart : Bool) : trimUnderscores (out ++ mark apart) = out := by
  have htrim := trimUnderscores_of_getLast? hout hlast
  cases apart with
  | true =>
      show trimUnderscores (out ++ ['_']) = out
      unfold trimUnderscores at htrim ⊢
      rw [List.reverse_append, List.reverse_singleton, List.singleton_append,
        List.dropWhile_cons_of_pos (by rfl), htrim]
  | false =>
      show trimUnderscores (out ++ []) = out
      rw [List.append_nil, htrim]

theorem getLast?_append_upperOf {c : Char} (hc : isSeparator c = false) (out : List Char) :
    ∃ last, (out ++ upperOf c).getLast? = some last ∧ last ≠ '_' := by
  obtain ⟨hne, hfree⟩ := upperOf_facts (ne_underscore_of_not_isSeparator hc)
  refine ⟨(upperOf c).getLast hne, ?_, ?_⟩
  · rw [List.getLast?_append, List.getLast?_eq_some_getLast hne, Option.some_or]
  · intro hunderscore
    exact hfree (hunderscore ▸ List.getLast_mem hne)

/-- The scan behind a character of a word writes what the rest gives behind it. -/
theorem trimUnderscores_upperWords (hout : out.getLast? = some last) (hlast : last ≠ '_')
    (c : Char) (apart : Bool) {before : Option Char} (hbefore : apart = false → before = some c)
    (rest : List Char) :
    trimUnderscores (upperWords (out ++ mark apart) before rest) = out ++ behind c apart rest := by
  induction rest generalizing out last c apart before with
  | nil => rw [upperWords, trimUnderscores_mark hout hlast, behind, List.append_nil]
  | cons d rest ih =>
      rw [upperWords, behind]
      by_cases hd : isSeparator d = true
      · rw [if_pos hd, if_pos hd, breakWord_mark hout hlast]
        exact ih hout hlast c true fun h => nomatch h
      · rw [if_neg hd, if_neg hd]
        -- an underscore that stands there already is as good as one that is written now
        have hword : (if before.any (startsWord · d rest.head?) then
            breakWord (out ++ mark apart) else out ++ mark apart)
              = out ++ mark (apart || startsWord c d rest.head?) := by
          rw [breakWord_mark hout hlast]
          cases apart with
          | true => exact ite_self _
          | false =>
              rw [hbefore rfl, Option.any_some, Bool.false_or]
              cases startsWord c d rest.head? with
              | true => rfl
              | false => rfl
        obtain ⟨last', hout', hlast'⟩ := getLast?_append_upperOf (Bool.eq_false_iff.mpr hd)
          (out ++ mark (apart || startsWord c d rest.head?))
        have hrest := ih hout' hlast' d false fun _ => rfl
        have hnone : mark false = [] := rfl
        rw [hnone, List.append_nil] at hrest
        simp only [hword]
        rw [hrest, List.append_assoc, List.append_assoc, List.append_assoc]

end

/-- The scan of a name writes what the name gives. -/
theorem trimUnderscores_upperWords_nil (before : Option Char) (cs : List Char) :
    trimUnderscores (upperWords [] before cs) = upperName cs := by
  induction cs generalizing before with
  | nil => rfl
  | cons c cs ih =>
      rw [upperWords, upperName]
      by_cases hc : isSeparator c = true
      · rw [if_pos hc, if_pos hc]
        exact ih (some c)
      · obtain ⟨last, hout, hlast⟩ := getLast?_append_upperOf (Bool.eq_false_iff.mpr hc) []
        have hrest := trimUnderscores_upperWords hout hlast c false (fun _ => rfl) cs
        rw [if_neg hc, if_neg hc]
        -- at the start of the output no underscore is written
        have hstart : breakWord [] = [] := if_pos (Or.inl rfl)
        have hnone : mark false = [] := rfl
        rw [hnone, List.append_nil] at hrest
        simp only [hstart, ite_self]
        exact hrest

/-- A name is spelled in capitals once its raw mark is off. -/
theorem screamingSnakeChars_eq (name : List Char) :
    screamingSnakeChars name = upperName (withoutRawMark name) :=
  trimUnderscores_upperWords_nil none _

-- ================================================================= places

/-- The characters of a text that are no separators, each with its place, which is counted from
`place`. -/
def wordChars (place : Nat) (cs : List Char) : List (Char × Nat) :=
  (cs.zipIdx place).filter fun entry => !isSeparator entry.1

/-- Two characters of a name that are no separators, and between which there is no other such,
belong to different words: a separator stands between them, or they stand side by side, the second
is a capital, and the first is a small letter, or a digit, or a capital too while a small letter
follows. -/
def Parted (cs : List Char) (c d : Char × Nat) : Prop :=
  (∃ s ∈ (cs.take d.2).drop (c.2 + 1), isSeparator s = true)
    ∨ (d.2 = c.2 + 1 ∧ isUppercase d.1 = true
      ∧ (isLowercase c.1 = true ∨ c.1.isDigit = true
        ∨ (isUppercase c.1 = true ∧ ∃ next ∈ cs[d.2 + 1]?, isLowercase next = true)))

instance (cs : List Char) (c d : Char × Nat) : Decidable (Parted cs c d) :=
  inferInstanceAs (Decidable (_ ∨ _))

/-- Characters of a name in upper case, with an underscore where a word ends. -/
def spelled (cs : List Char) : List (Char × Nat) → List Char
  | [] => []
  | [c] => upperOf c.1
  | c :: d :: rest =>
    upperOf c.1 ++ mark (Parted cs c d) ++ spelled cs (d :: rest)

theorem wordChars_cons (place : Nat) (c : Char) (cs : List Char) :
    wordChars place (c :: cs)
      = if isSeparator c then wordChars (place + 1) cs
        else (c, place) :: wordChars (place + 1) cs := by
  unfold wordChars
  rw [List.zipIdx_cons, List.filter_cons]
  cases isSeparator c with
  | true => rfl
  | false => rfl

/-- A character starts a word if it is upper-case and behind a small one or a digit, or the last of
capitals before a small one. -/
theorem startsWord_iff {before c : Char} {after : Option Char} :
    startsWord before c after = true ↔ isUppercase c = true
      ∧ (isLowercase before = true ∨ before.isDigit = true
        ∨ (isUppercase before = true ∧ ∃ next ∈ after, isLowercase next = true)) := by
  unfold startsWord
  simp only [Bool.and_eq_true, Bool.or_eq_true, Option.any_eq_true, or_assoc, Option.mem_def]

/-- Whether two characters are parted, from what stands between them and behind them. -/
theorem parted_iff {front between rest : List Char} {c d : Char}
    (hbetween : ∀ s ∈ between, isSeparator s = true) :
    Parted (front ++ c :: (between ++ d :: rest)) (c, front.length)
        (d, front.length + 1 + between.length)
      ↔ between ≠ [] ∨ startsWord c d rest.head? = true := by
  have hplace : front.length + 1 + between.length = (front ++ c :: between).length := by
    rw [List.length_append, List.length_cons]
    omega
  have hfront : front ++ c :: (between ++ d :: rest) = (front ++ c :: between) ++ d :: rest := by
    simp
  have htake : ((front ++ c :: (between ++ d :: rest)).take
      (front.length + 1 + between.length)).drop (front.length + 1) = between := by
    rw [hplace, hfront, List.take_left, ← List.singleton_append, ← List.append_assoc]
    exact List.drop_left' (by simp)
  have hnext : (front ++ c :: (between ++ d :: rest))[front.length + 1 + between.length + 1]?
      = rest.head? := by
    rw [hplace, hfront, List.getElem?_append_right (by omega), List.head?_eq_getElem?]
    simp
  unfold Parted
  simp only [htake, hnext, startsWord_iff]
  cases between with
  | nil => simp
  | cons s between => simp [hbetween s List.mem_cons_self]

/-- What a character of a word and the rest of the name behind it give, by the places. -/
theorem upperOf_append_behind (front : List Char) (c : Char) {between : List Char}
    (hbetween : ∀ s ∈ between, isSeparator s = true) (rest : List Char) :
    upperOf c ++ behind c (!between.isEmpty) rest
      = spelled (front ++ c :: (between ++ rest))
          ((c, front.length) :: wordChars (front.length + 1 + between.length) rest) := by
  induction rest generalizing front between c with
  | nil => exact List.append_nil _
  | cons d rest ih =>
      rw [behind, wordChars_cons]
      by_cases hd : isSeparator d = true
      · have hmore : ∀ s ∈ between ++ [d], isSeparator s = true :=
          List.forall_mem_append.mpr ⟨hbetween, List.forall_mem_singleton.mpr hd⟩
        have hrest := ih front c hmore
        have hsome : (!(between ++ [d]).isEmpty) = true := by simp
        have hplace : front.length + 1 + (between ++ [d]).length
            = front.length + 1 + between.length + 1 := by
          rw [List.length_append, List.length_singleton]
          omega
        rw [hsome, hplace, List.append_assoc, List.singleton_append] at hrest
        rw [if_pos hd, if_pos hd, hrest]
      · have hrest := ih (front ++ c :: between) d (List.forall_mem_nil _)
        have hplace : (front ++ c :: between).length = front.length + 1 + between.length := by
          rw [List.length_append, List.length_cons]
          omega
        rw [List.append_assoc, List.cons_append, List.nil_append, hplace, List.length_nil,
          Nat.add_zero] at hrest
        have hmark : mark (!between.isEmpty || startsWord c d rest.head?)
            = mark (Parted (front ++ c :: (between ++ d :: rest)) (c, front.length)
                (d, front.length + 1 + between.length)) := by
          simp only [parted_iff hbetween]
          cases between with
          | nil => simp
          | cons s between => simp
        rw [if_neg hd, if_neg hd, spelled, ← hrest, hmark, List.append_assoc, List.append_assoc]
        rfl

/-- What a name gives, by the places of its characters. -/
theorem upperName_append {front : List Char} (hfront : ∀ s ∈ front, isSeparator s = true)
    (cs : List Char) : upperName cs = spelled (front ++ cs) (wordChars front.length cs) := by
  induction cs generalizing front with
  | nil => rfl
  | cons c cs ih =>
      rw [upperName, wordChars_cons]
      by_cases hc : isSeparator c = true
      · have hmore : ∀ s ∈ front ++ [c], isSeparator s = true :=
          List.forall_mem_append.mpr ⟨hfront, List.forall_mem_singleton.mpr hc⟩
        have hrest := ih hmore
        rw [List.append_assoc, List.singleton_append, List.length_append] at hrest
        rw [if_pos hc, if_pos hc]
        exact hrest
      · rw [if_neg hc, if_neg hc]
        exact upperOf_append_behind front c (List.forall_mem_nil _) cs

-- ============================================================= underscores

/-- The text is not empty, and its underscores stand one by one between other characters. -/
structure Joined (cs : List Char) : Prop where
  starts : ∃ c, cs.head? = some c ∧ c ≠ '_'
  ends : ∃ c, cs.getLast? = some c ∧ c ≠ '_'
  single : cs.IsChain fun a b => a = '_' → b ≠ '_'

theorem joined_of_notMem {cs : List Char} (hne : cs ≠ []) (hcs : '_' ∉ cs) : Joined cs := by
  refine ⟨⟨cs.head hne, List.head?_eq_some_head hne, ?_⟩,
    ⟨cs.getLast hne, List.getLast?_eq_some_getLast hne, ?_⟩, ?_⟩
  · exact fun h => hcs (h ▸ List.head_mem hne)
  · exact fun h => hcs (h ▸ List.getLast_mem hne)
  · rw [List.isChain_iff_forall_rel_of_append_cons_cons]
    rintro a b front back rfl rfl
    exact absurd (List.mem_append_right front List.mem_cons_self) hcs

/-- Two texts may be joined with an underscore or without. -/
theorem Joined.append {xs ys : List Char} (hxs : Joined xs) (hys : Joined ys) (apart : Bool) :
    Joined (xs ++ mark apart ++ ys) := by
  obtain ⟨first, hfirst, hfirst'⟩ := hxs.starts
  obtain ⟨last, hlast, hlast'⟩ := hys.ends
  refine ⟨⟨first, ?_, hfirst'⟩, ⟨last, ?_, hlast'⟩, ?_⟩
  · rw [List.append_assoc, List.head?_append, hfirst, Option.some_or]
  · rw [List.getLast?_append, hlast, Option.some_or]
  · obtain ⟨left, hleft, hleft'⟩ := hxs.ends
    obtain ⟨right, hright, hright'⟩ := hys.starts
    have hback : (mark apart ++ ys).IsChain fun a b => a = '_' → b ≠ '_' := by
      cases apart with
      | true =>
          show ('_' :: ys).IsChain _
          refine List.isChain_cons.mpr ⟨fun y hy _ => ?_, hys.single⟩
          rw [hright, Option.mem_some_iff] at hy
          exact hy ▸ hright'
      | false => exact hys.single
    rw [List.append_assoc]
    refine hxs.single.append hback fun a ha b _ hunderscore => ?_
    rw [hleft, Option.mem_some_iff] at ha
    exact absurd (ha.trans hunderscore) hleft'

/-- Characters that are no separators give a text without stray underscores. -/
theorem joined_spelled (cs : List Char) {c : Char × Nat} {rest : List (Char × Nat)}
    (hseparator : ∀ entry ∈ c :: rest, isSeparator entry.1 = false) :
    Joined (spelled cs (c :: rest)) := by
  have hupper : Joined (upperOf c.1) := by
    obtain ⟨hne, hfree⟩ := upperOf_facts
      (ne_underscore_of_not_isSeparator (hseparator c List.mem_cons_self))
    exact joined_of_notMem hne hfree
  induction rest generalizing c with
  | nil => exact hupper
  | cons d rest ih =>
      have hrest := fun entry hentry => hseparator entry (List.mem_cons_of_mem c hentry)
      obtain ⟨hne, hfree⟩ := upperOf_facts
        (ne_underscore_of_not_isSeparator (hrest d List.mem_cons_self))
      exact hupper.append (ih hrest (joined_of_notMem hne hfree)) _

/-- But for the underscores only the upper case of the characters is written. -/
theorem filter_spelled (cs : List Char) {entries : List (Char × Nat)}
    (hseparator : ∀ entry ∈ entries, isSeparator entry.1 = false) :
    (spelled cs entries).filter (· ≠ '_') = entries.flatMap fun entry => upperOf entry.1 := by
  have hupper : ∀ entry ∈ entries, (upperOf entry.1).filter (· ≠ '_') = upperOf entry.1 := by
    intro entry hentry
    obtain ⟨-, hfree⟩ := upperOf_facts
      (ne_underscore_of_not_isSeparator (hseparator entry hentry))
    refine List.filter_eq_self.mpr fun c hc => decide_eq_true ?_
    rintro rfl
    exact hfree hc
  have hmark : ∀ apart, (mark apart).filter (· ≠ '_') = [] := by decide
  induction entries with
  | nil => rfl
  | cons c entries ih =>
      have hrest := ih (fun e he => hseparator e (List.mem_cons_of_mem c he))
        fun e he => hupper e (List.mem_cons_of_mem c he)
      cases entries with
      | nil => simpa [spelled] using hupper c List.mem_cons_self
      | cons d entries =>
          rw [spelled, List.filter_append, List.filter_append, hupper c List.mem_cons_self, hmark,
            List.append_nil, hrest]
          rfl

/-- No separator is among the characters of words. -/
theorem isSeparator_of_mem_wordChars (place : Nat) (cs : List Char) :
    ∀ entry ∈ wordChars place cs, isSeparator entry.1 = false := by
  intro entry hentry
  exact (Bool.not_eq_true' _).mp (List.mem_filter.mp hentry).2

theorem flatMap_wordChars (place : Nat) (cs : List Char) :
    (wordChars place cs).flatMap (fun entry => upperOf entry.1)
      = (cs.filter (!isSeparator ·)).flatMap upperOf := by
  induction cs generalizing place with
  | nil => rfl
  | cons c cs ih =>
      rw [wordChars_cons, List.filter_cons]
      cases isSeparator c with
      | true => exact ih (place + 1)
      | false =>
          show upperOf c ++ (wordChars (place + 1) cs).flatMap _ = _
          rw [ih (place + 1)]
          rfl

end EnvSettings.Naming

namespace EnvSettings

open EnvSettings.Naming EnvSettings.Text

/-- The rule on variable names. A name gives its characters that are no separators, in their order
and in upper case, with one underscore between two of them where they are parted and nothing where
they are not. So a variable's name has no underscore at its start, none at its end and no two in a
row, and but for underscores it is the upper case of what the name has besides separators. -/
theorem screamingSnake_eq_spelled (name : String) :
    let cs := withoutRawMark name.toList
    let variableName := (screamingSnake name).toList
    variableName = spelled cs (wordChars 0 cs)
      ∧ variableName.head? ≠ some '_' ∧ variableName.getLast? ≠ some '_'
      ∧ ¬ ['_', '_'] <:+: variableName
      ∧ variableName.filter (· ≠ '_') = (cs.filter (!isSeparator ·)).flatMap upperOf := by
  intro cs variableName
  have hspelled : variableName = spelled cs (wordChars 0 cs) := by
    show (String.ofList (screamingSnakeChars name.toList)).toList = _
    rw [String.toList_ofList, screamingSnakeChars_eq]
    exact upperName_append (List.forall_mem_nil _) cs
  refine ⟨hspelled, ?_⟩
  have hseparator := isSeparator_of_mem_wordChars 0 cs
  rw [hspelled, filter_spelled cs hseparator, flatMap_wordChars]
  cases hentries : wordChars 0 cs with
  | nil =>
      refine ⟨(nomatch ·), (nomatch ·), fun h => ?_, rfl⟩
      exact absurd (List.infix_nil.mp h) (List.cons_ne_nil _ _)
  | cons c rest =>
      have hjoined : Joined (spelled cs (c :: rest)) := joined_spelled cs (hentries ▸ hseparator)
      obtain ⟨first, hfirst, hfirst'⟩ := hjoined.starts
      obtain ⟨last, hlast, hlast'⟩ := hjoined.ends
      refine ⟨?_, ?_, fun h => ?_, rfl⟩
      · rw [hfirst]
        exact fun h => hfirst' (Option.some.inj h)
      · rw [hlast]
        exact fun h => hlast' (Option.some.inj h)
      · have hpair := List.IsChain.infix hjoined.single h
        exact List.isChain_pair.mp hpair rfl rfl

/-- An acronym before a word, a digit before a capital, and several separators in a row. -/
example : screamingSnake "r#HTTPServer--v2Go." = "HTTP_SERVER_V2_GO" := by decide +kernel

end EnvSettings
