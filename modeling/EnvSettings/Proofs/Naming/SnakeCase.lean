/-
Names in snake case: runs of small letters and digits, joined by single underscores.

The rule on variable names looks for capitals and separators. In such a name there are no capitals,
and every separator is an underscore between two runs, where the rule writes an underscore itself.
So nothing is left of the rule but the upper case (`screamingSnake_of_isSnakeCase`), and that can
be undone (`map_toUpper_injOn`).

# The induction

`behind_run` passes a run behind some character. `behind_runs` goes from run to run, each with the
underscore in front of it.
-/
import EnvSettings.Proofs.Naming.Gaps
import EnvSettings.Proofs.Text.Ascii

namespace EnvSettings.Naming

open EnvSettings.Text

-- ================================================================== names

/-- A small letter or a digit, both of ASCII. -/
def isSmall (c : Char) : Bool := c.isLower || c.isDigit

/-- A run of small letters and digits. -/
def IsRun (cs : List Char) : Prop := cs ≠ [] ∧ ∀ c ∈ cs, isSmall c = true

theorem isRun_of_all {cs : List Char} (hne : cs ≠ []) (hsmall : cs.all isSmall = true) :
    IsRun cs :=
  ⟨hne, List.all_eq_true.mp hsmall⟩

/-- A name in snake case: runs joined by single underscores, of which the first starts with a
letter. -/
structure IsSnakeCase (name : String) : Prop where
  exists_runs : ∃ runs : List (List Char), (∀ run ∈ runs, IsRun run)
    ∧ name.toList = ['_'].intercalate runs
  starts : ∃ c ∈ name.toList.head?, c.isLower = true

/-- Small characters are in ASCII. -/
theorem toNat_lt_of_isSmall {c : Char} (hc : isSmall c = true) : c.toNat < 128 := by
  unfold isSmall Char.isLower Char.isDigit at hc
  simp only [Bool.or_eq_true, Bool.and_eq_true, decide_eq_true_eq, ge_iff_le,
    UInt32.le_iff_toNat_le] at hc
  show c.val.toNat < 128
  have hz : 'z'.val.toNat = 122 := rfl
  have hnine : '9'.val.toNat = 57 := rfl
  omega

/-- A small character is no separator, does not start a word by itself, and has an upper case of
one character, which is no underscore. -/
theorem isSmall_facts {c : Char} (hc : isSmall c = true) :
    isSeparator c = false ∧ isUppercase c = false ∧ upperOf c = [c.toUpper]
      ∧ c.toUpper ≠ '_' := by
  have hascii := toNat_lt_of_isSmall hc
  have hcode : isSeparator c = false ∧ c.isUpper = false ∧ c.toUpper ≠ '_' := by
    refine forall_ascii (p := fun c => isSmall c = true →
      isSeparator c = false ∧ c.isUpper = false ∧ c.toUpper ≠ '_') ?_ hascii hc
    decide +kernel
  obtain ⟨hseparator, hupper, hunderscore⟩ := hcode
  exact ⟨hseparator, (isUppercase_of_ascii hascii).trans hupper, upperOf_of_ascii hascii,
    hunderscore⟩

-- ==================================================================== run

/-- No small character starts a word. -/
theorem startsWord_of_isSmall {c : Char} (hc : isSmall c = true) (before : Char)
    (after : Option Char) : startsWord before c after = false := by
  unfold startsWord
  rw [(isSmall_facts hc).2.1, Bool.false_and]

/-- A run behind some character is written in upper case, and the rest is written behind the last
character of the run. -/
theorem behind_run {run : List Char} (hrun : ∀ c ∈ run, isSmall c = true) (c : Char)
    (rest : List Char) :
    behind c false (run ++ rest) = run.map Char.toUpper ++ behind (run.getLastD c) false rest := by
  induction run generalizing c with
  | nil => rfl
  | cons d run ih =>
      have hd := hrun d List.mem_cons_self
      obtain ⟨hseparator, -, hone, -⟩ := isSmall_facts hd
      have hrest := ih (fun e he => hrun e (List.mem_cons_of_mem d he)) d
      rw [List.cons_append, behind, hseparator, if_neg Bool.false_ne_true,
        startsWord_of_isSmall hd, hone, hrest, List.getLastD_cons]
      rfl

/-- A run at the start of a name is written in upper case too. -/
theorem upperName_run {run : List Char} (hrun : IsRun run) (rest : List Char) :
    ∃ last, upperName (run ++ rest) = run.map Char.toUpper ++ behind last false rest := by
  obtain ⟨hne, hsmall⟩ := hrun
  obtain ⟨d, run, rfl⟩ := List.exists_cons_of_ne_nil hne
  obtain ⟨hseparator, -, hone, -⟩ := isSmall_facts (hsmall d List.mem_cons_self)
  have hrest := behind_run (fun e he => hsmall e (List.mem_cons_of_mem d he)) d rest
  refine ⟨run.getLastD d, ?_⟩
  show upperName (d :: (run ++ rest)) = _
  rw [upperName, hseparator, if_neg Bool.false_ne_true, hone, hrest]
  rfl

/-- Behind separators a name goes on as it would start, with an underscore in front. -/
theorem behind_run_apart {run : List Char} (hrun : IsRun run) (c : Char) (rest : List Char) :
    behind c true (run ++ rest) = '_' :: upperName (run ++ rest) := by
  obtain ⟨hne, hsmall⟩ := hrun
  obtain ⟨d, run, rfl⟩ := List.exists_cons_of_ne_nil hne
  have hseparator := (isSmall_facts (hsmall d List.mem_cons_self)).1
  show behind c true (d :: (run ++ rest)) = '_' :: upperName (d :: (run ++ rest))
  rw [behind, upperName, hseparator, if_neg Bool.false_ne_true, if_neg Bool.false_ne_true]
  rfl

/-- Runs with an underscore in front of each are written in upper case. -/
theorem behind_runs {runs : List (List Char)} (hruns : ∀ run ∈ runs, IsRun run) (c : Char) :
    behind c false (runs.flatMap ('_' :: ·)) = (runs.flatMap ('_' :: ·)).map Char.toUpper := by
  induction runs generalizing c with
  | nil => rfl
  | cons run runs ih =>
      have hrun := hruns run List.mem_cons_self
      obtain ⟨last, hpassed⟩ := upperName_run hrun (runs.flatMap ('_' :: ·))
      have hrest := ih (fun r hr => hruns r (List.mem_cons_of_mem _ hr)) last
      have hunderscore : isSeparator '_' = true := rfl
      show behind c false ('_' :: (run ++ runs.flatMap ('_' :: ·))) = _
      rw [behind, if_pos hunderscore, behind_run_apart hrun, hpassed, hrest, ← List.map_append]
      rfl

-- ============================================================ whole names

/-- Behind the first of joined texts the others follow with the underscore in front of each. -/
theorem intercalate_cons (run : List Char) (runs : List (List Char)) :
    ['_'].intercalate (run :: runs) = run ++ runs.flatMap ('_' :: ·) := by
  induction runs generalizing run with
  | nil => simp
  | cons next runs ih =>
      rw [List.intercalate_cons_cons, ih next, List.flatMap_cons, List.append_assoc]
      rfl

/-- Runs joined by underscores are written in upper case, joined by underscores. -/
theorem upperName_runs {runs : List (List Char)} (hruns : ∀ run ∈ runs, IsRun run) :
    upperName (['_'].intercalate runs) = (['_'].intercalate runs).map Char.toUpper := by
  cases runs with
  | nil => rfl
  | cons run runs =>
      obtain ⟨last, hpassed⟩ := upperName_run (hruns run List.mem_cons_self)
        (runs.flatMap ('_' :: ·))
      rw [intercalate_cons, hpassed, behind_runs fun r hr => hruns r (List.mem_cons_of_mem _ hr),
        ← List.map_append]

theorem mem_of_mem_intercalate {α : Type} {separator : List α} {parts : List (List α)} {a : α}
    (ha : a ∈ separator.intercalate parts) : a ∈ separator ∨ ∃ part ∈ parts, a ∈ part := by
  induction parts with
  | nil => cases ha
  | cons part parts ih =>
      cases parts with
      | nil =>
          rw [List.intercalate_singleton] at ha
          exact Or.inr ⟨part, List.mem_cons_self, ha⟩
      | cons next parts =>
          rw [List.intercalate_cons_cons, List.mem_append, List.mem_append] at ha
          rcases ha with (ha | ha) | ha
          · exact Or.inr ⟨part, List.mem_cons_self, ha⟩
          · exact Or.inl ha
          · refine (ih ha).imp_right ?_
            rintro ⟨other, hother, hmem⟩
            exact ⟨other, List.mem_cons_of_mem _ hother, hmem⟩

/-- A name in snake case has small characters and underscores only. -/
theorem IsSnakeCase.mem {name : String} (hname : IsSnakeCase name) {c : Char}
    (hc : c ∈ name.toList) : isSmall c = true ∨ c = '_' := by
  obtain ⟨runs, hruns, heq⟩ := hname.exists_runs
  rw [heq] at hc
  rcases mem_of_mem_intercalate hc with hseparator | ⟨run, hrun, hmem⟩
  · exact Or.inr (List.mem_singleton.mp hseparator)
  · exact Or.inl ((hruns run hrun).2 c hmem)

/-- The variable name of a name in snake case is the name in upper case. -/
theorem screamingSnake_of_isSnakeCase {name : String} (hname : IsSnakeCase name) :
    screamingSnake name = name.map Char.toUpper := by
  obtain ⟨runs, hruns, heq⟩ := hname.exists_runs
  -- no name in snake case has the number sign of the raw mark
  have hraw : withoutRawMark name.toList = name.toList := by
    unfold withoutRawMark
    split
    · next rest hmark =>
      have hmem : '#' ∈ name.toList := by simp [hmark]
      rcases hname.mem hmem with h | h
      · cases h
      · cases h
    · rfl
  refine String.toList_injective ?_
  rw [String.toList_map, screamingSnake, String.toList_ofList, screamingSnakeChars_eq, hraw, heq,
    upperName_runs hruns]

/-- The upper case of what can stand in snake case is undone by the lower case. -/
theorem toLower_toUpper {c : Char} (hc : isSmall c = true ∨ c = '_') :
    c.toUpper.toLower = c := by
  rcases hc with hsmall | rfl
  · refine forall_ascii (p := fun c => isSmall c = true → c.toUpper.toLower = c) ?_
      (toNat_lt_of_isSmall hsmall) hsmall
    decide +kernel
  · rfl

/-- Texts of small characters and underscores are the same if their upper cases are. -/
theorem map_toUpper_injOn {cs ds : List Char} (hcs : ∀ c ∈ cs, isSmall c = true ∨ c = '_')
    (hds : ∀ d ∈ ds, isSmall d = true ∨ d = '_')
    (hupper : cs.map Char.toUpper = ds.map Char.toUpper) : cs = ds := by
  have hundo : ∀ es : List Char, (∀ e ∈ es, isSmall e = true ∨ e = '_') →
      (es.map Char.toUpper).map Char.toLower = es := by
    intro es hes
    rw [List.map_map]
    exact (List.map_congr_left fun e he => toLower_toUpper (hes e he)).trans (List.map_id es)
  rw [← hundo cs hcs, hupper, hundo ds hds]

/-- Names in snake case have different variable names if they are different. -/
theorem screamingSnake_injOn {name other : String} (hname : IsSnakeCase name)
    (hother : IsSnakeCase other) (hsame : screamingSnake name = screamingSnake other) :
    name = other := by
  rw [screamingSnake_of_isSnakeCase hname, screamingSnake_of_isSnakeCase hother] at hsame
  refine String.toList_injective (map_toUpper_injOn (fun c hc => hname.mem hc)
    (fun c hc => hother.mem hc) ?_)
  rw [← String.toList_map, ← String.toList_map, hsame]

end EnvSettings.Naming
