/-
Decoding from the environment of a process that has a variable which is not text.

To a lenient decoding such a variable is as good as none: it cannot be read, so the environment
agrees on every name with the one without it. A strict decoding sees one more thing, the list of
names, and there a variable stands whose name is text though its value is not. It is then reported
as unread, if its name is under the stem and no leaf's and there is otherwise a configuration; in
all other cases the answer is the same as without the variable
(`decode_unreadable_variable`). So a strict decoding does not ignore all variables that are not
text (`strict_decode_reports_unreadable_value`).
-/
import EnvSettings.Proofs.Decode.Locality
import EnvSettings.Proofs.Decode.Unused
import EnvSettings.Proofs.Source.Environment
import EnvSettings.Sample.Plain

namespace EnvSettings

open EnvSettings.Source

variable {A : Type} [AppTypes A] [DecidableEq A] {s : Schema A} {registry : Registry A}
  {stem : String} {echo : Bool} {start : s.Config}

section

variable {before after : Environment} {n v : Bytes} (hnew : n ∉ (before ++ after).map Prod.fst)
  (hunreadable : n.text? = none ∨ v.text? = none)

include hnew hunreadable

/-- A lenient decoding ignores a variable that is not text. -/
theorem Decoder.decode_insert_unreadable :
    (Decoder.mk registry stem false echo).decode s start
        (Environment.toSource (before ++ (n, v) :: after))
      = (Decoder.mk registry stem false echo).decode s start
          (Environment.toSource (before ++ after)) := by
  refine Decoder.decode_congr rfl fun l => ?_
  have hvalue := Environment.value?_insert_unreadable hnew hunreadable (l.key stem)
  exact congrArg present? hvalue

/-- A strict decoding ignores it too, if its name is not listed or not unread. -/
theorem Decoder.strict_decode_insert_hidden
    (hhidden : ∀ name, n.text? = some name → name ≠ "" → ¬ s.Unread stem name) :
    (Decoder.mk registry stem true echo).decode s start
        (Environment.toSource (before ++ (n, v) :: after))
      = (Decoder.mk registry stem true echo).decode s start
          (Environment.toSource (before ++ after)) := by
  have hlisted : (Environment.names (before ++ (n, v) :: after)).filter
        (fun name => s.Unread stem name)
      = (Environment.names (before ++ after)).filter (fun name => s.Unread stem name) :=
    Environment.filter_names_insert_eq fun name hname hne =>
      decide_eq_false (hhidden name hname hne)
  have hunread := Decoder.unread_filled (Decoder.mk registry stem true echo) s start
    (Environment.toSource (before ++ (n, v) :: after))
  have hsame := hunread.trans (congrArg (List.mergeSort · _) hlisted)
  rw [Decoder.decode_of_denyUnused hsame, Decoder.decode_insert_unreadable hnew hunreadable,
    Decoder.decode_of_denyUnused (Decoder.unread_filled _ s start _)]
  rfl

variable {name : String} (hname : n.text? = some name) (hne : name ≠ "")
  (hunread : s.Unread stem name) {c : s.Config}
  (hc : (Decoder.mk registry stem false echo).decode s start
    (Environment.toSource (before ++ after)) = .ok c)

include hname hne hunread hc

/-- A strict decoding reports it, if its name is unread and there is otherwise a configuration. -/
theorem Decoder.strict_decode_insert_unread :
    ∃ names : List String, names.Pairwise (· ≤ ·)
      ∧ names.Perm (name :: (Environment.names (before ++ after)).filter
          fun other => s.Unread stem other)
      ∧ (Decoder.mk registry stem true echo).decode s start
          (Environment.toSource (before ++ (n, v) :: after)) = .error (.unused names) := by
  have hperm : ((Environment.names (before ++ (n, v) :: after)).filter
        fun other => s.Unread stem other).Perm
      (name :: (Environment.names (before ++ after)).filter fun other => s.Unread stem other) :=
    Environment.filter_names_insert_perm hname hne (decide_eq_true hunread)
  refine ⟨_, pairwise_mergeSort _, (List.mergeSort_perm _ _).trans hperm, ?_⟩
  rw [Decoder.decode_of_denyUnused (Decoder.unread_filled _ s start _),
    Decoder.decode_insert_unreadable hnew hunreadable, hc]
  have hlisted : (Environment.names (before ++ (n, v) :: after)).filter
      (fun other => s.Unread stem other) ≠ [] := by
    intro hempty
    rw [hempty] at hperm
    cases hperm.symm.eq_nil
  refine if_neg fun hempty => hlisted ?_
  rw [← List.nil_perm, ← hempty]
  exact List.mergeSort_perm _ _

/-- The report changes the answer: the names it holds are one more than those that were unread
before. -/
theorem Decoder.strict_decode_insert_ne :
    (Decoder.mk registry stem true echo).decode s start
        (Environment.toSource (before ++ (n, v) :: after))
      ≠ (Decoder.mk registry stem true echo).decode s start
          (Environment.toSource (before ++ after)) := by
  intro hsame
  obtain ⟨names, -, hperm, hreport⟩ :=
    Decoder.strict_decode_insert_unread hnew hunreadable hname hne hunread hc
  have hold := Decoder.eq_unread_of_decode (hsame.symm.trans hreport)
  rw [Decoder.unread_filled] at hold
  -- as reported before, the same names are one fewer
  have hperm' := hperm.symm.trans (hold ▸ List.mergeSort_perm _ _)
  have hlength := hperm'.length_eq
  rw [List.length_cons] at hlength
  exact Nat.succ_ne_self _ hlength

end

/-- A variable that is not text. Let an environment be extended by a variable of a new name, of
which the name or the value is not text. A decoding then answers as it did before, unless it is
strict, the name is text and unread under the stem, and there would be a configuration if unread
names were no matter; and in this one case it reports that name, in its place among the names that
were unread before. -/
theorem decode_unreadable_variable (s : Schema A) (registry : Registry A) (stem : String)
    (strict echo : Bool) (start : s.Config) (before after : Environment) {n v : Bytes}
    (hnew : n ∉ (before ++ after).map Prod.fst)
    (hunreadable : n.text? = none ∨ v.text? = none) :
    let old := Environment.toSource (before ++ after)
    let new := Environment.toSource (before ++ (n, v) :: after)
    ((Decoder.mk registry stem strict echo).decode s start new
          = (Decoder.mk registry stem strict echo).decode s start old
        ↔ ¬ (strict = true
          ∧ (∃ name, n.text? = some name ∧ name ≠ "" ∧ s.Unread stem name)
          ∧ ∃ c, (Decoder.mk registry stem false echo).decode s start old = .ok c))
      ∧ ∀ name c, strict = true → n.text? = some name → name ≠ "" → s.Unread stem name →
        (Decoder.mk registry stem false echo).decode s start old = .ok c →
        ∃ names : List String, names.Pairwise (· ≤ ·)
          ∧ names.Perm (name :: old.list.filter fun other => s.Unread stem other)
          ∧ (Decoder.mk registry stem strict echo).decode s start new = .error (.unused names) := by
  intro old new
  refine ⟨⟨fun hsame => ?_, fun hexcept => ?_⟩, fun name c hstrict hname hne hunread hc => ?_⟩
  · rintro ⟨rfl, ⟨name, hname, hne, hunread⟩, c, hc⟩
    exact Decoder.strict_decode_insert_ne hnew hunreadable hname hne hunread hc hsame
  · have hlenient : (Decoder.mk registry stem false echo).decode s start new
        = (Decoder.mk registry stem false echo).decode s start old :=
      Decoder.decode_insert_unreadable hnew hunreadable
    cases strict with
    | false => exact hlenient
    | true =>
        cases hold : (Decoder.mk registry stem false echo).decode s start old with
        | error e =>
            -- the lenient error is the strict one, and a lenient decoding sees no difference
            rw [Decoder.decode_of_denyUnused rfl, Decoder.decode_of_denyUnused rfl, hlenient, hold]
            rfl
        | ok c =>
            refine Decoder.strict_decode_insert_hidden hnew hunreadable fun name hname hne h => ?_
            exact hexcept ⟨rfl, ⟨name, hname, hne, h⟩, c, hold⟩
  · rw [hstrict]
    exact Decoder.strict_decode_insert_unread hnew hunreadable hname hne hunread hc

/-- A value that is not text, between one that is unread and one that is read. -/
theorem decode_unreadable_variable_listed :
    let s : Schema Empty := .value "verbose" (.scalar .bool) false .plain .done
    let n := Bytes.ofText "A_NOISE"
    let before := Environment.ofTexts [("A_OTHER", "1"), ("HOME", "/root")]
    let after := Environment.ofTexts [("A_VERBOSE", "true")]
    n ∉ (before ++ after).map Prod.fst ∧ Bytes.text? [255] = none
      ∧ ∃ names : List String, names.Pairwise (· ≤ ·) ∧ names.Perm ["A_NOISE", "A_OTHER"]
        ∧ (Decoder.mk Registry.empty "A_" true true).decode s s.initial
            (Environment.toSource (before ++ (n, [255]) :: after)) = .error (.unused names) := by
  intro s n before after
  have hnew : n ∉ (before ++ after).map Prod.fst := by decide +kernel
  have hunreadable : Bytes.text? [255] = none := by decide +kernel
  have hname : n.text? = some "A_NOISE" := by decide +kernel
  have hunread : s.Unread "A_" "A_NOISE" := by decide +kernel
  have hothers : (Environment.toSource (before ++ after)).list.filter
      (fun other => s.Unread "A_" other) = ["A_OTHER"] := by decide +kernel
  have hlenient : ∃ c, (Decoder.mk Registry.empty "A_" false true).decode s s.initial
      (Environment.toSource (before ++ after)) = .ok c := by
    have hfine : s.firstError? (Registry.empty : Registry Empty) [] = none := rfl
    have herrors : ((Decoder.mk Registry.empty "A_" false true).filled s s.initial
        (Environment.toSource (before ++ after))).errors = [] := by decide +kernel
    rw [Decoder.decode_lenient hfine]
    exact ⟨_, if_neg (not_not.mpr herrors)⟩
  obtain ⟨c, hc⟩ := hlenient
  have hreport := (decode_unreadable_variable s Registry.empty "A_" true true s.initial before
    after hnew (Or.inr hunreadable)).2 "A_NOISE" c rfl hname (by decide) hunread hc
  rw [hothers] at hreport
  exact ⟨hnew, hunreadable, hreport⟩

/-- A strict decoding does not ignore a variable whose value is not text: without the variable
there is a configuration, and with it there is none. -/
theorem strict_decode_reports_unreadable_value :
    let s : Schema Empty := .value "verbose" (.scalar .bool) false .plain .done
    let d : Decoder Empty := ⟨Registry.empty, "A_", true, true⟩
    let env : Environment := []
    Bytes.ofText "A_NOISE" ∉ env.map Prod.fst ∧ Bytes.text? [255] = none
      ∧ d.decode s s.initial env.toSource = .ok (false, ())
      ∧ d.decode s s.initial (Environment.toSource (env ++ [(Bytes.ofText "A_NOISE", [255])]))
        = .error (.unused ["A_NOISE"]) := by
  intro s d env
  have hnew : Bytes.ofText "A_NOISE" ∉ (env ++ []).map Prod.fst := List.not_mem_nil
  have hunreadable : Bytes.text? [255] = none := by decide +kernel
  have hlenient : (Decoder.mk Registry.empty "A_" false true).decode s s.initial env.toSource
      = .ok (false, ()) := rfl
  have hwithout : d.unread (d.filled s s.initial env.toSource) = [] := by decide +kernel
  have hwith : d.unread (d.filled s s.initial
      (Environment.toSource (env ++ [(Bytes.ofText "A_NOISE", [255])]))) = ["A_NOISE"] := by
    decide +kernel
  refine ⟨hnew, hunreadable, ?_, ?_⟩
  · rw [Decoder.decode_of_denyUnused hwithout, hlenient]
    rfl
  · rw [Decoder.decode_of_denyUnused hwith,
      Decoder.decode_insert_unreadable hnew (Or.inr hunreadable), List.append_nil, hlenient]
    rfl

end EnvSettings
