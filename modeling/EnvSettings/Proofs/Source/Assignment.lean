/-
Environments that texts are assigned to. An assignment counts for its own name and for no other
(`value?_assignText`), so a name finds what it was assigned last (`value?_ofTexts`). Where only
missing variables are assigned, it finds what it found before, else what comes first
(`value?_complete`). Distinct names stay distinct.

# Names with an equals sign

All this is about names without an equals sign. No variable has a name with one, but a process
finds under it what stands in the value of the variable before the sign, if that value starts with
the rest of the name and a further sign (`value?_equals_iff`). Hence environments of distinct names
that agree on names without an equals sign agree on all names (`value?_congr`).
-/
import EnvSettings.Proofs.Source.Environment
import EnvSettings.Proofs.Source.Listing

namespace EnvSettings.Environment

open EnvSettings.Source

-- ============================================================== assigning

/-- An assigned variable is found with its value, and all others as before. -/
theorem lookup_assign (env : Environment) (name value other : Bytes) :
    (env.assign name value).lookup other
      = if other = name then some value else env.lookup other := by
  induction env with
  | nil => exact lookup_cons_eq_ite (name, value) [] other
  | cons entry env ih =>
      unfold assign
      by_cases hown : entry.1 = name
      · rw [if_pos hown, lookup_cons_eq_ite, lookup_cons_eq_ite, hown]
        by_cases hother : other = name
        · rw [if_pos hother, if_pos hother]
        · rw [if_neg hother, if_neg hother, if_neg hother]
      · rw [if_neg hown, lookup_cons_eq_ite, lookup_cons_eq_ite, ih]
        by_cases hother : other = entry.1
        · have hne : other ≠ name := fun h => hown (hother.symm.trans h)
          rw [if_pos hother, if_pos hother, if_neg hne]
        · rw [if_neg hother, if_neg hother]

/-- An assignment adds its name unless it is there. -/
theorem map_fst_assign (env : Environment) (name value : Bytes) :
    (env.assign name value).map Prod.fst
      = if name ∈ env.map Prod.fst then env.map Prod.fst else env.map Prod.fst ++ [name] := by
  induction env with
  | nil => rfl
  | cons entry env ih =>
      unfold assign
      by_cases hown : entry.1 = name
      · rw [if_pos hown, List.map_cons, List.map_cons, hown, if_pos List.mem_cons_self]
      · rw [if_neg hown, List.map_cons, ih, List.map_cons]
        by_cases hmem : name ∈ env.map Prod.fst
        · rw [if_pos hmem, if_pos (List.mem_cons_of_mem _ hmem)]
        · have hnot : name ∉ entry.1 :: env.map Prod.fst :=
            fun h => (List.mem_cons.mp h).elim (Ne.symm hown) hmem
          rw [if_neg hmem, if_neg hnot, List.cons_append]

/-- An assignment keeps names distinct. -/
theorem nodup_assign {env : Environment} (hnames : (env.map Prod.fst).Nodup) (name value : Bytes) :
    ((env.assign name value).map Prod.fst).Nodup := by
  rw [map_fst_assign]
  by_cases hmem : name ∈ env.map Prod.fst
  · rw [if_pos hmem]
    exact hnames
  · rw [if_neg hmem]
    exact List.nodup_append.mpr ⟨hnames, List.nodup_singleton name,
      fun _ hother _ hown => ne_of_mem_of_not_mem hother (List.mem_singleton.mp hown ▸ hmem)⟩

theorem nodup_assignText {env : Environment} (hnames : (env.map Prod.fst).Nodup)
    (binding : String × String) : ((env.assignText binding).map Prod.fst).Nodup :=
  nodup_assign hnames _ _

theorem nodup_addMissing {env : Environment} (hnames : (env.map Prod.fst).Nodup)
    (binding : String × String) : ((env.addMissing binding).map Prod.fst).Nodup := by
  unfold addMissing
  split
  · exact hnames
  · exact nodup_assignText hnames binding

/-- A process that was given texts has variables of distinct names. -/
theorem nodup_ofTexts (bindings : Bindings) : ((ofTexts bindings).map Prod.fst).Nodup :=
  List.foldlRecOn (motive := fun env : Environment => (env.map Prod.fst).Nodup) bindings assignText
    List.nodup_nil fun _ hnames binding _ => nodup_assignText hnames binding

/-- Adding what is missing keeps names distinct. -/
theorem nodup_complete {env : Environment} (hnames : (env.map Prod.fst).Nodup)
    (bindings : Bindings) : ((env.complete bindings).map Prod.fst).Nodup :=
  List.foldlRecOn (motive := fun env : Environment => (env.map Prod.fst).Nodup) bindings addMissing
    hnames fun _ hnames binding _ => nodup_addMissing hnames binding

-- ================================================================= finding

section

variable {env : Environment} {name : String} (hname : '=' ∉ name.toList)

include hname

/-- A variable that is given a text is found with it, and all others as before. -/
theorem value?_assignText (binding : String × String) :
    (env.assignText binding).value? name
      = if name = binding.1 then some binding.2 else env.value? name := by
  unfold value? assignText
  rw [bytes?_of_notMem _ hname, bytes?_of_notMem _ hname, lookup_assign]
  by_cases hown : name = binding.1
  · rw [if_pos (congrArg Bytes.ofText hown), if_pos hown, Option.bind_some]
    exact Bytes.text?_eq_some_iff.mpr rfl
  · rw [if_neg fun h => hown (Bytes.ofText_injective h), if_neg hown]

/-- Among texts that are assigned one after the other the last one of a name counts. -/
theorem value?_ofTexts (bindings : Bindings) :
    (ofTexts bindings).value? name = bindings.value? name := by
  induction bindings using List.reverseRecOn with
  | nil => exact congrArg (Option.bind · Bytes.text?) (bytes?_of_notMem [] hname)
  | append_singleton bindings binding ih =>
      have hlast : ofTexts (bindings ++ [binding]) = (ofTexts bindings).assignText binding := by
        unfold ofTexts
        rw [List.foldl_append]
        rfl
      rw [hlast, value?_assignText hname, ih, Bindings.value?_append]
      by_cases hown : name = binding.1
      · simp [Bindings.value?, hown]
      · simp [Bindings.value?, hown, Ne.symm hown]

/-- What is missing: the value so far, else the text. -/
theorem value?_addMissing (binding : String × String) :
    (env.addMissing binding).value? name
      = (env.value? name).or (if name = binding.1 then some binding.2 else none) := by
  unfold addMissing
  by_cases hdefined : env.defines binding.1 = true
  · rw [if_pos hdefined]
    by_cases hown : name = binding.1
    · obtain ⟨value, hvalue⟩ := Option.isSome_iff_exists.mp hdefined
      rw [hown, hvalue, Option.some_or]
    · rw [if_neg hown, Option.or_none]
  · rw [if_neg hdefined, value?_assignText hname]
    by_cases hown : name = binding.1
    · have hmissing : env.value? binding.1 = none := Option.not_isSome_iff_eq_none.mp hdefined
      rw [if_pos hown, if_pos hown, hown, hmissing, Option.none_or]
    · rw [if_neg hown, if_neg hown, Option.or_none]

/-- All that is missing: the value so far, else the first text of the name. -/
theorem value?_complete (bindings : Bindings) :
    (env.complete bindings).value? name = (env.value? name).or (bindings.lookup name) := by
  induction bindings generalizing env with
  | nil => exact (Option.or_none).symm
  | cons binding bindings ih =>
      show ((env.addMissing binding).complete bindings).value? name = _
      rw [ih, value?_addMissing hname, Option.or_assoc, lookup_cons_eq_ite]
      by_cases hown : name = binding.1
      · rw [if_pos hown, if_pos hown, Option.some_or]
      · rw [if_neg hown, if_neg hown, Option.none_or]

end

-- ============================================== names with an equals sign

/-- A process of distinct names finds a text under a name with an equals sign exactly if the
variable before the sign holds the rest of the name, a further sign and that text. -/
theorem value?_equals_iff {env : Environment} (hnames : (env.map Prod.fst).Nodup)
    {own rest text : String} (hown : '=' ∉ own.toList) :
    env.value? (own ++ "=" ++ rest) = some text
      ↔ env.value? own = some (rest ++ "=" ++ text) := by
  have hbytes : ∀ s t : String,
      Bytes.ofText (s ++ "=" ++ t) = Bytes.ofText s ++ equalsSign :: Bytes.ofText t := by
    have hequals : Bytes.ofText "=" = [equalsSign] := by decide
    intro s t
    rw [Bytes.ofText_append, Bytes.ofText_append, hequals, List.append_assoc,
      List.singleton_append]
  have hentry : ownName (Bytes.ofText (own ++ "=" ++ rest)) = Bytes.ofText own := by
    unfold ownName
    rw [hbytes]
    exact (span_append (List.takeWhile_eq_self_iff.mp (ownName_ofText hown)) (by simp)).1
  have hfound : ∀ held value,
      entryValue? (Bytes.ofText (own ++ "=" ++ rest)) (Bytes.ofText own, held) = some value
        ↔ Bytes.ofText rest ++ equalsSign :: value = held := by
    intro held value
    rw [entryValue?_eq_some_iff, hbytes, List.append_assoc, List.append_cancel_left_eq,
      List.cons_append, List.cons.injEq, and_iff_right rfl]
  unfold value?
  rw [bytes?_of_nodup hnames, hentry, bytes?_of_notMem env hown]
  cases env.lookup (Bytes.ofText own) with
  | none => simp
  | some held =>
      rw [Option.bind_some, Option.bind_some, Option.bind_eq_some_iff]
      simp only [hfound held, Bytes.text?_eq_some_iff, hbytes rest text]
      apply Iff.intro
      · intro ⟨value, hvalue, htext⟩
        rw [← hvalue, htext]
      · intro hheld
        exact ⟨Bytes.ofText text, hheld.symm, rfl⟩

/-- Environments of distinct names that agree on names without an equals sign agree on all
names. -/
theorem value?_congr {env other : Environment} (henv : (env.map Prod.fst).Nodup)
    (hother : (other.map Prod.fst).Nodup)
    (hplain : ∀ name : String, '=' ∉ name.toList → env.value? name = other.value? name)
    (name : String) : env.value? name = other.value? name := by
  by_cases hname : '=' ∈ name.toList
  · obtain ⟨front, back, hparts, hfront⟩ := List.eq_append_cons_of_mem hname
    have hown : '=' ∉ (String.ofList front).toList := by rwa [String.toList_ofList]
    have hsplit : name = String.ofList front ++ "=" ++ String.ofList back := by
      refine String.toList_injective ?_
      simp [hparts]
    rw [hsplit]
    ext text
    rw [value?_equals_iff henv hown, value?_equals_iff hother hown, hplain _ hown]
  · exact hplain name hname

end EnvSettings.Environment
