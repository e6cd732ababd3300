/-
The environment of a process as a source: what a name finds, which names are listed, and what a
variable that is not text does to both, if the environment did not have a variable of that name
before.

Such a variable is never read: no name finds it, whichever of name and value is not text
(`value?_insert_unreadable`). This holds also of a name that reaches into the value through an
equals sign, since what such a name finds behind the equals sign is as little text as the value.

But it may be listed. Names are listed without a look at the values, so a variable whose name is
text joins the list whatever its value is (`names_insert`).
-/
import EnvSettings.Source.Environment
import EnvSettings.Proofs.Lists
import EnvSettings.Proofs.Source.Bytes
import Mathlib.Data.List.Nodup
import Mathlib.Data.List.TakeWhile

namespace EnvSettings.Environment

open EnvSettings.Source

-- ================================================================ values

/-- A name finds what stands behind it and an equals sign in an entry. -/
theorem entryValue?_eq_some_iff {name value : Bytes} {entry : Bytes × Bytes} :
    entryValue? name entry = some value
      ↔ name ++ equalsSign :: value = entry.1 ++ equalsSign :: entry.2 := by
  unfold entryValue?
  simp only [Option.ite_none_right_eq_some, Option.some.injEq, List.isPrefixOf_iff_prefix]
  constructor
  · rintro ⟨⟨rest, hrest⟩, rfl⟩
    rw [← hrest, List.drop_left, List.append_assoc, List.singleton_append]
  · intro h
    rw [← h]
    have hsplit : name ++ equalsSign :: value = (name ++ [equalsSign]) ++ value := by
      rw [List.append_assoc, List.singleton_append]
    rw [hsplit, List.drop_left]
    exact ⟨List.prefix_append _ _, rfl⟩

/-- A name that is text finds no text in an entry that is not text through and through. -/
theorem text?_of_entryValue? {name : String} {value n v : Bytes}
    (hunreadable : n.text? = none ∨ v.text? = none)
    (hvalue : entryValue? (Bytes.ofText name) (n, v) = some value) : value.text? = none := by
  rw [Option.eq_none_iff_forall_ne_some]
  intro text htext
  have hentry := entryValue?_eq_some_iff.mp hvalue
  have hequals : Bytes.ofText "=" = [equalsSign] := by decide
  have hwhole : n ++ equalsSign :: v = Bytes.ofText (name ++ "=" ++ text) := by
    rw [← hentry, Bytes.text?_eq_some_iff.mp htext, Bytes.ofText_append, Bytes.ofText_append,
      hequals, List.append_assoc, List.singleton_append]
  obtain ⟨⟨a, ha⟩, b, hb⟩ := Bytes.text_of_append_cons (by decide) hwhole
  rcases hunreadable with hn | hv
  · exact Bytes.text?_eq_none_iff.mp hn a ha
  · exact Bytes.text?_eq_none_iff.mp hv b hb

/-- A name without an equals sign is looked for in the variable of that name. -/
theorem ownName_ofText {name : String} (hname : '=' ∉ name.toList) :
    ownName (Bytes.ofText name) = Bytes.ofText name := by
  unfold ownName
  rw [List.takeWhile_eq_self_iff]
  intro b hb
  refine decide_eq_true ?_
  rintro rfl
  exact hname ((Bytes.mem_ofText_iff (by decide) (by decide)).mp hb)

/-- A name without an equals sign finds the first variable of that name. -/
theorem bytes?_of_notMem (env : Environment) {name : String} (hname : '=' ∉ name.toList) :
    env.bytes? name = env.lookup (Bytes.ofText name) := by
  simp only [bytes?, ownName_ofText hname]
  induction env with
  | nil => rfl
  | cons entry env ih =>
      rw [List.filter_cons, lookup_cons_eq_ite]
      by_cases hown : entry.1 = Bytes.ofText name
      · have hvalue : entryValue? (Bytes.ofText name) entry = some entry.2 :=
          entryValue?_eq_some_iff.mpr (by rw [hown])
        rw [if_pos (decide_eq_true hown), if_pos hown.symm, List.findSome?_cons, hvalue]
      · rw [if_neg fun h => hown (of_decide_eq_true h), if_neg (Ne.symm hown), ih]

/-- No entry is looked at for a name that no variable has. -/
theorem filter_eq_nil_of_notMem {env : Environment} {own : Bytes} (hnew : own ∉ env.map Prod.fst) :
    env.filter (·.1 = own) = [] := by
  rw [List.filter_eq_nil_iff]
  intro entry hentry hown
  rw [← of_decide_eq_true hown] at hnew
  exact hnew (List.mem_map_of_mem hentry)

/-- Among variables of distinct names a name has one entry to look at. -/
theorem bytes?_of_nodup {env : Environment} (hnames : (env.map Prod.fst).Nodup) (name : String) :
    env.bytes? name
      = (env.lookup (ownName (Bytes.ofText name))).bind fun value =>
          entryValue? (Bytes.ofText name) (ownName (Bytes.ofText name), value) := by
  simp only [bytes?]
  generalize ownName (Bytes.ofText name) = own
  induction env with
  | nil => rfl
  | cons entry env ih =>
      obtain ⟨hnew, hnames⟩ := List.nodup_cons.mp hnames
      rw [List.filter_cons, lookup_cons_eq_ite]
      by_cases hown : entry.1 = own
      · have hrest : env.filter (·.1 = own) = [] := filter_eq_nil_of_notMem (hown ▸ hnew)
        rw [if_pos (decide_eq_true hown), if_pos hown.symm, hrest, List.findSome?_singleton,
          Option.bind_some, ← hown]
      · rw [if_neg fun h => hown (of_decide_eq_true h), if_neg (Ne.symm hown), ih hnames]

section

variable {before after : Environment} {n v : Bytes}

/-- No name finds a variable that is not text. -/
theorem value?_insert_unreadable (hnew : n ∉ (before ++ after).map Prod.fst)
    (hunreadable : n.text? = none ∨ v.text? = none) (name : String) :
    value? (before ++ (n, v) :: after) name = value? (before ++ after) name := by
  simp only [value?, bytes?]
  by_cases hown : n = ownName (Bytes.ofText name)
  · -- the name looks at the new entry, and without it at none
    have hnone : (before ++ after).filter (·.1 = ownName (Bytes.ofText name)) = [] :=
      filter_eq_nil_of_notMem (hown ▸ hnew)
    have hone : (before ++ (n, v) :: after).filter (·.1 = ownName (Bytes.ofText name))
        = [(n, v)] := by
      rw [List.filter_append, List.append_eq_nil_iff] at hnone
      have hfound : decide ((n, v).1 = ownName (Bytes.ofText name)) = true := decide_eq_true hown
      rw [List.filter_append, List.filter_cons, if_pos hfound, hnone.1, hnone.2, List.nil_append]
    rw [hone, hnone, List.findSome?_singleton]
    cases hvalue : entryValue? (Bytes.ofText name) (n, v) with
    | none => rfl
    | some value =>
        rw [Option.bind_some, text?_of_entryValue? hunreadable hvalue]
        rfl
  · have hskip : ¬ decide ((n, v).1 = ownName (Bytes.ofText name)) = true :=
      fun h => hown (of_decide_eq_true h)
    rw [List.filter_append, List.filter_append, List.filter_cons, if_neg hskip]

end

-- ================================================================= names

/-- The names of a process are its variables' names that are text and not empty. -/
theorem mem_names {env : Environment} {name : String} :
    name ∈ env.names ↔ name ≠ "" ∧ Bytes.ofText name ∈ env.map Prod.fst := by
  unfold names
  rw [List.mem_filter, List.mem_filterMap, decide_eq_true_eq, and_comm, List.mem_map]
  refine and_congr_right fun _ => exists_congr fun entry => and_congr_right fun _ => ?_
  exact Bytes.text?_eq_some_iff

/-- Variables of distinct names are listed once each. -/
theorem nodup_names {env : Environment} (hnames : (env.map Prod.fst).Nodup) : env.names.Nodup := by
  have htexts : env.filterMap (·.1.text?) = (env.map Prod.fst).filterMap Bytes.text? := by
    rw [List.filterMap_map]
    rfl
  unfold names
  rw [htexts]
  refine (hnames.filterMap fun first second name hfirst hsecond => ?_).filter _
  rw [Bytes.text?_eq_some_iff.mp hfirst, Bytes.text?_eq_some_iff.mp hsecond]

/-- A process lists every name for which it has a value, if the name has no equals sign and no
variable has an empty name. -/
theorem mem_names_of_value? {env : Environment} (hempty : [] ∉ env.map Prod.fst)
    {name value : String} (hname : '=' ∉ name.toList) (hvalue : env.value? name = some value) :
    name ∈ env.names := by
  unfold value? at hvalue
  rw [bytes?_of_notMem env hname, Option.bind_eq_some_iff] at hvalue
  obtain ⟨bytes, hbytes, -⟩ := hvalue
  obtain ⟨front, back, hentries, -⟩ := List.lookup_eq_some_iff.mp hbytes
  have hentry : Bytes.ofText name ∈ env.map Prod.fst := by simp [hentries]
  refine mem_names.mpr ⟨?_, hentry⟩
  rintro rfl
  exact hempty hentry

section

variable {before after : Environment} {n v : Bytes}

/-- The names of variables in a row are listed in a row. -/
theorem names_append (front back : Environment) :
    names (front ++ back) = names front ++ names back := by
  unfold names
  rw [List.filterMap_append, List.filter_append]

/-- A further variable is listed in its place if its name is text and not empty, whatever its value
is. -/
theorem names_insert :
    names (before ++ (n, v) :: after)
      = names before ++ ((n.text?.filter (· ≠ "")).toList ++ names after) := by
  have hone : names [(n, v)] = (n.text?.filter (· ≠ "")).toList := by
    unfold names
    cases htext : n.text? with
    | none => simp [htext]
    | some name =>
        by_cases hne : name = ""
        · simp [htext, hne]
        · simp [htext, hne, Option.filter]
  rw [← List.singleton_append, names_append, names_append, hone]

/-- Among the names that satisfy `p` a further variable shows only if its own name is listed and
satisfies `p`. -/
theorem filter_names_insert_eq {p : String → Bool}
    (hhidden : ∀ name, n.text? = some name → name ≠ "" → p name = false) :
    (names (before ++ (n, v) :: after)).filter p = (names (before ++ after)).filter p := by
  have hnone : (n.text?.filter (· ≠ "")).toList.filter p = [] := by
    rw [List.filter_eq_nil_iff]
    intro name hname hp
    obtain ⟨htext, hne⟩ := Option.filter_eq_some_iff.mp (Option.mem_toList.mp hname)
    rw [hhidden name htext (of_decide_eq_true hne)] at hp
    cases hp
  rw [names_insert, List.filter_append, List.filter_append, hnone, List.nil_append, names_append,
    List.filter_append]

/-- If it does, its name is the only one that is added. -/
theorem filter_names_insert_perm {p : String → Bool} {name : String} (hname : n.text? = some name)
    (hne : name ≠ "") (hp : p name = true) :
    ((names (before ++ (n, v) :: after)).filter p).Perm
      (name :: (names (before ++ after)).filter p) := by
  have hone : (n.text?.filter (· ≠ "")).toList.filter p = [name] := by
    simp [hname, Option.filter, hne, hp]
  rw [names_insert, List.filter_append, List.filter_append, hone, names_append, List.filter_append]
  exact List.perm_middle

end

end EnvSettings.Environment
