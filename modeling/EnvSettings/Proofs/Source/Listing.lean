/-
Sources list what they have. A name for which a source has a value that counts is among the names
that it lists, and it lists no name twice, however the source is put together
(`Origin.mem_list_of_get`, `Origin.nodup_list`).

What each source lists and what it finds are said apart, so this is proved for each kind of source
on its own. Bindings and files list the names they bind. A fallback lists the names of both its
sources, each where it comes first, and every value it finds comes from one of them. Only the
environment of a process needs care: a name with an equals sign may reach into the value of
another variable, and is then found but not listed. Without such a name what is found is the
variable of that very name.
-/
import EnvSettings.Source.Origin
import EnvSettings.Proofs.Source.Environment
import EnvSettings.Proofs.Source.Tracked

namespace EnvSettings

open EnvSettings.Source

-- ================================================================== kinds

namespace Source

/-- Bindings have a value for the names that they bind. -/
theorem Bindings.value?_eq_none_iff {bindings : Bindings} {name : String} :
    bindings.value? name = none ↔ name ∉ bindings.map Prod.fst := by
  unfold Bindings.value?
  rw [Option.map_eq_none_iff, List.getLast?_eq_none_iff, List.filter_eq_nil_iff]
  simp only [decide_eq_true_eq, List.mem_map, not_exists, not_and]

/-- Bindings bind every name that they have a value for. -/
theorem Bindings.mem_of_value? {bindings : Bindings} {name value : String}
    (hvalue : bindings.value? name = some value) : name ∈ bindings.map Prod.fst := by
  by_contra hname
  rw [Bindings.value?_eq_none_iff.mpr hname] at hvalue
  cases hvalue

/-- Of bindings behind others those behind count first. -/
theorem Bindings.value?_append (front back : Bindings) (name : String) :
    Bindings.value? (front ++ back) name
      = (Bindings.value? back name).or (Bindings.value? front name) := by
  unfold Bindings.value?
  rw [List.filter_append, List.getLast?_append, Option.map_or]

/-- Where names are distinct, the value of a name is the one that it is bound to. -/
theorem Bindings.value?_eq_some_iff_mem {bindings : Bindings}
    (hnames : (bindings.map Prod.fst).Nodup) {name value : String} :
    bindings.value? name = some value ↔ (name, value) ∈ bindings := by
  induction bindings with
  | nil => simp [Bindings.value?]
  | cons binding bindings ih =>
      obtain ⟨hnew, hnames⟩ := List.nodup_cons.mp hnames
      have hcons : Bindings.value? (binding :: bindings) name
          = (Bindings.value? bindings name).or (Bindings.value? [binding] name) :=
        Bindings.value?_append [binding] bindings name
      have hone : Bindings.value? [binding] name = some value ↔ (name, value) = binding := by
        by_cases hname : binding.1 = name
        · simp [Bindings.value?, hname, Prod.ext_iff, eq_comm]
        · simp [Bindings.value?, hname, Prod.ext_iff, Ne.symm hname]
      rw [hcons, Option.or_eq_some_iff, ih hnames, hone, List.mem_cons, or_comm]
      apply or_congr_left
      apply and_iff_right_of_imp
      intro hbinding
      rw [← hbinding] at hnew
      exact Bindings.value?_eq_none_iff.mpr hnew

/-- The order of bindings with distinct names does not count. -/
theorem ofBindings_of_perm {bindings order : Bindings} (hnames : (bindings.map Prod.fst).Nodup)
    (horder : order.Perm bindings) : ofBindings order = ofBindings bindings := by
  have horderNames : (order.map Prod.fst).Nodup := (horder.map Prod.fst).nodup_iff.mpr hnames
  have hget : order.value? = bindings.value? := by
    funext name
    ext value
    rw [Bindings.value?_eq_some_iff_mem horderNames, Bindings.value?_eq_some_iff_mem hnames]
    exact horder.mem_iff
  have hlist : ascending (order.map Prod.fst) = ascending (bindings.map Prod.fst) := by
    apply eq_of_pairwise_lt (pairwise_ascending _) (pairwise_ascending _)
    intro name
    rw [mem_ascending, mem_ascending]
    exact (horder.map Prod.fst).mem_iff
  unfold ofBindings
  rw [hget, hlist]

/-- A name occurs first in a list exactly if it occurs there and was not seen before. -/
theorem mem_firstOccurrences {name : String} {seen names : List String} :
    name ∈ firstOccurrences seen names ↔ name ∈ names ∧ name ∉ seen := by
  induction names generalizing seen with
  | nil => simp [firstOccurrences]
  | cons other rest ih =>
      unfold firstOccurrences
      by_cases hseen : other ∈ seen
      · rw [if_pos hseen, ih, List.mem_cons]
        constructor
        · rintro ⟨hrest, hname⟩
          exact ⟨Or.inr hrest, hname⟩
        · rintro ⟨rfl | hrest, hname⟩
          · exact absurd hseen hname
          · exact ⟨hrest, hname⟩
      · rw [if_neg hseen, List.mem_cons, List.mem_cons, ih, List.mem_cons, not_or]
        by_cases heq : name = other
        · simp [heq, hseen]
        · simp [heq]

/-- No name occurs first twice. -/
theorem nodup_firstOccurrences (seen names : List String) :
    (firstOccurrences seen names).Nodup := by
  induction names generalizing seen with
  | nil => exact List.nodup_nil
  | cons name rest ih =>
      unfold firstOccurrences
      by_cases hseen : name ∈ seen
      · rw [if_pos hseen]
        exact ih seen
      · rw [if_neg hseen]
        refine List.nodup_cons.mpr ⟨fun hmem => ?_, ih _⟩
        exact (mem_firstOccurrences.mp hmem).2 List.mem_cons_self

/-- A fallback lists the names of both sources. -/
theorem mem_list_orElse {primary fallback : Source} {name : String} :
    name ∈ (primary.orElse fallback).list ↔ name ∈ primary.list ∨ name ∈ fallback.list := by
  unfold orElse
  rw [mem_firstOccurrences, List.mem_append]
  exact and_iff_left List.not_mem_nil

/-- What a fallback finds was found by one of the two sources. -/
theorem get_orElse_eq_some {primary fallback : Source} {name value : String}
    (hvalue : (primary.orElse fallback).get name = some value) :
    primary.get name = some value ∨ fallback.get name = some value := by
  unfold orElse at hvalue
  simp only at hvalue
  cases hpresent : present? (primary.get name) with
  | some found =>
      rw [hpresent] at hvalue
      rw [← Option.some.inj hvalue]
      exact Or.inl (Option.filter_eq_some_iff.mp hpresent).1
  | none =>
      rw [hpresent] at hvalue
      exact Or.inr hvalue

end Source

-- ============================================================ all sources

namespace Source

section

variable {path : String} {bytes : Bytes}

/-- A file that is there is the source of its bindings. -/
theorem EnvFile.toSource_eq_ok_iff {source : Source} :
    EnvFile.toSource path (.ok bytes) = .ok source
      ↔ ∃ bindings, EnvFile.read path bytes = .ok bindings ∧ source = ofBindings bindings := by
  show (EnvFile.read path bytes).map ofBindings = .ok source ↔ _
  cases EnvFile.read path bytes with
  | error e => simp [Except.map]
  | ok bindings => simp [Except.map, eq_comm]

/-- A file that is there fails to be a source exactly if it cannot be read. -/
theorem EnvFile.toSource_eq_error_iff {e : SourceError} :
    EnvFile.toSource path (.ok bytes) = .error e ↔ EnvFile.read path bytes = .error e := by
  show (EnvFile.read path bytes).map ofBindings = .error e ↔ _
  cases EnvFile.read path bytes with
  | error e' => simp [Except.map]
  | ok bindings => simp [Except.map]

end

/-- A file that can be read is a source of bindings. -/
theorem EnvFile.exists_bindings {path : String} {contents : Except FileFault Bytes}
    {source : Source} (hsource : EnvFile.toSource path contents = .ok source) :
    ∃ bindings, source = ofBindings bindings := by
  cases contents with
  | error fault => cases hsource
  | ok bytes =>
      obtain ⟨bindings, -, hbindings⟩ := EnvFile.toSource_eq_ok_iff.mp hsource
      exact ⟨bindings, hbindings⟩

/-- The environments of processes that go into a source. -/
def Origin.environments : Origin → List Environment
  | .memory _ => []
  | .file _ _ => []
  | .process env => [env]
  | .layered primary fallback => primary.environments ++ fallback.environments
  | .tracked inner => inner.environments

/-- What a source with a fallback is made of. -/
theorem Origin.toSource_layered {primary fallback : Origin} {source : Source}
    (hsource : (Origin.layered primary fallback).toSource = .ok source) :
    ∃ first second, primary.toSource = .ok first ∧ fallback.toSource = .ok second
      ∧ source = first.orElse second := by
  unfold toSource at hsource
  cases hfirst : primary.toSource with
  | error e =>
      rw [hfirst] at hsource
      cases hsource
  | ok first =>
      rw [hfirst] at hsource
      cases hsecond : fallback.toSource with
      | error e =>
          rw [hsecond] at hsource
          cases hsource
      | ok second =>
          rw [hsecond] at hsource
          cases hsource
          exact ⟨first, second, rfl, rfl, rfl⟩

/-- No source lists a name twice, if every process in it has variables of distinct names. -/
theorem Origin.nodup_list {o : Origin} {source : Source} (hsource : o.toSource = .ok source)
    (hnames : ∀ env ∈ o.environments, (env.map Prod.fst).Nodup) : source.list.Nodup := by
  induction o generalizing source with
  | memory bindings =>
      cases hsource
      exact nodup_of_pairwise_lt (pairwise_ascending _)
  | file path contents =>
      obtain ⟨bindings, rfl⟩ := EnvFile.exists_bindings hsource
      exact nodup_of_pairwise_lt (pairwise_ascending _)
  | process env =>
      cases hsource
      exact Environment.nodup_names (hnames env (List.mem_singleton_self env))
  | layered primary fallback _ _ =>
      obtain ⟨first, second, -, -, rfl⟩ := Origin.toSource_layered hsource
      exact nodup_firstOccurrences _ _
  | tracked inner ih => exact ih hsource hnames

/-- A source lists every name for which it has a value, if no process in it has a variable of an
empty name, and if the name has no equals sign or there is no process in it at all. -/
theorem Origin.mem_list_of_get {o : Origin} {source : Source} (hsource : o.toSource = .ok source)
    (hempty : ∀ env ∈ o.environments, [] ∉ env.map Prod.fst) {name value : String}
    (hname : o.environments ≠ [] → '=' ∉ name.toList) (hvalue : source.get name = some value) :
    name ∈ source.list := by
  induction o generalizing source with
  | memory bindings =>
      cases hsource
      exact mem_ascending.mpr (Bindings.mem_of_value? hvalue)
  | file path contents =>
      obtain ⟨bindings, rfl⟩ := EnvFile.exists_bindings hsource
      exact mem_ascending.mpr (Bindings.mem_of_value? hvalue)
  | process env =>
      cases hsource
      refine Environment.mem_names_of_value? (hempty env ?_) (hname ?_) hvalue
      · exact List.mem_singleton_self env
      · exact List.cons_ne_nil _ _
  | layered primary fallback ihPrimary ihFallback =>
      obtain ⟨first, second, hfirst, hsecond, rfl⟩ := Origin.toSource_layered hsource
      refine mem_list_orElse.mpr ?_
      rcases get_orElse_eq_some hvalue with hvalue | hvalue
      · refine Or.inl (ihPrimary hfirst (fun env henv => ?_) (fun hsome => ?_) hvalue)
        · exact hempty env (List.mem_append_left _ henv)
        · exact hname (List.append_ne_nil_of_left_ne_nil hsome _)
      · refine Or.inr (ihFallback hsecond (fun env henv => ?_) (fun hsome => ?_) hvalue)
        · exact hempty env (List.mem_append_right _ henv)
        · exact hname (List.append_ne_nil_of_right_ne_nil _ hsome)
  | tracked inner ih => exact ih hsource hempty hname hvalue

end Source

end EnvSettings
