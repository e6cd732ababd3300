/-
Sources with fallbacks behind fallbacks. However they are bracketed, they make one source
(`Chain.toSource_eq_of_sources_eq`): the first source in the row whose value for a name counts gives
the value, the last one answers where none does, and the names are those of all sources in the order
in which they first occur.

# Values

Whether a value counts can be asked of a source with a fallback as it is asked of any other, and
the answer is that of the first source in the row that has one (`Chain.present?_get`). Only a
value that does not count comes from the last source and no other: a source with a fallback never
hands on an empty value of its first source.

# Names

Names that were dropped once as repetitions would be dropped again by whoever takes the list up
later (`firstOccurrences_absorb`). So a source may stand for its names as they were before their
repetitions were dropped, at any place of a longer list.
-/
import EnvSettings.Proofs.Source.Listing

namespace EnvSettings.Source

attribute [ext] Source

-- ================================================================== values

/-- The source has no value for the name that counts. -/
def Lacks (source : Source) (name : String) : Prop :=
  ∀ value, source.get name = some value → value = ""

/-- No value counts exactly if the source lacks the name. -/
theorem present?_eq_none_iff {source : Source} {name : String} :
    present? (source.get name) = none ↔ source.Lacks name := by
  unfold present? Lacks
  rw [Option.filter_eq_none_iff]
  simp

/-- A value counts exactly if it is there and not empty. -/
theorem present?_eq_some_iff {value? : Option String} {value : String} :
    present? value? = some value ↔ value? = some value ∧ value ≠ "" := by
  unfold present?
  rw [Option.filter_eq_some_iff, decide_eq_true_eq]

/-- Of two values the first that counts is the one that counts. -/
theorem present?_or (first second : Option String) :
    present? ((present? first).or second) = (present? first).or (present? second) := by
  cases hfirst : present? first with
  | none => simp
  | some value =>
      rw [Option.some_or, Option.some_or, present?_eq_some_iff]
      exact ⟨rfl, (present?_eq_some_iff.mp hfirst).2⟩

/-- A fallback finds what the primary source has, else what the other one finds. -/
theorem get_orElse (primary fallback : Source) (name : String) :
    (primary.orElse fallback).get name
      = (present? (primary.get name)).or (fallback.get name) := by
  unfold orElse
  simp only
  cases present? (primary.get name) with
  | none => rw [Option.none_or]
  | some value => rw [Option.some_or]

-- =================================================================== names

/-- Dropping repetitions in front makes no difference to who drops more of them. -/
theorem firstOccurrences_front {seen seen' : List String} (hseen : ∀ name ∈ seen', name ∈ seen)
    (front back : List String) :
    firstOccurrences seen (firstOccurrences seen' front ++ back)
      = firstOccurrences seen (front ++ back) := by
  induction front generalizing seen seen' with
  | nil => rfl
  | cons name front ih =>
      rw [firstOccurrences, List.cons_append, firstOccurrences]
      by_cases hname' : name ∈ seen'
      · rw [if_pos hname', if_pos (hseen name hname'), ih hseen]
      · rw [if_neg hname', List.cons_append, firstOccurrences]
        by_cases hname : name ∈ seen
        · rw [if_pos hname, if_pos hname]
          exact ih (List.forall_mem_cons.mpr ⟨hname, hseen⟩)
        · rw [if_neg hname, if_neg hname]
          have hmore : ∀ other ∈ name :: seen', other ∈ name :: seen := fun other hother =>
            List.mem_cons.mpr ((List.mem_cons.mp hother).imp_right (hseen other))
          rw [ih hmore]

/-- Dropping repetitions anywhere in a list makes no difference either. -/
theorem firstOccurrences_absorb (seen front names back : List String) :
    firstOccurrences seen (front ++ (firstOccurrences [] names ++ back))
      = firstOccurrences seen (front ++ (names ++ back)) := by
  induction front generalizing seen with
  | nil => exact firstOccurrences_front (fun name hname => absurd hname List.not_mem_nil) _ _
  | cons name front ih =>
      simp only [List.cons_append, firstOccurrences, ih]

/-- Names that are new and distinct are all kept. -/
theorem firstOccurrences_of_nodup {seen names : List String} (hnew : ∀ name ∈ names, name ∉ seen)
    (hnames : names.Nodup) : firstOccurrences seen names = names := by
  induction names generalizing seen with
  | nil => rfl
  | cons name names ih =>
      obtain ⟨hname, hrest⟩ := List.nodup_cons.mp hnames
      have hnew' : ∀ other ∈ names, other ∉ name :: seen := by
        intro other hother hmem
        rcases List.mem_cons.mp hmem with rfl | hseen
        · exact hname hother
        · exact hnew other (List.mem_cons_of_mem _ hother) hseen
      rw [firstOccurrences, if_neg (hnew name List.mem_cons_self), ih hnew' hrest]

/-- First occurrences stand in the order of their places. -/
theorem pairwise_idxOf_firstOccurrences (seen names : List String) :
    (firstOccurrences seen names).Pairwise fun a b => names.idxOf a < names.idxOf b := by
  induction names generalizing seen with
  | nil => exact List.Pairwise.nil
  | cons name names ih =>
      -- the places of all names but the first move up by one
      have hshift : ∀ seen, name ∈ seen → (firstOccurrences seen names).Pairwise
          fun a b => (name :: names).idxOf a < (name :: names).idxOf b := by
        intro seen hname
        refine (ih seen).imp_of_mem fun {a b} ha hb hlt => ?_
        have ha : name ≠ a := fun h => (mem_firstOccurrences.mp ha).2 (h ▸ hname)
        have hb : name ≠ b := fun h => (mem_firstOccurrences.mp hb).2 (h ▸ hname)
        rw [List.idxOf_cons_ne names ha, List.idxOf_cons_ne names hb]
        exact Nat.succ_lt_succ hlt
      unfold firstOccurrences
      by_cases hname : name ∈ seen
      · rw [if_pos hname]
        exact hshift seen hname
      · rw [if_neg hname]
        refine List.pairwise_cons.mpr ⟨fun b hb => ?_, hshift _ List.mem_cons_self⟩
        have hb : name ≠ b := fun h => (mem_firstOccurrences.mp hb).2 (h ▸ List.mem_cons_self)
        rw [List.idxOf_cons_self, List.idxOf_cons_ne names hb]
        exact Nat.succ_pos _

-- ================================================================== chains

/-- Sources in a row, each the fallback of those before it, in whichever brackets. -/
inductive Chain
  | single (source : Source)
  | layered (primary fallback : Chain)

namespace Chain

/-- The sources of a chain, the first one to be asked first. -/
def sources : Chain → List Source
  | .single source => [source]
  | .layered primary fallback => primary.sources ++ fallback.sources

/-- The source to be asked when all others have been asked. -/
def last : Chain → Source
  | .single source => source
  | .layered _ fallback => fallback.last

/-- The source that a chain is. -/
def toSource : Chain → Source
  | .single source => source
  | .layered primary fallback => primary.toSource.orElse fallback.toSource

/-- What the sources list, repetitions included. -/
def names (chain : Chain) : List String := chain.sources.flatMap (·.list)

theorem names_single (source : Source) : (single source).names = source.list :=
  List.flatMap_singleton _ _

theorem names_layered (primary fallback : Chain) :
    (layered primary fallback).names = primary.names ++ fallback.names :=
  List.flatMap_append

/-- The last source of a chain is the last in its list. -/
theorem getLast?_sources (chain : Chain) : chain.sources.getLast? = some chain.last := by
  induction chain with
  | single source => rfl
  | layered primary fallback _ ih =>
      rw [sources, List.getLast?_append, ih, Option.some_or, last]

/-- The value of a chain that counts is that of the first source which has one. -/
theorem present?_get (chain : Chain) (name : String) :
    present? (chain.toSource.get name)
      = chain.sources.findSome? fun source => present? (source.get name) := by
  induction chain with
  | single source =>
      rw [toSource, sources, List.findSome?_singleton]
  | layered primary fallback ihPrimary ihFallback =>
      rw [toSource, get_orElse, present?_or, ihPrimary, ihFallback, sources,
        List.findSome?_append]

/-- Where no source has a value that counts, the last one answers. -/
theorem get_toSource (chain : Chain) (name : String) :
    chain.toSource.get name
      = (chain.sources.findSome? fun source => present? (source.get name)).or
          (chain.last.get name) := by
  induction chain with
  | single source =>
      rw [toSource, sources, last, List.findSome?_singleton]
      cases hvalue : present? (source.get name) with
      | none => rw [Option.none_or]
      | some value => rw [Option.some_or, (present?_eq_some_iff.mp hvalue).1]
  | layered primary fallback _ ihFallback =>
      rw [toSource, get_orElse, present?_get, ihFallback, ← Option.or_assoc, sources,
        List.findSome?_append, last]

/-- In any list of names a chain may stand for the names of its sources. -/
theorem firstOccurrences_list (chain : Chain) (seen front back : List String) :
    firstOccurrences seen (front ++ (chain.toSource.list ++ back))
      = firstOccurrences seen (front ++ (chain.names ++ back)) := by
  induction chain generalizing front back with
  | single source => rw [names_single, toSource]
  | layered primary fallback ihPrimary ihFallback =>
      rw [toSource, orElse, firstOccurrences_absorb, List.append_assoc, ihPrimary,
        ← List.append_assoc front, ihFallback, names_layered, List.append_assoc,
        List.append_assoc]

/-- A chain of more than one source lists the first occurrences of their names. -/
theorem list_layered (primary fallback : Chain) :
    (layered primary fallback).toSource.list
      = firstOccurrences [] (layered primary fallback).names := by
  have hprimary := primary.firstOccurrences_list [] [] fallback.toSource.list
  have hfallback := fallback.firstOccurrences_list [] primary.names []
  simp only [List.nil_append, List.append_nil] at hprimary hfallback
  rw [names_layered, ← hfallback, ← hprimary, toSource, orElse]

/-- So does a source that is alone, if it does not repeat itself. -/
theorem list_toSource {chain : Chain}
    (halone : ∀ source, chain = .single source → source.list.Nodup) :
    chain.toSource.list = firstOccurrences [] chain.names := by
  cases chain with
  | single source =>
      rw [names_single, toSource, firstOccurrences_of_nodup (by simp) (halone source rfl)]
  | layered primary fallback => exact list_layered primary fallback

/-- Brackets make no difference. -/
theorem toSource_eq_of_sources_eq {primary fallback primary' fallback' : Chain}
    (hsources : (layered primary fallback).sources = (layered primary' fallback').sources) :
    (layered primary fallback).toSource = (layered primary' fallback').toSource := by
  have hlast : (layered primary fallback).last = (layered primary' fallback').last := by
    apply Option.some.inj
    rw [← getLast?_sources, ← getLast?_sources, hsources]
  ext1
  · funext name
    rw [get_toSource, get_toSource, hsources, hlast]
  · rw [list_layered, list_layered, names, names, hsources]

end Chain

end EnvSettings.Source

namespace EnvSettings

open EnvSettings.Source

/-- Fallbacks merge sources. How three sources are bracketed makes no difference. In a row of
sources, bracketed in any way, the first one whose value for a name counts gives the value; where
none has such a value the last one answers. Each name that a source lists is listed once, in the
order in which the names first occur in the lists of the sources put together; only a source that is
alone is free to repeat itself. -/
theorem fallbacks_merge_sources :
    (∀ a b c : Source, (a.orElse b).orElse c = a.orElse (b.orElse c))
      ∧ ∀ chain : Chain,
        (∀ earlier source later name value, chain.sources = earlier ++ source :: later →
          (∀ other ∈ earlier, other.Lacks name) → source.get name = some value → value ≠ "" →
          chain.toSource.get name = some value)
        ∧ (∃ earlier last, chain.sources = earlier ++ [last]
          ∧ ∀ name, (∀ source ∈ chain.sources, source.Lacks name) →
            chain.toSource.get name = last.get name)
        ∧ ((∀ source, chain = .single source → source.list.Nodup) →
          chain.toSource.list.Nodup
          ∧ (∀ name, name ∈ chain.toSource.list ↔ ∃ source ∈ chain.sources, name ∈ source.list)
          ∧ chain.toSource.list.Pairwise fun a b =>
            (chain.sources.flatMap (·.list)).idxOf a < (chain.sources.flatMap (·.list)).idxOf b) := by
  refine ⟨fun a b c => ?_, fun chain => ⟨?_, ?_, fun halone => ?_⟩⟩
  · let left : Chain := .layered (.layered (.single a) (.single b)) (.single c)
    let right : Chain := .layered (.single a) (.layered (.single b) (.single c))
    show left.toSource = right.toSource
    exact Chain.toSource_eq_of_sources_eq rfl
  · intro earlier source later name value hsources hearlier hvalue hcounts
    have hfirst : earlier.findSome? (fun other => present? (other.get name)) = none :=
      List.findSome?_eq_none_iff.mpr fun other hother =>
        present?_eq_none_iff.mpr (hearlier other hother)
    have hcount : present? (source.get name) = some value :=
      present?_eq_some_iff.mpr ⟨hvalue, hcounts⟩
    rw [chain.get_toSource, hsources, List.findSome?_append, hfirst, Option.none_or,
      List.findSome?_cons, hcount]
    rfl
  · obtain ⟨earlier, hearlier⟩ := List.getLast?_eq_some_iff.mp chain.getLast?_sources
    refine ⟨earlier, chain.last, hearlier, fun name hlacks => ?_⟩
    have hnone : chain.sources.findSome? (fun source => present? (source.get name)) = none :=
      List.findSome?_eq_none_iff.mpr fun source hsource =>
        present?_eq_none_iff.mpr (hlacks source hsource)
    rw [chain.get_toSource, hnone, Option.none_or]
  · rw [Chain.list_toSource halone]
    refine ⟨nodup_firstOccurrences _ _, fun name => ?_, pairwise_idxOf_firstOccurrences _ _⟩
    rw [mem_firstOccurrences, and_iff_left List.not_mem_nil]
    exact List.mem_flatMap

/-- The second source has a value where that of the first is empty. Where the third is asked in vain
the empty value of the first is not handed on. The second repeats a name of the first and itself. -/
theorem fallbacks_merge_sources_three :
    let first := ofBindings [("A", ""), ("B", "")]
    let second : Source := ⟨fun name => if name = "A" then some "a" else none, ["C", "A", "C"]⟩
    let third := ofBindings [("A", "z")]
    let chain : Chain := .layered (.single first) (.layered (.single second) (.single third))
    chain.toSource.get "A" = some "a" ∧ first.get "B" = some "" ∧ chain.toSource.get "B" = none
      ∧ chain.toSource.list = ["A", "B", "C"] ∧ chain.toSource.list.Nodup := by
  intro first second third chain
  have hlacks : ∀ (source : Source) (name : String), present? (source.get name) = none →
      source.Lacks name := fun _ _ => present?_eq_none_iff.mp
  obtain ⟨hfirst, ⟨earlier, last, hsources, hnowhere⟩, hlist⟩ := fallbacks_merge_sources.2 chain
  have hlast : last = third := by
    have hthree : [first, second] ++ [third] = earlier ++ [last] := hsources
    exact (List.singleton_inj.mp (List.append_inj' hthree rfl).2).symm
  refine ⟨?_, by decide, ?_, by decide, (hlist fun source h => nomatch h).1⟩
  · refine hfirst [first] second [third] "A" "a" rfl ?_ (by decide) (by decide)
    exact List.forall_mem_singleton.mpr (hlacks first "A" (by decide))
  · have hall : ∀ source ∈ [first, second, third], source.Lacks "B" := by
      simp only [List.forall_mem_cons]
      exact ⟨hlacks first "B" (by decide), hlacks second "B" (by decide),
        hlacks third "B" (by decide), by simp⟩
    rw [hnowhere "B" hall, hlast]
    decide

end EnvSettings
