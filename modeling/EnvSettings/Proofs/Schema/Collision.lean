/-
When two leaves read the same variable. A variable is made of the names from the root to its leaf,
joined by underscores, and a path of the same names joined by points. Where all names are in snake
case, making a variable of a path is no more than to write the points as underscores and all
letters in upper case (`Leaf.key_eq_map_path`), and the upper case loses nothing.

So all that can be mistaken is a point for an underscore: the leaf `pool_size` and the leaf `size`
of a group `pool` have one variable, and two leaves of one group never have.
-/
import EnvSettings.Proofs.Naming.SnakeCase
import EnvSettings.Proofs.Schema.Walk
import EnvSettings.Sample.Plain

namespace EnvSettings

open EnvSettings.Naming

variable {A : Type} {s : Schema A}

-- ================================================================== paths

/-- The names from the root to the leaf. -/
def Schema.Leaf.names (l : s.Leaf) : List String := l.groups ++ [l.form.name]

/-- The names from the root to the leaf, joined by points. -/
def Schema.Leaf.path (l : s.Leaf) : String := ".".intercalate l.names

/-- A point as an underscore, and every other character as it is. -/
def underscored (c : Char) : Char := if c = '.' then '_' else c

/-- Writing points as underscores joins names by underscores that were joined by points. -/
theorem map_underscored_intercalate {names : List String}
    (hnames : ∀ name ∈ names, IsSnakeCase name) :
    (".".intercalate names).map underscored = "_".intercalate names := by
  have hkeep : ∀ name ∈ names, name.map underscored = name := by
    intro name hname
    refine String.toList_injective ?_
    rw [String.toList_map]
    refine (List.map_congr_left fun c hc => ?_).trans (List.map_id _)
    refine if_neg ?_
    rintro rfl
    rcases (hnames name hname).mem hc with h | h
    · cases h
    · cases h
  have happend : ∀ a b : String,
      (a ++ "." ++ b).map underscored = a.map underscored ++ "_" ++ b.map underscored := by
    intro a b
    refine String.toList_injective ?_
    simp only [String.toList_map, String.toList_append, List.map_append]
    rfl
  induction names with
  | nil =>
      refine String.toList_injective ?_
      rw [String.intercalate_nil, String.intercalate_nil, String.toList_map]
      rfl
  | cons name names ih =>
      have hname := hkeep name List.mem_cons_self
      cases names with
      | nil => rw [String.intercalate_singleton, String.intercalate_singleton, hname]
      | cons next names =>
          rw [String.intercalate_cons_cons, String.intercalate_cons_cons, happend, hname,
            ih (fun n hn => hnames n (List.mem_cons_of_mem _ hn))
              fun n hn => hkeep n (List.mem_cons_of_mem _ hn)]

/-- Group by group, a variable is its path in upper case. -/
theorem join_screamingSnake {groups : List String} {name : String}
    (hgroups : ∀ group ∈ groups, IsSnakeCase group) (hname : IsSnakeCase name) :
    String.join (groups.map fun group => screamingSnake group ++ "_") ++ screamingSnake name
      = ("_".intercalate (groups ++ [name])).map Char.toUpper := by
  induction groups with
  | nil =>
      rw [List.nil_append, String.intercalate_singleton, screamingSnake_of_isSnakeCase hname,
        List.map_nil, String.join_nil, String.empty_append]
  | cons group groups ih =>
      have hgroup := screamingSnake_of_isSnakeCase (hgroups group List.mem_cons_self)
      have hrest := ih fun g hg => hgroups g (List.mem_cons_of_mem _ hg)
      rw [List.map_cons, String.join_cons, String.append_assoc, hrest, hgroup, List.cons_append,
        String.intercalate_cons_of_ne_nil (by simp)]
      refine String.toList_injective ?_
      simp only [String.toList_map, String.toList_append, List.map_append]
      rfl

-- =============================================================== variables

/-- The names from the root to a leaf are names of fields. -/
theorem Schema.Leaf.exists_field_of_mem_names {l : s.Leaf} {name : String}
    (hname : name ∈ l.names) : ∃ f ∈ s.fields [], f.name = name := by
  have hfield := l.mem_fields []
  rcases List.mem_append.mp hname with hgroup | hown
  · rcases Schema.name_of_mem_above hfield hgroup with habove | hgroup
    · cases habove
    · exact hgroup
  · exact ⟨_, hfield, (List.mem_singleton.mp hown).symm⟩

section

variable (hnames : ∀ f ∈ s.fields [], IsSnakeCase f.name)

include hnames

/-- In a schema of names in snake case the names down to a leaf are in snake case. -/
theorem Schema.Leaf.isSnakeCase_of_mem_names (l : s.Leaf) :
    ∀ name ∈ l.names, IsSnakeCase name := by
  intro name hname
  obtain ⟨f, hf, rfl⟩ := Leaf.exists_field_of_mem_names hname
  exact hnames f hf

/-- A variable is the stem with the path behind it, its points as underscores and in upper
case. -/
theorem Schema.Leaf.key_eq_map_path (l : s.Leaf) (stem : String) :
    l.key stem = stem ++ (l.path.map underscored).map Char.toUpper := by
  have hsnake := l.isSnakeCase_of_mem_names hnames
  have hgroups : ∀ group ∈ l.groups, IsSnakeCase group := fun group hgroup =>
    hsnake group (List.mem_append_left _ hgroup)
  have hown : IsSnakeCase l.form.name := hsnake _ (List.mem_append_right _ List.mem_cons_self)
  unfold key path
  rw [map_underscored_intercalate hsnake, String.append_assoc, join_screamingSnake hgroups hown]
  rfl

/-- What a path becomes with underscores consists of small characters and underscores. -/
theorem Schema.Leaf.mem_map_path (l : s.Leaf) {c : Char}
    (hc : c ∈ (l.path.map underscored).toList) : isSmall c = true ∨ c = '_' := by
  have hsnake := l.isSnakeCase_of_mem_names hnames
  rw [path, map_underscored_intercalate hsnake, String.toList_intercalate] at hc
  rcases mem_of_mem_intercalate hc with hunderscore | ⟨part, hpart, hmem⟩
  · exact Or.inr (List.mem_singleton.mp hunderscore)
  · obtain ⟨name, hname, rfl⟩ := List.mem_map.mp hpart
    exact (hsnake name hname).mem hmem

/-- Leaves have the same variable exactly if their paths are the same up to points and
underscores. -/
theorem Schema.Leaf.key_eq_iff (l m : s.Leaf) (stem : String) :
    l.key stem = m.key stem ↔ l.path.map underscored = m.path.map underscored := by
  rw [l.key_eq_map_path hnames, m.key_eq_map_path hnames, String.append_right_inj]
  constructor
  · intro hupper
    refine String.toList_injective (map_toUpper_injOn (fun c hc => l.mem_map_path hnames hc)
      (fun c hc => m.mem_map_path hnames hc) ?_)
    rw [← String.toList_map, ← String.toList_map, hupper]
  · exact congrArg (String.map Char.toUpper)

/-- Leaves with the same groups around them have different variables if they have different
names. -/
theorem Schema.Leaf.key_ne_of_name_ne {l m : s.Leaf} (hgroups : l.groups = m.groups)
    (hne : l.form.name ≠ m.form.name) (stem : String) : l.key stem ≠ m.key stem := by
  have hown : ∀ k : s.Leaf, IsSnakeCase k.form.name := fun k =>
    k.isSnakeCase_of_mem_names hnames _ (List.mem_append_right _ List.mem_cons_self)
  intro hkey
  unfold key at hkey
  rw [hgroups, String.append_right_inj] at hkey
  exact hne (screamingSnake_injOn (hown l) (hown m) hkey)

end

/-- Which leaves share a variable. Let all names of a schema be in snake case. Then two leaves have
the same variable, whatever the stem, exactly if their paths are the same once every point in them
is an underscore; so leaves of different names in the same groups have different variables. And
these are the variables of a walk: it finds the leaves in their order, each with its own. -/
theorem leaves_share_variable_iff [AppTypes A] [DecidableEq A] (s : Schema A)
    (hnames : ∀ f ∈ s.fields [], IsSnakeCase f.name) (stem : String) :
    (∀ l m : s.Leaf, l.key stem = m.key stem
        ↔ l.path.map underscored = m.path.map underscored)
      ∧ (∀ l m : s.Leaf, l.groups = m.groups → l.form.name ≠ m.form.name →
        l.key stem ≠ m.key stem)
      ∧ ∀ registry slots, s.slots? stem registry = .ok slots →
        slots.map Slot.key = s.leaves.map (Schema.Leaf.key stem) := by
  refine ⟨fun l m => Schema.Leaf.key_eq_iff hnames l m stem,
    fun l m hgroups hne => Schema.Leaf.key_ne_of_name_ne hnames hgroups hne stem,
    fun registry slots hwalk => ?_⟩
  obtain ⟨-, rfl⟩ := Schema.slots?_eq_ok_iff.mp hwalk
  rw [List.map_map]
  rfl

/-- A leaf beside a group and a leaf in it, with one variable for both. -/
theorem leaves_share_variable_pool :
    let s : Schema Empty :=
      .value "pool_size2" (.scalar .string) false .plain <|
      .group "pool" .plain (.value "size2" (.scalar .string) false .plain .done) .done
    let beside : s.Leaf := .here
    let inside : s.Leaf := .pastValue (.inGroup .here)
    (∀ f ∈ s.fields [], IsSnakeCase f.name) ∧ beside.path = "pool_size2"
      ∧ inside.path = "pool.size2" ∧ beside.key "APP_" = inside.key "APP_" := by
  intro s beside inside
  have hpool : IsRun "pool".toList := isRun_of_all (by decide) (by decide)
  have hsize : IsRun "size2".toList := isRun_of_all (by decide) (by decide)
  have hboth : IsSnakeCase "pool_size2" :=
    ⟨⟨["pool".toList, "size2".toList],
      List.forall_mem_cons.mpr ⟨hpool, List.forall_mem_singleton.mpr hsize⟩, rfl⟩, 'p', rfl, rfl⟩
  have hgroup : IsSnakeCase "pool" :=
    ⟨⟨["pool".toList], List.forall_mem_singleton.mpr hpool, rfl⟩, 'p', rfl, rfl⟩
  have hleaf : IsSnakeCase "size2" :=
    ⟨⟨["size2".toList], List.forall_mem_singleton.mpr hsize, rfl⟩, 's', rfl, rfl⟩
  have hnames : ∀ f ∈ s.fields [], IsSnakeCase f.name := by
    simp only [s, Schema.fields, List.nil_append, List.append_nil, List.mem_cons,
      List.not_mem_nil, or_false, forall_eq_or_imp, forall_eq]
    exact ⟨hboth, hgroup, hleaf⟩
  have hbeside : beside.path = "pool_size2" := by decide
  have hinside : inside.path = "pool.size2" := by decide
  refine ⟨hnames, hbeside, hinside, ?_⟩
  refine ((leaves_share_variable_iff s hnames "APP_").1 beside inside).mpr ?_
  refine String.toList_injective ?_
  rw [hbeside, hinside, String.toList_map, String.toList_map]
  decide

end EnvSettings
