/-
The leaves of a schema: the values that are read from a variable each, as places in the tree.

A leaf is named by the way that leads to it, so it is known of a leaf, without any walk, what
its variable is called, what its policy is and where in a configuration its value stands. The
walker finds all of this out while it extends and restores the text that variables start with;
here it is said once for each leaf, and `Proofs/Schema/Walk.lean` proves that the walk finds
the same.

# Places

- Reading and writing a leaf obey the laws of a place: what was written is read
  (`read_write`), writing back what was read changes nothing (`write_read`), and a write leaves
  every other leaf (`read_write_of_ne`) and every skipped field (`Skipped.read_write`) alone.
- A configuration has nothing beside its leaves and skipped fields (`Config.ext`), so to say
  what both hold is to say what the configuration is.
- `leaves` lists every leaf (`mem_leaves`) once (`leaves_nodup`), in the order of the fields and
  depth first.
-/
import EnvSettings.Naming
import EnvSettings.Registry
import EnvSettings.Schema.Basic
import Mathlib.Data.List.Nodup

namespace EnvSettings

open EnvSettings.Naming

variable {A : Type}

namespace Schema

-- ================================================================ leaves

/-- A value of a schema, by the way that leads to it. -/
inductive Leaf : Schema A → Type
  /-- The value that the schema starts with. -/
  | here {name : String} {type : TypeCode A} {byConverter : Bool} {rule : FieldRule}
      {rest : Schema A} : Leaf (.value name type byConverter rule rest)
  | pastValue {name : String} {type : TypeCode A} {byConverter : Bool} {rule : FieldRule}
      {rest : Schema A} (l : Leaf rest) : Leaf (.value name type byConverter rule rest)
  | inGroup {name : String} {rule : FieldRule} {inner rest : Schema A} (l : Leaf inner) :
      Leaf (.group name rule inner rest)
  | pastGroup {name : String} {rule : FieldRule} {inner rest : Schema A} (l : Leaf rest) :
      Leaf (.group name rule inner rest)
  | pastPointer {name typeName : String} {rest : Schema A} (l : Leaf rest) :
      Leaf (.pointer name typeName rest)
  | pastSkip {name : String} {type : TypeCode A} {rest : Schema A} (l : Leaf rest) :
      Leaf (.skip name type rest)

/-- The leaves of a schema in the order of the fields, depth first. -/
def leaves : (s : Schema A) → List s.Leaf
  | .done => []
  | .value _ _ _ _ rest => .here :: rest.leaves.map .pastValue
  | .group _ _ inner rest => inner.leaves.map .inGroup ++ rest.leaves.map .pastGroup
  | .pointer _ _ rest => rest.leaves.map .pastPointer
  | .skip _ _ rest => rest.leaves.map .pastSkip

/-- What a schema says of a leaf itself. -/
structure LeafForm (A : Type) where
  name : String
  type : TypeCode A
  /-- Only a registered converter may read the leaf. -/
  byConverter : Bool
  rule : FieldRule

namespace Leaf

variable {s : Schema A}

/-- What the schema says of the leaf. -/
def form : {s : Schema A} → s.Leaf → LeafForm A
  | .value name type byConverter rule _, .here => ⟨name, type, byConverter, rule⟩
  | _, .pastValue l => l.form
  | _, .inGroup l => l.form
  | _, .pastGroup l => l.form
  | _, .pastPointer l => l.form
  | _, .pastSkip l => l.form

/-- The names of the groups around the leaf, the outermost first. -/
def groups : {s : Schema A} → s.Leaf → List String
  | _, .here => []
  | _, .pastValue l => l.groups
  | .group name _ _ _, .inGroup l => name :: l.groups
  | _, .pastGroup l => l.groups
  | _, .pastPointer l => l.groups
  | _, .pastSkip l => l.groups

/-- The type of the leaf's value. -/
def type (l : s.Leaf) : TypeCode A := l.form.type

/-- The policy of the leaf. -/
def rule (l : s.Leaf) : FieldRule := l.form.rule

/-- The leaf's variable: the stem, the name of every group around the leaf with an underscore
behind it, and the leaf's own name, all names in upper-case words. -/
def key (stem : String) (l : s.Leaf) : String :=
  stem ++ String.join (l.groups.map fun group => screamingSnake group ++ "_")
    ++ screamingSnake l.form.name

/-- A group extends the stem of its leaves by its name and an underscore. -/
theorem key_inGroup {name : String} {rule : FieldRule} {inner rest : Schema A} (stem : String)
    (l : inner.Leaf) :
    (inGroup l : (Schema.group name rule inner rest).Leaf).key stem
      = l.key (stem ++ screamingSnake name ++ "_") := by
  simp only [key, groups, form, List.map_cons, String.join_cons, String.append_assoc]

end Leaf

/-- The list of leaves has every leaf. -/
theorem mem_leaves {s : Schema A} (l : s.Leaf) : l ∈ s.leaves := by
  induction l with
  | here => exact List.mem_cons_self
  | pastValue l ih => exact List.mem_cons_of_mem _ (List.mem_map_of_mem ih)
  | inGroup l ih => exact List.mem_append_left _ (List.mem_map_of_mem ih)
  | pastGroup l ih => exact List.mem_append_right _ (List.mem_map_of_mem ih)
  | pastPointer l ih => exact List.mem_map_of_mem ih
  | pastSkip l ih => exact List.mem_map_of_mem ih

/-- No leaf is listed twice: the constructors of a way are injective, and the ways into a group
and past it are apart. -/
theorem leaves_nodup (s : Schema A) : s.leaves.Nodup := by
  induction s with
  | done => exact List.nodup_nil
  | value name type byConverter rule rest ih =>
      refine List.nodup_cons.mpr ⟨?_, ih.map fun l m h => by injection h⟩
      rw [List.mem_map]
      rintro ⟨l, -, h⟩
      cases h
  | group name rule inner rest ihInner ihRest =>
      refine List.Nodup.append (ihInner.map fun l m h => by injection h)
        (ihRest.map fun l m h => by injection h) ?_
      intro l hin hpast
      obtain ⟨m, -, rfl⟩ := List.mem_map.mp hin
      obtain ⟨n, -, h⟩ := List.mem_map.mp hpast
      cases h
  | pointer name typeName rest ih => exact ih.map fun l m h => by injection h
  | skip name type rest ih => exact ih.map fun l m h => by injection h

-- ======================================================== skipped fields

/-- A skipped field of a schema, by the way that leads to it. -/
inductive Skipped : Schema A → Type
  /-- The skipped field that the schema starts with. -/
  | here {name : String} {type : TypeCode A} {rest : Schema A} : Skipped (.skip name type rest)
  | pastSkip {name : String} {type : TypeCode A} {rest : Schema A} (k : Skipped rest) :
      Skipped (.skip name type rest)
  | pastValue {name : String} {type : TypeCode A} {byConverter : Bool} {rule : FieldRule}
      {rest : Schema A} (k : Skipped rest) : Skipped (.value name type byConverter rule rest)
  | inGroup {name : String} {rule : FieldRule} {inner rest : Schema A} (k : Skipped inner) :
      Skipped (.group name rule inner rest)
  | pastGroup {name : String} {rule : FieldRule} {inner rest : Schema A} (k : Skipped rest) :
      Skipped (.group name rule inner rest)
  | pastPointer {name typeName : String} {rest : Schema A} (k : Skipped rest) :
      Skipped (.pointer name typeName rest)

/-- The type of the skipped field's value. -/
def Skipped.type : {s : Schema A} → s.Skipped → TypeCode A
  | .skip _ type _, .here => type
  | _, .pastSkip k => k.type
  | _, .pastValue k => k.type
  | _, .inGroup k => k.type
  | _, .pastGroup k => k.type
  | _, .pastPointer k => k.type

-- ==================================================== reading and writing

variable [AppTypes A]

/-- The value that a configuration holds at the leaf. -/
def Leaf.read : {s : Schema A} → (l : s.Leaf) → s.Config → l.type.Value
  | _, .here, c => c.1
  | _, .pastValue l, c => l.read c.2
  | _, .inGroup l, c => l.read c.1
  | _, .pastGroup l, c => l.read c.2
  | _, .pastPointer l, c => l.read c
  | _, .pastSkip l, c => l.read c.2

/-- Puts a value into a configuration at the leaf. -/
def Leaf.write : {s : Schema A} → (l : s.Leaf) → l.type.Value → s.Config → s.Config
  | _, .here, v, c => (v, c.2)
  | _, .pastValue l, v, c => (c.1, l.write v c.2)
  | _, .inGroup l, v, c => (l.write v c.1, c.2)
  | _, .pastGroup l, v, c => (c.1, l.write v c.2)
  | .pointer _ _ _, .pastPointer l, v, c => l.write v c
  | _, .pastSkip l, v, c => (c.1, l.write v c.2)

/-- What a configuration holds for the skipped field. -/
def Skipped.read : {s : Schema A} → (k : s.Skipped) → s.Config → k.type.Value
  | _, .here, c => c.1
  | _, .pastSkip k, c => k.read c.2
  | _, .pastValue k, c => k.read c.2
  | _, .inGroup k, c => k.read c.1
  | _, .pastGroup k, c => k.read c.2
  | _, .pastPointer k, c => k.read c

namespace Leaf

variable {s : Schema A}

/-- A leaf holds what was written to it. -/
theorem read_write (l : s.Leaf) (v : l.type.Value) (c : s.Config) :
    l.read (l.write v c) = v := by
  induction l with
  | here => rfl
  | pastValue l ih => exact ih v c.2
  | inGroup l ih => exact ih v c.1
  | pastGroup l ih => exact ih v c.2
  | pastPointer l ih => exact ih v c
  | pastSkip l ih => exact ih v c.2

/-- Writing to a leaf what it holds changes nothing. -/
theorem write_read (l : s.Leaf) (c : s.Config) : l.write (l.read c) c = c := by
  induction l with
  | here => rfl
  | pastValue l ih => exact congrArg (c.1, ·) (ih c.2)
  | inGroup l ih => exact congrArg (·, c.2) (ih c.1)
  | pastGroup l ih => exact congrArg (c.1, ·) (ih c.2)
  | pastPointer l ih => exact ih c
  | pastSkip l ih => exact congrArg (c.1, ·) (ih c.2)

/-- A write leaves every other leaf alone. -/
theorem read_write_of_ne {l m : s.Leaf} (hne : m ≠ l) (v : l.type.Value) (c : s.Config) :
    m.read (l.write v c) = m.read c := by
  induction l with
  | here =>
      cases m with
      | here => exact absurd rfl hne
      | pastValue m => rfl
  | pastValue l ih =>
      cases m with
      | here => rfl
      | pastValue m => exact ih (fun h => hne (congrArg pastValue h)) v c.2
  | inGroup l ih =>
      cases m with
      | inGroup m => exact ih (fun h => hne (congrArg inGroup h)) v c.1
      | pastGroup m => rfl
  | pastGroup l ih =>
      cases m with
      | inGroup m => rfl
      | pastGroup m => exact ih (fun h => hne (congrArg pastGroup h)) v c.2
  | pastPointer l ih =>
      cases m with
      | pastPointer m => exact ih (fun h => hne (congrArg pastPointer h)) v c
  | pastSkip l ih =>
      cases m with
      | pastSkip m => exact ih (fun h => hne (congrArg pastSkip h)) v c.2

end Leaf

/-- Writing a leaf leaves every skipped field alone. -/
theorem Skipped.read_write {s : Schema A} (k : s.Skipped) (l : s.Leaf) (v : l.type.Value)
    (c : s.Config) : k.read (l.write v c) = k.read c := by
  induction l with
  | here =>
      cases k with
      | pastValue k => rfl
  | pastValue l ih =>
      cases k with
      | pastValue k => exact ih k v c.2
  | inGroup l ih =>
      cases k with
      | inGroup k => exact ih k v c.1
      | pastGroup k => rfl
  | pastGroup l ih =>
      cases k with
      | inGroup k => rfl
      | pastGroup k => exact ih k v c.2
  | pastPointer l ih =>
      cases k with
      | pastPointer k => exact ih k v c
  | pastSkip l ih =>
      cases k with
      | here => rfl
      | pastSkip k => exact ih k v c.2

/-- A configuration has nothing beside its leaves and skipped fields. -/
theorem Config.ext {s : Schema A} {b c : s.Config}
    (hleaves : ∀ l : s.Leaf, l.read b = l.read c)
    (hskipped : ∀ k : s.Skipped, k.read b = k.read c) : b = c := by
  induction s with
  | done => rfl
  | value name type byConverter rule rest ih =>
      have hrest : b.2 = c.2 := ih (fun l => hleaves (.pastValue l))
        fun k => hskipped (.pastValue k)
      exact Prod.ext (hleaves .here) hrest
  | group name rule inner rest ihInner ihRest =>
      have hinner : b.1 = c.1 := ihInner (fun l => hleaves (.inGroup l))
        fun k => hskipped (.inGroup k)
      have hrest : b.2 = c.2 := ihRest (fun l => hleaves (.pastGroup l))
        fun k => hskipped (.pastGroup k)
      exact Prod.ext hinner hrest
  | pointer name typeName rest ih =>
      exact ih (fun l => hleaves (.pastPointer l)) fun k => hskipped (.pastPointer k)
  | skip name type rest ih =>
      have hrest : b.2 = c.2 := ih (fun l => hleaves (.pastSkip l))
        fun k => hskipped (.pastSkip k)
      exact Prod.ext (hskipped .here) hrest

end Schema

end EnvSettings
