/-
What a walk has found when it ends, and what it leaves as it was.

The slots of a walk are the values among the fields of the tree, in the order of the fields, and
the slot of a value tells the value's own policy under the name that the groups around it give
it. That this comes out right for a value behind a group is due to the group: whatever is found
inside it, and wherever the visit inside breaks off, the walker comes out of a group with the stem
and the path with which it went in, and with the slots found before in their places.
-/
import EnvSettings.Docs
import EnvSettings.Proofs.Schema.Walk
import EnvSettings.Sample.Plain

namespace EnvSettings

open EnvSettings.Naming

variable {A : Type}

-- ================================================================ fields

/-- The variable of a field: the stem, the name of every group around the field with an underscore
behind it, and the field's own name, all names in upper-case words. -/
def Field.key (stem : String) (f : Field A) : String :=
  stem ++ String.join (f.above.map fun group => screamingSnake group ++ "_")
    ++ screamingSnake f.name

variable [AppTypes A]

/-- What there is to know about a field, if it is a value. -/
def Field.info? (stem : String) (f : Field A) : Option FieldInfo :=
  match f.form with
  | .value type _ rule =>
    some ⟨f.key stem, rule.required, rule.default?, rule.doc, shortTypeName type.name⟩
  | _ => none

/-- The field that a leaf is, inside the groups `above`. -/
def Schema.Leaf.field {s : Schema A} (above : List String) (l : s.Leaf) : Field A :=
  ⟨above ++ l.groups, l.form.name, .value l.type l.form.byConverter l.rule⟩

/-- The values among the fields are the leaves, in the same order. -/
theorem Schema.filterMap_info?_fields (s : Schema A) (stem : String) (above : List String) :
    (s.fields above).filterMap (Field.info? stem)
      = s.leaves.filterMap fun l => (l.field above).info? stem := by
  induction s generalizing above with
  | done => rfl
  | value name type byConverter rule rest ih =>
      have hhere : (Leaf.here : (Schema.value name type byConverter rule rest).Leaf).field above
          = ⟨above, name, .value type byConverter rule⟩ := by
        rw [Leaf.field, Leaf.groups, List.append_nil]
        rfl
      rw [fields, leaves, List.filterMap_cons, List.filterMap_cons, hhere, ih, List.filterMap_map]
      rfl
  | group name rule inner rest ihInner ihRest =>
      -- a leaf inside, seen from the group, is a leaf of the whole with one group more around it
      have hinner : ∀ l : inner.Leaf, l.field (above ++ [name])
          = (Leaf.inGroup l : (Schema.group name rule inner rest).Leaf).field above := by
        intro l
        rw [Leaf.field, List.append_assoc]
        rfl
      rw [fields, leaves, List.filterMap_cons, List.filterMap_append, List.filterMap_append,
        ihInner, ihRest, List.filterMap_map, List.filterMap_map]
      simp only [hinner]
      rfl
  | pointer name typeName rest ih =>
      rw [fields, leaves, List.filterMap_cons, ih, List.filterMap_map]
      rfl
  | skip name type rest ih =>
      rw [fields, leaves, List.filterMap_cons, ih, List.filterMap_map]
      rfl

variable [DecidableEq A] {R : Type}

/-- A walk without an error has one slot for every value among the fields, in their order. -/
theorem Schema.map_info_slots {s : Schema A} {stem : String} {registry : Registry A}
    {slots : List (Slot A s.Config)} (hwalk : s.slots? stem registry = .ok slots) :
    slots.map Slot.info = (s.fields []).filterMap (Field.info? stem) := by
  obtain ⟨-, rfl⟩ := Schema.slots?_eq_ok_iff.mp hwalk
  rw [s.filterMap_info?_fields, List.map_map, ← List.filterMap_eq_map]
  rfl

/-- Whatever the visit inside a group comes to, the walker comes out of the group where it went
in, with further slots behind those that it had. -/
theorem Walker.visitGroup_frame (w : Walker A R) (name : String) (rule : FieldRule)
    (inner : Schema A) (within : (inner.Config → inner.Config) → R → R) :
    ∃ more, (w.visitGroup name rule (inner.visit within)).1
      = { w with slots := w.slots ++ more } := by
  obtain ⟨more, hinner, -⟩ := inner.visit_spec within (w.enter name)
  rw [w.visitGroup_eq name rule hinner]
  cases rule.groupFault? with
  | some fault =>
      -- the group's own policy is looked at before anything inside is visited
      refine ⟨[], ?_⟩
      simp only [List.append_nil]
  | none => exact ⟨more, rfl⟩

-- ================================================================= order

/-- Order and names. A walk without an error finds one slot for every value of the tree, in the
order of the fields and depth first, and the slot tells the value's own policy and type under the
stem, the names of the groups from the root and the value's own name. And of every visit to a
group, be the walker wherever it may and whether the visit ends well or breaks off at any depth,
the walker comes back with the stem and the path that it had, and with the slots that it had in
front of those found inside. -/
theorem walk_order_and_frame (s : Schema A) (registry : Registry A) (stem : String) :
    (∀ slots, s.slots? stem registry = .ok slots →
        slots.map Slot.info = (s.fields []).filterMap (Field.info? stem))
      ∧ ∀ (w : Walker A R) (name : String) (rule : FieldRule) (inner : Schema A)
          (within : (inner.Config → inner.Config) → R → R),
        let after := (w.visitGroup name rule (inner.visit within)).1
        after.stem = w.stem ∧ after.path = w.path ∧ w.slots <+: after.slots := by
  refine ⟨fun slots hwalk => Schema.map_info_slots hwalk, fun w name rule inner within => ?_⟩
  intro after
  obtain ⟨more, hafter⟩ := w.visitGroup_frame name rule inner within
  have hafter : after = { w with slots := w.slots ++ more } := hafter
  rw [hafter]
  exact ⟨rfl, rfl, List.prefix_append w.slots more⟩

/-- Behind a group in a group whose names take more bytes than characters, and more of both in
upper case, a value has its variable from the stem again. -/
theorem walk_order_and_frame_wide_names :
    let s : Schema Empty :=
      .group "größe" .plain
        (.group "maß" .plain (.value "x" (.scalar .bool) false ⟨true, none, "first"⟩ .done) <|
          .value "y" (.list (.scalar .string)) false ⟨false, some "a", ""⟩ .done) <|
      .value "z" (.scalar .duration) true .plain .done
    ∃ slots, s.slots? "P_" Registry.builtins = .ok slots
      ∧ slots.map Slot.info
        = [⟨"P_GRÖSSE_MASS_X", true, none, "first", "bool"⟩,
            ⟨"P_GRÖSSE_Y", false, some "a", "", "Vec<String>"⟩,
            ⟨"P_Z", false, none, "", "Duration"⟩] := by
  intro s
  have hwalk : ∃ slots, s.slots? "P_" Registry.builtins = .ok slots := ⟨_, rfl⟩
  obtain ⟨slots, hslots⟩ := hwalk
  refine ⟨slots, hslots, ?_⟩
  rw [(walk_order_and_frame (R := Unit) s Registry.builtins "P_").1 slots hslots]
  decide +kernel

end EnvSettings
