/-
What a walk finds, said without the walk: one slot for every leaf in the order of the leaves, or
the error of the first bad field.

# The induction

`Schema.visit_spec` is the whole of it. The walker's registry, stem and path are after a visit
what they were before, whether the visit ends well or not, and the slots found before are an
initial part of the slots found after; with that, what comes behind a group is visited as if
the group were not there. The walker keeps no copy of its stem and path while it is in a group, so
that cutting both back restores them is itself due to the induction: the visit inside has left the
longer stem as it was, and of that the size in bytes of the shorter one cuts off just what the
group had added (`Walker.leave_enter`). The slots need two facts about places: the slot of a leaf
behind a field is the slot of that leaf with its place seen through the field (true by
definition), and a group's leaves have the variables that the longer stem gives them
(`Leaf.key_inGroup`).
-/
import EnvSettings.Proofs.Schema.Leaf
import EnvSettings.Proofs.Schema.Fault

namespace EnvSettings

open EnvSettings.Naming

variable {A : Type} [AppTypes A] [DecidableEq A] {R : Type}

-- ================================================================= slots

/-- Decodes a text for the leaf, by a converter alone if the leaf is so. -/
def Schema.Leaf.decode {s : Schema A} (l : s.Leaf) (registry : Registry A) (raw : String) :
    Except ParseError l.type.Value :=
  l.type.decodeField registry l.form.byConverter raw

/-- The slot of a leaf in a walk over a part of `R`. -/
def Schema.Leaf.slot {s : Schema A} (within : (s.Config → s.Config) → R → R) (stem : String)
    (l : s.Leaf) : Slot A R where
  key := l.key stem
  rule := l.rule
  typeName := Naming.shortTypeName l.type.name
  assign registry raw := (l.decode registry raw).map fun v => within (l.write v)

section

variable {s : Schema A} (within : (s.Config → s.Config) → R → R) (stem : String) (l : s.Leaf)

@[simp] theorem Schema.Leaf.slot_key : (l.slot within stem).key = l.key stem := rfl

@[simp] theorem Schema.Leaf.slot_rule : (l.slot within stem).rule = l.rule := rfl

@[simp] theorem Schema.Leaf.slot_typeName :
    (l.slot within stem).typeName = Naming.shortTypeName l.type.name := rfl

@[simp] theorem Schema.Leaf.slot_assign (registry : Registry A) (raw : String) :
    (l.slot within stem).assign registry raw
      = (l.decode registry raw).map fun v => within (l.write v) := rfl

end

/-- The walker makes the slot of the value that a schema starts with. -/
theorem Walker.slotOf_eq_slot {name : String} {type : TypeCode A} {byConverter : Bool}
    {rule : FieldRule} {rest : Schema A} (w : Walker A R)
    (within : ((Schema.value name type byConverter rule rest).Config
      → (Schema.value name type byConverter rule rest).Config) → R → R) :
    w.slotOf name type byConverter rule (fun v => within fun c => (v, c.2))
      = (Schema.Leaf.here : (Schema.value name type byConverter rule rest).Leaf).slot
          within w.stem := by
  have hkey : w.keyOf name
      = (Schema.Leaf.here : (Schema.value name type byConverter rule rest).Leaf).key w.stem := by
    simp [Walker.keyOf, Schema.Leaf.key, Schema.Leaf.groups, Schema.Leaf.form]
  unfold Walker.slotOf Schema.Leaf.slot
  rw [hkey]
  congr 1
  funext registry raw
  show _ = Except.map _ (type.decodeField registry byConverter raw)
  cases type.decodeField registry byConverter raw with
  | ok v => rfl
  | error e => rfl

omit [AppTypes A] [DecidableEq A] in
/-- A leaf is a field of the schema, inside the groups around the leaf. -/
theorem Schema.Leaf.mem_fields {s : Schema A} (l : s.Leaf) (above : List String) :
    ⟨above ++ l.groups, l.form.name, .value l.type l.form.byConverter l.rule⟩
      ∈ s.fields above := by
  induction l generalizing above with
  | here =>
      rw [groups, List.append_nil]
      exact List.mem_cons_self
  | pastValue l ih => exact List.mem_cons_of_mem _ (ih above)
  | @inGroup name rule inner rest l ih =>
      have hinner := ih (above ++ [name])
      rw [List.append_assoc] at hinner
      exact List.mem_cons_of_mem _ (List.mem_append_left _ hinner)
  | pastGroup l ih => exact List.mem_cons_of_mem _ (List.mem_append_right _ (ih above))
  | pastPointer l ih => exact List.mem_cons_of_mem _ (ih above)
  | pastSkip l ih => exact List.mem_cons_of_mem _ (ih above)

/-- In a schema without bad fields a required leaf has no default. -/
theorem Schema.Leaf.default?_eq_none_of_required {s : Schema A} {registry : Registry A}
    (hfine : s.firstError? registry [] = none) (l : s.Leaf) (hrequired : l.rule.required = true) :
    l.rule.default? = none := by
  have hbad := Schema.firstError?_eq_none_iff.mp hfine _ (l.mem_fields [])
  cases hdefault : l.rule.default? with
  | none => rfl
  | some text =>
      by_cases hempty : text = ""
      · rw [hempty] at hdefault
        exact absurd (FieldForm.Bad.emptyDefault hdefault) (hbad _)
      · exact absurd (FieldForm.Bad.requiredWithDefault hdefault hempty hrequired) (hbad _)

-- ================================================================ groups

omit [AppTypes A] [DecidableEq A] in
/-- The size of a text in bytes cuts off all that was written behind the text. -/
theorem Walker.fitting_append (cs more : List Char) :
    fitting (String.ofList cs).utf8ByteSize (cs ++ more) = cs := by
  induction cs with
  | nil =>
      rw [String.ofList_nil, String.utf8ByteSize_empty, List.nil_append]
      cases more with
      | nil => rfl
      | cons c more =>
          have hpos : ¬ c.utf8Size ≤ 0 := Nat.not_le.mpr c.utf8Size_pos
          rw [fitting, if_neg hpos]
  | cons c cs ih =>
      have hsize : (String.ofList (c :: cs)).utf8ByteSize
          = c.utf8Size + (String.ofList cs).utf8ByteSize := by
        rw [String.ofList_cons, String.utf8ByteSize_append, String.utf8ByteSize_singleton]
      rw [hsize, List.cons_append, fitting, if_pos (Nat.le_add_right _ _), Nat.add_sub_cancel_left,
        ih]

omit [DecidableEq A] in
/-- Going into a group and out of it again changes nothing but the slots found in between. -/
theorem Walker.leave_enter (w : Walker A R) (name : String) (slots : List (Slot A R)) :
    Walker.leave { w.enter name with slots := slots } w.stem.utf8ByteSize
      = { w with slots := slots } := by
  have hstem : String.ofList (fitting w.stem.utf8ByteSize (w.enter name).stem.toList) = w.stem := by
    have hcut := fitting_append w.stem.toList (screamingSnake name ++ "_").toList
    rw [String.ofList_toList] at hcut
    rw [enter, String.append_assoc, String.toList_append, hcut, String.ofList_toList]
  have hpath : (w.enter name).path.dropLast = w.path := List.dropLast_concat
  simp only [leave, hstem, hpath]
  rfl

omit [DecidableEq A] in
/-- A group is visited without a trace but for the slots found in it, if the visit inside it
leaves no other trace. -/
theorem Walker.visitGroup_eq (w : Walker A R) (name : String) (rule : FieldRule)
    {visitInner : Walker A R → Walker A R × Option SchemaError} {more : List (Slot A R)}
    {error : Option SchemaError}
    (hinner : visitInner (w.enter name)
      = ({ w.enter name with slots := w.slots ++ more }, error)) :
    w.visitGroup name rule visitInner
      = match rule.groupFault? with
        | some fault => (w, some (w.errorAt name fault))
        | none => ({ w with slots := w.slots ++ more }, error) := by
  unfold visitGroup
  cases rule.groupFault? with
  | some fault => rfl
  | none =>
      simp only [hinner]
      rw [leave_enter]

-- ================================================================== walk

/-- A visit ends with the first error of the schema. It adds slots behind those that were found
before and changes nothing else about the walker; without an error there is one slot for each
leaf. -/
theorem Schema.visit_spec (s : Schema A) (within : (s.Config → s.Config) → R → R)
    (w : Walker A R) :
    ∃ more, s.visit within w
        = ({ w with slots := w.slots ++ more }, s.firstError? w.registry w.path)
      ∧ (s.firstError? w.registry w.path = none
          → more = s.leaves.map (Leaf.slot within w.stem)) := by
  induction s generalizing w with
  | done =>
      refine ⟨[], ?_, fun _ => rfl⟩
      simp [visit, firstError?, fields]
  | value name type byConverter rule rest ih =>
      have hfirst : (Schema.value name type byConverter rule rest).firstError? w.registry w.path
          = ((valueFault? w.registry type byConverter rule).map (w.errorAt name)).or
            (rest.firstError? w.registry w.path) := findSome?_error_cons
      rw [hfirst]
      simp only [visit]
      cases hfault : valueFault? w.registry type byConverter rule with
      | some fault =>
          refine ⟨[], ?_, fun h => by cases h⟩
          simp
      | none =>
          obtain ⟨more, hvisit, hmore⟩ := ih (fun change => within fun c => (c.1, change c.2))
            (w.push (w.slotOf name type byConverter rule fun v => within fun c => (v, c.2)))
          refine ⟨w.slotOf name type byConverter rule (fun v => within fun c => (v, c.2)) :: more,
            ?_, fun hnone => ?_⟩
          · simp only [hvisit]
            simp [Walker.push]
          · rw [hmore hnone, w.slotOf_eq_slot]
            simp only [leaves, List.map_cons, List.map_map]
            rfl
  | group name rule inner rest ihInner ihRest =>
      obtain ⟨moreInner, hinner, hmoreInner⟩ :=
        ihInner (fun change => within fun c => (change c.1, c.2)) (w.enter name)
      rw [firstError?_group]
      simp only [visit, w.visitGroup_eq name rule hinner]
      cases hfault : rule.groupFault? with
      | some fault =>
          refine ⟨[], ?_, fun h => by cases h⟩
          simp [Walker.errorAt, SchemaError.ofField]
      | none =>
          simp only [Walker.enter]
          cases herror : inner.firstError? w.registry (w.path ++ [name]) with
          | some e =>
              refine ⟨moreInner, ?_, fun h => by cases h⟩
              simp
          | none =>
              -- behind the group the walker is as before it, but for the slots of the group
              obtain ⟨moreRest, hrest, hmoreRest⟩ :=
                ihRest (fun change => within fun c => (c.1, change c.2))
                  { w with slots := w.slots ++ moreInner }
              refine ⟨moreInner ++ moreRest, ?_, fun hnone => ?_⟩
              · simp [hrest]
              · rw [hmoreInner herror, hmoreRest hnone, leaves, List.map_append, List.map_map,
                  List.map_map]
                congr 1
                refine List.map_congr_left fun l _ => ?_
                simp only [Leaf.slot, Function.comp, Leaf.key_inGroup]
                rfl
  | pointer name typeName rest ih =>
      have hfirst : (Schema.pointer name typeName rest).firstError? w.registry w.path
          = some (w.errorAt name (.pointer typeName)) := findSome?_error_cons
      rw [hfirst]
      refine ⟨[], ?_, fun h => by cases h⟩
      simp [visit]
  | skip name type rest ih =>
      obtain ⟨more, hvisit, hmore⟩ := ih (fun change => within fun c => (c.1, change c.2)) w
      have hfirst : (Schema.skip name type rest).firstError? w.registry w.path
          = rest.firstError? w.registry w.path := findSome?_error_cons
      rw [hfirst]
      refine ⟨more, hvisit, fun hnone => ?_⟩
      rw [hmore hnone, leaves, List.map_map]
      rfl

/-- The slots of a schema are those of its leaves, unless a field is bad. -/
theorem Schema.slots?_eq (s : Schema A) (stem : String) (registry : Registry A) :
    s.slots? stem registry
      = match s.firstError? registry [] with
        | some e => .error e
        | none => .ok (s.leaves.map (Leaf.slot id stem)) := by
  obtain ⟨more, hvisit, hmore⟩ := s.visit_spec id (Walker.start stem registry)
  unfold Schema.slots?
  rw [hvisit]
  cases herror : s.firstError? registry [] with
  | some e => simp [Walker.start, herror]
  | none => simp [Walker.start, herror, hmore herror]

/-- A walk without an error finds the slots of the leaves. -/
theorem Schema.slots?_eq_ok_iff {s : Schema A} {stem : String} {registry : Registry A}
    {slots : List (Slot A s.Config)} :
    s.slots? stem registry = .ok slots
      ↔ s.firstError? registry [] = none ∧ s.leaves.map (Leaf.slot id stem) = slots := by
  rw [s.slots?_eq]
  cases s.firstError? registry [] with
  | some e => simp
  | none => simp

end EnvSettings
