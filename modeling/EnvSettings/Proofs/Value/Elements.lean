/-
Lists decoded element by element.

A text is cut at its commas into the one list of parts that have no comma in them and give the text
back when they are joined (`isCut_iff`). The parts are read in their order: the values are those of
the parts, one for each, and if a part cannot be read, the first such part gives the error, under
its place (`readElements_eq_ok_iff`, `readElements_eq_error_iff`).

There is one separator for all lists. A part of a list has no comma left in it, so whatever is read
of it as a list in its turn has just this one element.
-/
import EnvSettings.Proofs.Lists
import EnvSettings.Proofs.Registry.History
import Mathlib.Data.List.Forall2

namespace EnvSettings

-- ==================================================================== cuts

/-- The text is the parts with a comma between any two, and no part has a comma in it. -/
def IsCut (raw : String) (parts : List String) : Prop :=
  parts ≠ [] ∧ (∀ part ∈ parts, ',' ∉ part.toList) ∧ ",".intercalate parts = raw

/-- A text can be cut in one way only, and so it is cut. -/
theorem isCut_iff {raw : String} {parts : List String} :
    IsCut raw parts ↔ splitCommas raw = parts := by
  unfold splitCommas
  apply Iff.intro
  · intro ⟨hne, hparts, hraw⟩
    have hlist : raw.toList = [','].intercalate (parts.map String.toList) := by
      rw [← hraw, String.toList_intercalate]
      rfl
    have hfree : ∀ p ∈ parts.map String.toList, ',' ∉ p := by
      simpa using hparts
    rw [hlist, List.splitOn_intercalate ',' hfree (by simpa using hne)]
    simp
  · intro hcut
    refine ⟨?_, fun part hpart => ?_, ?_⟩
    · rw [← hcut]
      simp
    · rw [← hcut] at hpart
      obtain ⟨p, hp, rfl⟩ := List.mem_map.mp hpart
      rw [String.toList_ofList]
      exact notMem_of_mem_splitOn hp
    · have hlists : parts.map String.toList = raw.toList.splitOn ',' := by
        rw [← hcut]
        simp
      rw [← String.toList_inj, String.toList_intercalate, hlists]
      exact List.intercalate_splitOn ','

theorem isCut_splitCommas (raw : String) : IsCut raw (splitCommas raw) := isCut_iff.mpr rfl

/-- There is one part more than there are commas. -/
theorem IsCut.length_eq {raw : String} {parts : List String} (hcut : IsCut raw parts) :
    parts.length = raw.toList.count ',' + 1 := by
  rw [← isCut_iff.mp hcut, splitCommas, List.length_map, length_splitOn]

/-- A text without a comma is a part by itself. -/
theorem splitCommas_of_notMem {part : String} (hpart : ',' ∉ part.toList) :
    splitCommas part = [part] := by
  rw [← isCut_iff]
  refine ⟨List.cons_ne_nil _ _, ?_, String.intercalate_singleton⟩
  simpa using hpart

-- ================================================================ elements

section

variable {α : Type} {read : String → Except ParseError α} {parts : List String}

/-- Reading parts gives values exactly if each part reads as the value in its place. -/
theorem readElements_eq_ok_iff {values : List α} (index : Nat) :
    readElements read index parts = .ok values
      ↔ List.Forall₂ (fun part value => read part = .ok value) parts values := by
  induction parts generalizing index values with
  | nil => simp [readElements, eq_comm]
  | cons part parts ih =>
      rw [readElements, List.forall₂_cons_left_iff]
      simp only [← ih (index + 1)]
      cases read part with
      | error source => simp
      | ok value =>
          cases readElements read (index + 1) parts with
          | error e => simp
          | ok more => simp [eq_comm]

/-- Reading parts fails exactly if some part fails behind parts that can be read, and with the error
of this part in its place. -/
theorem readElements_eq_error_iff {e : ParseError} (index : Nat) :
    readElements read index parts = .error e
      ↔ ∃ before part after, parts = before ++ part :: after
        ∧ (∀ other ∈ before, ∃ value, read other = .ok value)
        ∧ ∃ source, read part = .error source
          ∧ e = .element (index + before.length) part source := by
  induction parts generalizing index with
  | nil => simp [readElements]
  | cons first parts ih =>
      have hrest := ih (index + 1)
      rw [readElements, exists_split_cons_iff]
      simp only [List.forall_mem_cons, List.length_cons, List.length_nil]
      cases hfirst : read first with
      | error source =>
          -- no part fails behind parts that can be read but this one
          simp [eq_comm]
      | ok value =>
          have hknown : ∃ v, (.ok value : Except ParseError α) = .ok v := ⟨value, rfl⟩
          simp only [Nat.add_right_comm index 1, Nat.add_assoc] at hrest
          simp only [hknown, reduceCtorEq, false_and, exists_false, and_false, true_and, false_or,
            ← hrest]
          cases readElements read (index + 1) parts with
          | error e' => simp
          | ok more => simp

end

-- ================================================================== lists

variable {A : Type} [AppTypes A] [DecidableEq A] {r : Registry A} {t : TypeCode A}

namespace TypeCode

/-- Without a converter for the list its elements are decoded by the same registry. -/
theorem decode_list (hnone : r.contains (.list t) = false) (raw : String) :
    (TypeCode.list t).decode r raw = readElements (t.decode r) 0 (splitCommas raw) := by
  have hconverter : r.converter? (.list t) = none := by
    simpa [Registry.contains] using hnone
  have hconvert : r.convert? (.list t) raw = none := by
    rw [Registry.convert?_eq, hconverter]
    rfl
  rw [decode, hconvert]

/-- A list without a converter is decoded exactly if each of its parts is. -/
theorem decode_list_eq_ok_iff (hnone : r.contains (.list t) = false) {raw : String}
    {parts : List String} (hcut : IsCut raw parts) (values : List t.Value) :
    (TypeCode.list t).decode r raw = .ok values
      ↔ List.Forall₂ (fun part value => t.decode r part = .ok value) parts values := by
  rw [← readElements_eq_ok_iff 0, ← isCut_iff.mp hcut]
  exact iff_of_eq (congrArg (· = Except.ok values) (decode_list hnone raw))

/-- The first part that fails is the error of a list without a converter. -/
theorem decode_list_eq_error_iff (hnone : r.contains (.list t) = false) {raw : String}
    {parts : List String} (hcut : IsCut raw parts) (e : ParseError) :
    (TypeCode.list t).decode r raw = .error e
      ↔ ∃ before part after, parts = before ++ part :: after
        ∧ (∀ other ∈ before, ∃ value, t.decode r other = .ok value)
        ∧ ∃ source, t.decode r part = .error source
          ∧ e = .element before.length part source := by
  have hread : readElements (t.decode r) 0 parts = .error e ↔ _ := readElements_eq_error_iff 0
  simp only [Nat.zero_add] at hread
  rw [← hread, ← isCut_iff.mp hcut]
  exact iff_of_eq (congrArg (· = Except.error e) (decode_list hnone raw))

/-- A text without a comma is a list of one element. -/
theorem length_eq_one_of_decode_list (hnone : r.contains (.list t) = false) {part : String}
    (hpart : ',' ∉ part.toList) {values : List t.Value}
    (hdecode : (TypeCode.list t).decode r part = .ok values) : values.length = 1 := by
  have hcut : IsCut part [part] := isCut_iff.mpr (splitCommas_of_notMem hpart)
  exact ((decode_list_eq_ok_iff hnone hcut values).mp hdecode).length_eq.symm

end TypeCode

/-- How a list is decoded for which no converter is registered. A text has one cut into parts
without a comma, with one part more than the text has commas, and texts without a comma are the
parts of their join. The values are those of the parts, each in its place; where a part cannot be
decoded, the first of them gives the error, with its place and its text. And lists in a list, if
neither has a converter, hold one element each. -/
theorem decode_list_by_elements (hnone : r.contains (.list t) = false) :
    (∀ raw, ∃! parts, IsCut raw parts)
      ∧ (∀ texts : List String, texts ≠ [] → (∀ text ∈ texts, ',' ∉ text.toList) →
        IsCut (",".intercalate texts) texts)
      ∧ (∀ raw parts, IsCut raw parts →
        parts.length = raw.toList.count ',' + 1
        ∧ (∀ values : List t.Value, (TypeCode.list t).decode r raw = .ok values
          ↔ List.Forall₂ (fun part value => t.decode r part = .ok value) parts values)
        ∧ ∀ e, (TypeCode.list t).decode r raw = .error e
          ↔ ∃ before part after, parts = before ++ part :: after
            ∧ (∀ other ∈ before, ∃ value, t.decode r other = .ok value)
            ∧ ∃ source, t.decode r part = .error source
              ∧ e = .element before.length part source)
      ∧ (r.contains (.list (.list t)) = false → ∀ raw, ∀ lists : List (List t.Value),
        (TypeCode.list (.list t)).decode r raw = .ok lists →
        ∀ list ∈ lists, list.length = 1) := by
  refine ⟨fun raw => ?_, fun texts hne hfree => ⟨hne, hfree, rfl⟩, fun raw parts hcut => ?_,
    fun houter raw lists hlists list hlist => ?_⟩
  · exact ⟨splitCommas raw, isCut_splitCommas raw, fun others h => (isCut_iff.mp h).symm⟩
  · exact ⟨hcut.length_eq, TypeCode.decode_list_eq_ok_iff hnone hcut,
      TypeCode.decode_list_eq_error_iff hnone hcut⟩
  · have hcut := isCut_splitCommas raw
    have hparts := (TypeCode.decode_list_eq_ok_iff houter hcut lists).mp hlists
    obtain ⟨i, rfl⟩ := List.mem_iff_get.mp hlist
    have hi : i < (splitCommas raw).length := Nat.lt_of_lt_of_eq i.isLt hparts.length_eq.symm
    have hfree := hcut.2.1 _ (List.get_mem (splitCommas raw) ⟨i, hi⟩)
    exact TypeCode.length_eq_one_of_decode_list hnone hfree (hparts.get hi i.isLt)

/-- With a converter for bytes and none for lists of them, the second of four parts is the first
that fails, and a list of lists has its elements in lists of their own. -/
theorem decode_list_by_elements_levels :
    let level : TypeCode Sample.AppCode := .scalar (.int Sample.u8)
    let r : Registry Sample.AppCode := Registry.empty.register level Sample.readLevel
    r.contains (.list level) = false
      ∧ (TypeCode.list level).decode r "high,,low,"
        = .error (.element 1 "" (.custom "parsing \"\": expected high or low"))
      ∧ (TypeCode.list level).decode r "high,low" = .ok [⟨9, by decide⟩, ⟨1, by decide⟩] := by
  intro level r
  have hnone : r.contains (.list level) = false := rfl
  have hhigh : level.decode r "high" = .ok (⟨9, by decide⟩ : Sample.u8.Value) := rfl
  have hlow : level.decode r "low" = .ok (⟨1, by decide⟩ : Sample.u8.Value) := rfl
  have hempty : level.decode r ""
      = .error (.custom "parsing \"\": expected high or low") := by rfl
  obtain ⟨-, hjoined, hparts, -⟩ := decode_list_by_elements hnone
  refine ⟨hnone, ?_, ?_⟩
  · have hcut := hjoined ["high", "", "low", ""] (by decide) (by decide)
    refine ((hparts _ _ hcut).2.2 _).mpr ⟨["high"], "", ["low", ""], rfl, ?_, _, hempty, rfl⟩
    simpa using ⟨_, hhigh⟩
  · have hcut := hjoined ["high", "low"] (by decide) (by decide)
    exact ((hparts _ _ hcut).2.1 _).mpr (.cons hhigh (.cons hlow .nil))

end EnvSettings
