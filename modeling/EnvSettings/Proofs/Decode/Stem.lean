/-
The stem of a decoding is a change of names and nothing else. What a decoding under a stem makes
of a source, a decoding without a stem makes of the part of the source under the stem, with the
names in its errors to be read with the stem in front (`decode_under_stem`).

# Why this holds

A stem comes into play in three places: in the variables of the leaves, in the names of the value
errors, and in the choice of the names that count as unread. In the first two it stands in front
of a name that does not depend on it (`Leaf.key_append`). In the third the names are sorted, and
for that the order of names must not see a common beginning (`append_le_append_iff`).
-/
import EnvSettings.Proofs.Decode.Unused

namespace EnvSettings

open EnvSettings.Source

-- ======================================================= names under a stem

/-- What a name continues a stem by, if it does. -/
def below? (stem name : String) : Option String :=
  (stem.toList.isPrefixOf? name.toList).map String.ofList

/-- What is below a stem is what continues it to the name. -/
theorem below?_eq_some_iff {stem name rest : String} :
    below? stem name = some rest ↔ name = stem ++ rest := by
  unfold below?
  rw [Option.map_eq_some_iff]
  constructor
  · rintro ⟨cs, hcs, rfl⟩
    have happend := List.isPrefixOf?_eq_some_iff_append_eq.mp hcs
    rw [← String.toList_inj, String.toList_append, String.toList_ofList, happend]
  · rintro rfl
    refine ⟨rest.toList, ?_, String.ofList_toList⟩
    exact List.isPrefixOf?_eq_some_iff_append_eq.mpr String.toList_append.symm

/-- What two names have in common at their beginning does not matter for their order. -/
theorem append_lt_append_iff (stem a b : String) : stem ++ a < stem ++ b ↔ a < b := by
  rw [String.lt_iff, String.lt_iff, String.toList_append, String.toList_append]
  induction stem.toList with
  | nil => rfl
  | cons c cs ih =>
      rw [List.cons_append, List.cons_append, List.cons_lt_cons_iff, ih]
      constructor
      · rintro (hc | ⟨-, hlt⟩)
        · exact absurd hc (Char.lt_irrefl c)
        · exact hlt
      · intro hlt
        exact Or.inr ⟨rfl, hlt⟩

/-- A stem in front does not change which name comes first. -/
theorem append_le_append_iff (stem a b : String) : stem ++ a ≤ stem ++ b ↔ a ≤ b := by
  rw [← String.not_lt, ← String.not_lt, append_lt_append_iff]

/-- Sorting names and putting a stem in front of them all may change places. -/
theorem map_append_mergeSort (stem : String) (names : List String) :
    (names.mergeSort (· ≤ ·)).map (stem ++ ·) = (names.map (stem ++ ·)).mergeSort (· ≤ ·) := by
  refine List.map_mergeSort fun a _ b _ => ?_
  rw [Bool.eq_iff_iff, decide_eq_true_eq, decide_eq_true_eq]
  exact (append_le_append_iff stem a b).symm

/-- The part of a source under a stem, in which names go without the stem. -/
def Source.under (stem : String) (source : Source) : Source where
  get name := source.get (stem ++ name)
  list := source.list.filterMap (below? stem)

-- ================================================== errors under a stem

/-- The error with a stem in front of its variable. -/
def ValueError.under (stem : String) (e : ValueError) : ValueError := ⟨stem ++ e.key, e.fault⟩

/-- The error with the stem in front of all variables in it. An error of the schema names no
variable. -/
def DecodeError.under (stem : String) : DecodeError → DecodeError
  | .schema error => .schema error
  | .values errors => .values (errors.map (ValueError.under stem))
  | .unused names => .unused (names.map (stem ++ ·))

-- ================================================== leaves under a stem

variable {A : Type} {s : Schema A}

namespace Schema.Leaf

/-- A variable has the stem in front. -/
theorem key_append (stem inner : String) (l : s.Leaf) :
    l.key (stem ++ inner) = stem ++ l.key inner := by
  simp only [key, String.append_assoc]

variable [AppTypes A] [DecidableEq A] (registry : Registry A) (stem inner : String)
  (start : s.Config) (source : Source)

/-- A leaf comes to the same in the part of the source under a stem. -/
theorem resolve_under (l : s.Leaf) :
    l.resolve registry (stem ++ inner) start source
      = l.resolve registry inner start (source.under stem) := by
  unfold resolve
  rw [key_append]
  rfl

/-- The error of a leaf has the stem in front of what it names in the part under the stem. -/
theorem valueError?_under (l : s.Leaf) :
    l.valueError? registry (stem ++ inner) start source
      = (l.valueError? registry inner start (source.under stem)).map (ValueError.under stem) := by
  unfold valueError?
  rw [resolve_under, key_append]
  cases l.resolve registry inner start (source.under stem) with
  | ok v => rfl
  | error fault => rfl

/-- A leaf is settled from below the stem as it is from all variables. -/
theorem settle_under :
    settle registry (stem ++ inner) start source
      = settle (s := s) registry inner start (source.under stem) := by
  funext c l
  unfold settle
  rw [resolve_under]

end Schema.Leaf

/-- A name is unread under a longer stem exactly if what it adds to the first part of the stem is
unread under the rest. -/
theorem Schema.unread_append_iff {stem inner name : String} :
    s.Unread (stem ++ inner) (stem ++ name) ↔ s.Unread inner name := by
  unfold Schema.Unread
  simp only [Leaf.key_append, String.append_assoc, String.append_right_inj, ne_eq]

/-- The unread names under a longer stem are those in the part under the first part of the stem,
with that part in front. -/
theorem Schema.filter_unread_append (stem inner : String) (names : List String) :
    (names.filter fun name => s.Unread (stem ++ inner) name)
      = ((names.filterMap (below? stem)).filter fun name => s.Unread inner name).map
          (stem ++ ·) := by
  induction names with
  | nil => rfl
  | cons name names ih =>
      cases hbelow : below? stem name with
      | none =>
          -- it does not begin with the longer stem either, since not even with its first part
          have hread : ¬ s.Unread (stem ++ inner) name := by
            rintro ⟨⟨rest, hrest⟩, -⟩
            rw [String.append_assoc] at hrest
            rw [below?_eq_some_iff.mpr hrest] at hbelow
            cases hbelow
          rw [List.filterMap_cons_none hbelow, List.filter_cons_of_neg (by simpa using hread), ih]
      | some rest =>
          have hname := below?_eq_some_iff.mp hbelow
          rw [List.filterMap_cons_some hbelow, List.filter_cons, List.filter_cons, ih, hname]
          simp only [unread_append_iff]
          split
          · rfl
          · rfl

-- ============================================================ decodings

section

variable [AppTypes A] [DecidableEq A] (registry : Registry A) (stem inner : String)
  (strict echo : Bool) (source : Source)

/-- A decoding under a longer stem answers what a decoding under the rest of the stem answers on
the part of the source under its first part. -/
theorem Decoder.decode_append_stem (s : Schema A) (start : s.Config) :
    (Decoder.mk registry (stem ++ inner) strict echo).decode s start source
      = ((Decoder.mk registry inner strict echo).decode s start (source.under stem)).mapError
          (DecodeError.under stem) := by
  have hconfig : ((Decoder.mk registry (stem ++ inner) strict echo).filled s start source).config
      = ((Decoder.mk registry inner strict echo).filled s start (source.under stem)).config := by
    unfold Decoder.filled
    simp only [Schema.Leaf.settle_under]
  have herrors : ((Decoder.mk registry (stem ++ inner) strict echo).filled s start source).errors
      = ((Decoder.mk registry inner strict echo).filled s start (source.under stem)).errors.map
          (ValueError.under stem) := by
    unfold Decoder.filled
    rw [List.map_filterMap]
    exact List.filterMap_congr fun l _ => l.valueError?_under registry stem inner start source
  have hunread : (Decoder.mk registry (stem ++ inner) strict echo).unread
        ((Decoder.mk registry (stem ++ inner) strict echo).filled s start source)
      = ((Decoder.mk registry inner strict echo).unread
          ((Decoder.mk registry inner strict echo).filled s start (source.under stem))).map
        (stem ++ ·) := by
    rw [Decoder.unread_filled, Decoder.unread_filled, map_append_mergeSort,
      Schema.filter_unread_append]
    rfl
  rw [Decoder.decode_eq, Decoder.decode_eq, hconfig, herrors, hunread]
  cases s.firstError? registry [] with
  | some e => rfl
  | none =>
      simp only [ne_eq, List.map_eq_nil_iff]
      split
      · rfl
      · split
        · rfl
        · rfl

end

/-- Equivariance in the stem. A decoding under a stem answers what a decoding without a stem
answers on the part of the source under the stem: the same configuration, the same error of the
schema, value errors with the same faults in the same order and the stem in front of every
variable, or the same unread names in the same order with the stem in front of each. -/
theorem decode_under_stem [AppTypes A] [DecidableEq A] (s : Schema A) (registry : Registry A)
    (stem : String) (strict echo : Bool) (start : s.Config) (source : Source) :
    (Decoder.mk registry stem strict echo).decode s start source
      = ((Decoder.mk registry "" strict echo).decode s start (source.under stem)).mapError
          (DecodeError.under stem) := by
  have hlonger := Decoder.decode_append_stem registry stem "" strict echo source s start
  rw [String.append_empty] at hlonger
  exact hlonger

end EnvSettings
