/-
Letter case among the characters of ASCII, where it is the plain one of letters: of each table only
its first entry counts there, since the others start beyond ASCII.
-/
import EnvSettings.Text.LetterCase

namespace EnvSettings.Text

-- ================================================================== codes

/-- What holds of the first 128 characters one by one holds of all characters among them. -/
theorem forall_ascii {p : Char → Prop} (hp : ∀ n < 128, p (Char.ofNat n)) {c : Char}
    (hc : c.toNat < 128) : p c := by
  have hcode := hp c.toNat hc
  rwa [Char.ofNat_toNat] at hcode

-- ================================================================= tables

theorem Stride.contains_eq_false {s : Stride} {n : Nat} (hn : n < s.first) :
    s.contains n = false := by
  unfold Stride.contains
  rw [decide_eq_false (Nat.not_le.mpr hn), Bool.false_and, Bool.false_and]

/-- Of a property whose strides start beyond ASCII, but for the first, only the first counts
there. -/
theorem inStrides_of_ascii {first : Stride} {others : List Stride}
    (hothers : ∀ s ∈ others, 128 ≤ s.first) {c : Char} (hc : c.toNat < 128) :
    inStrides (first :: others) c = first.contains c.toNat := by
  have hnone : others.any (·.contains c.toNat) = false := by
    rw [List.any_eq_false]
    intro s hs
    rw [Stride.contains_eq_false (Nat.lt_of_lt_of_le hc (hothers s hs))]
    exact Bool.false_ne_true
  unfold inStrides
  rw [List.any_cons, hnone, Bool.or_false]

/-- In ASCII the upper-case letters are the twenty-six. -/
theorem isUppercase_of_ascii {c : Char} (hc : c.toNat < 128) : isUppercase c = c.isUpper := by
  have hothers : ∀ s ∈ uppercaseStrides.tail, 128 ≤ s.first := by decide +kernel
  have hfirst : isUppercase c = Stride.contains ⟨0x41, 0x5a, 1⟩ c.toNat :=
    inStrides_of_ascii hothers hc
  rw [hfirst]
  refine forall_ascii (p := fun c => Stride.contains ⟨0x41, 0x5a, 1⟩ c.toNat = c.isUpper) ?_ hc
  decide +kernel

/-- In ASCII the lower-case letters are the twenty-six. -/
theorem isLowercase_of_ascii {c : Char} (hc : c.toNat < 128) : isLowercase c = c.isLower := by
  have hothers : ∀ s ∈ lowercaseStrides.tail, 128 ≤ s.first := by decide +kernel
  have hfirst : isLowercase c = Stride.contains ⟨0x61, 0x7a, 1⟩ c.toNat :=
    inStrides_of_ascii hothers hc
  rw [hfirst]
  refine forall_ascii (p := fun c => Stride.contains ⟨0x61, 0x7a, 1⟩ c.toNat = c.isLower) ?_ hc
  decide +kernel

/-- In ASCII only the small letters have another upper case, of which the first shift tells. -/
theorem upperOf_of_ascii {c : Char} (hc : c.toNat < 128) : upperOf c = [c.toUpper] := by
  have hexpansions : ∀ entry ∈ upperExpansions, 128 ≤ entry.1 := by decide +kernel
  have hshifts : ∀ shift ∈ upperShifts.tail, 128 ≤ shift.run.first := by decide +kernel
  have hletters : upperShifts = ⟨⟨0x61, 0x7a, 1⟩, -32⟩ :: upperShifts.tail := rfl
  have hplain : upperExpansions.lookup c.toNat = none := by
    rw [List.lookup_eq_none_iff]
    intro entry hentry
    exact bne_iff_ne.mpr (Nat.ne_of_lt (Nat.lt_of_lt_of_le hc (hexpansions entry hentry)))
  have hothers : upperShifts.tail.find? (·.run.contains c.toNat) = none := by
    rw [List.find?_eq_none]
    intro shift hshift
    rw [Stride.contains_eq_false (Nat.lt_of_lt_of_le hc (hshifts shift hshift))]
    exact Bool.false_ne_true
  have hupper : c.toUpper = if Stride.contains ⟨0x61, 0x7a, 1⟩ c.toNat then
      Char.ofNat (Int.toNat (c.toNat + -32)) else c := by
    refine forall_ascii (p := fun c => c.toUpper = if Stride.contains ⟨0x61, 0x7a, 1⟩ c.toNat then
      Char.ofNat (Int.toNat (c.toNat + -32)) else c) ?_ hc
    decide +kernel
  unfold upperOf
  rw [hplain, hletters, List.find?_cons, hothers, hupper]
  cases Stride.contains ⟨0x61, 0x7a, 1⟩ c.toNat with
  | true => rfl
  | false => rfl

end EnvSettings.Text
