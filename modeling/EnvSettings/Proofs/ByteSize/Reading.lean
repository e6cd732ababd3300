/-
The texts that are sizes, said without the reader: decimal digits, at least one, and the suffix of
a unit behind them (`ByteSize.Counts`). Proved is that the reader refuses the form of every other
text, and that of a text of this form it gives the number of bytes, or says which of the two
numbers, the one written or the one of bytes, is beyond 64 bits (`ofText_outcomes`).

No suffix starts with a digit, so digits and suffix can be told apart in one way only, and the
reader cuts a text where it was put together (`spanDigits_append`).
-/
import EnvSettings.ByteSize
import EnvSettings.Proofs.Number.Digits

namespace EnvSettings.ByteSize

open EnvSettings.Number

-- =============================================================== language

/-- The suffixes with the bytes of their units. A number without a suffix counts bytes. -/
def suffixes : List (List Char × Nat) :=
  [([], 1), (['B'], 1), (['K', 'i', 'B'], 2 ^ 10), (['M', 'i', 'B'], 2 ^ 20),
    (['G', 'i', 'B'], 2 ^ 30), (['T', 'i', 'B'], 2 ^ 40), (['P', 'i', 'B'], 2 ^ 50)]

/-- A text counts a number of units: it has the number in decimal digits, and the unit's suffix
behind them. -/
inductive Counts : List Char → (number unit : Nat) → Prop
  | suffixed {digits suffix : List Char} {values : List Nat} {unit : Nat}
      (hne : digits ≠ []) (hdigits : List.Forall₂ (IsDigit 10) digits values)
      (hsuffix : (suffix, unit) ∈ suffixes) :
      Counts (digits ++ suffix) (Nat.ofDigits 10 values.reverse) unit

/-- Digits before a suffix count so many of its unit. -/
theorem Counts.of_all {digits : List Char} (suffix : List Char) {unit : Nat} (hne : digits ≠ [])
    (hdigits : digits.all (isDigitOf 10) = true) (hsuffix : (suffix, unit) ∈ suffixes) :
    Counts (digits ++ suffix)
      (Nat.ofDigits 10 (digits.map fun c => valueOf 10 [c]).reverse) unit :=
  .suffixed hne (forall₂_isDigit_map (by decide) (List.all_eq_true.mp hdigits)) hsuffix

-- =================================================================== cuts

/-- The unit of a suffix is the one in the table. -/
theorem unitOf?_eq_some_iff {suffix : List Char} {unit : Nat} :
    unitOf? suffix = some unit ↔ (suffix, unit) ∈ suffixes := by
  have hlisted : ∀ entry ∈ suffixes, unitOf? entry.1 = some entry.2 := by decide
  refine ⟨fun h => ?_, hlisted (suffix, unit)⟩
  unfold unitOf? at h
  split at h
  case h_8 => cases h
  all_goals
    rw [← Option.some.inj h]
    decide

/-- No suffix begins with a digit. -/
theorem isDigit_head?_of_mem_suffixes {suffix : List Char} {unit : Nat}
    (hsuffix : (suffix, unit) ∈ suffixes) : ∀ c ∈ suffix.head?, c.isDigit = false := by
  have hlisted : ∀ entry ∈ suffixes, entry.1.head?.any Char.isDigit = false := by decide
  exact Option.any_eq_false _ _ |>.mp (hlisted _ hsuffix)

/-- What is read of digits with a unit behind them, by the number that they denote. -/
theorem ofText_of_append {input : String} {digits suffix : List Char} {unit : Nat}
    (hinput : input.toList = digits ++ suffix) (hne : digits ≠ [])
    (hdigits : ∀ c ∈ digits, c.isDigit = true) (hsuffix : (suffix, unit) ∈ suffixes) :
    ofText input
      = if valueOf 10 digits < 2 ^ 64 then
          if h : valueOf 10 digits * unit < 2 ^ 64 then .ok ⟨valueOf 10 digits * unit, h⟩
          else .error (.overflow input)
        else .error (.number input) := by
  have hcut := spanDigits_append hdigits (isDigit_head?_of_mem_suffixes hsuffix)
  unfold ofText
  simp only [hinput, hcut, if_neg hne, unitOf?_eq_some_iff.mpr hsuffix]
  rfl

/-- A text whose form is not refused counts something. -/
theorem exists_counts_of_ne_format {input : String} (h : ofText input ≠ .error (.format input)) :
    ∃ number unit, Counts input.toList number unit := by
  unfold ofText at h
  cases hcut : spanDigits input.toList with
  | mk digits suffix =>
      obtain ⟨hdigits, hinput⟩ := of_spanDigits_eq hcut
      simp only [hcut] at h
      by_cases hne : digits = []
      · rw [if_pos hne] at h
        exact absurd rfl h
      · rw [if_neg hne] at h
        cases hunit : unitOf? suffix with
        | none =>
            rw [hunit] at h
            exact absurd rfl h
        | some unit =>
            have hten : ∀ c ∈ digits, isDigitOf 10 c = true := fun c hc =>
              (isDigitOf_ten c).trans (hdigits c hc)
            have hvalues := forall₂_isDigit_map (by decide) hten
            rw [hinput]
            exact ⟨_, _, .suffixed hne hvalues (unitOf?_eq_some_iff.mp hunit)⟩

/-- What is read of a text that counts a number of units. -/
theorem ofText_of_counts {input : String} {number unit : Nat}
    (hcounts : Counts input.toList number unit) :
    ofText input
      = if number < 2 ^ 64 then
          if h : number * unit < 2 ^ 64 then .ok ⟨number * unit, h⟩ else .error (.overflow input)
        else .error (.number input) := by
  generalize hinput : input.toList = cs at hcounts
  cases hcounts with
  | suffixed hne hvalues hsuffix =>
      have hdigits : ∀ c ∈ _, Char.isDigit c = true := fun c hc =>
        (isDigitOf_ten c).symm.trans (isDigitOf_of_forall₂ (by decide) hvalues c hc)
      rw [ofText_of_append hinput hne hdigits hsuffix]
      simp only [valueOf_eq_ofDigits (by decide) hvalues]

end EnvSettings.ByteSize

namespace EnvSettings

open EnvSettings.Number

/-- How the reading of a size ends. The form of a text that counts nothing is refused, whatever its
digits denote. If a text counts a number of units, the number is refused where it is beyond 64 bits;
where it is not, the product with the unit is refused if that is beyond 64 bits, and else it is the
answer. -/
theorem ofText_outcomes (input : String) :
    ((∀ number unit, ¬ ByteSize.Counts input.toList number unit) →
        ByteSize.ofText input = .error (.format input))
      ∧ ∀ number unit, ByteSize.Counts input.toList number unit →
        (2 ^ 64 - 1 < number → ByteSize.ofText input = .error (.number input))
        ∧ (number ≤ 2 ^ 64 - 1 → 2 ^ 64 - 1 < number * unit →
          ByteSize.ofText input = .error (.overflow input))
        ∧ (number ≤ 2 ^ 64 - 1 → number * unit ≤ 2 ^ 64 - 1 →
          ∃ h, ByteSize.ofText input = .ok ⟨number * unit, h⟩) := by
  constructor
  · intro hnone
    by_contra hform
    obtain ⟨number, unit, hcounts⟩ := ByteSize.exists_counts_of_ne_format hform
    exact hnone number unit hcounts
  · intro number unit hcounts
    rw [ByteSize.ofText_of_counts hcounts]
    refine ⟨fun hnumber => ?_, fun hnumber hproduct => ?_, fun hnumber hproduct => ?_⟩
    · rw [if_neg (by omega)]
    · rw [if_pos (by omega), dif_neg (by omega)]
    · have hlt : number * unit < 2 ^ 64 := by omega
      exact ⟨hlt, by rw [if_pos (by omega), dif_pos hlt]⟩

/-- The least number of KiB that is beyond 64 bits in bytes, and the least number that is so by
itself. -/
theorem ofText_outcomes_edges :
    ByteSize.Counts "18014398509481984KiB".toList 18014398509481984 (2 ^ 10)
      ∧ ByteSize.ofText "18014398509481984KiB" = .error (.overflow "18014398509481984KiB")
      ∧ ByteSize.Counts "018446744073709551616B".toList 18446744073709551616 1
      ∧ ByteSize.ofText "018446744073709551616B" = .error (.number "018446744073709551616B") := by
  have hkib : ByteSize.Counts ("18014398509481984".toList ++ ['K', 'i', 'B']) 18014398509481984
      (2 ^ 10) := .of_all _ (by decide) (by decide) (by decide)
  have hbytes : ByteSize.Counts ("018446744073709551616".toList ++ ['B']) 18446744073709551616 1 :=
    .of_all _ (by decide) (by decide) (by decide)
  refine ⟨hkib, ?_, hbytes, ?_⟩
  · exact ((ofText_outcomes "18014398509481984KiB").2 _ _ hkib).2.1 (by decide) (by decide)
  · exact ((ofText_outcomes "018446744073709551616B").2 _ _ hbytes).1 (by decide)

end EnvSettings
