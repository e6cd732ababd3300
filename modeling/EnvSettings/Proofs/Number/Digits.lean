/-
Digits, and the numbers that runs of them denote.

Which characters are digits and what they count for is written down in a table
(`digitValue?_eq_some_iff`), and a run of digits denotes what the library's `Nat.ofDigits` makes of
them, which takes the last digit first (`valueOf_eq_ofDigits`). Everything about longer runs comes
from one equation, `foldl_digits`: digits that follow push the number read so far up by as many
places as they have.
-/
import EnvSettings.Number.Digit
import EnvSettings.Proofs.Lists
import Mathlib.Data.List.Forall2
import Mathlib.Data.Nat.Digits.Defs
import Mathlib.Tactic.Linarith

namespace EnvSettings.Number

-- ================================================================= digits

/-- The digits with what they count for; those above nine are letters of either case. -/
def digitTable : List (Char × Nat) :=
  [('0', 0), ('1', 1), ('2', 2), ('3', 3), ('4', 4), ('5', 5), ('6', 6), ('7', 7), ('8', 8),
    ('9', 9), ('a', 10), ('b', 11), ('c', 12), ('d', 13), ('e', 14), ('f', 15), ('A', 10),
    ('B', 11), ('C', 12), ('D', 13), ('E', 14), ('F', 15)]

/-- The character is a digit of the radix and counts for this much. -/
def IsDigit (radix : Nat) (c : Char) (value : Nat) : Prop :=
  (c, value) ∈ digitTable ∧ value < radix

instance (radix : Nat) (c : Char) (value : Nat) : Decidable (IsDigit radix c value) :=
  inferInstanceAs (Decidable (_ ∧ _))

/-- Whatever is a digit in some radix stands in ASCII. -/
theorem toNat_lt_of_digitValue? {radix value : Nat} {c : Char}
    (h : digitValue? radix c = some value) : c.toNat < 128 := by
  unfold digitValue? at h
  obtain ⟨h, -⟩ := Option.filter_eq_some_iff.mp h
  have hbound : ∀ last : Char, c ≤ last → last.toNat < 128 → c.toNat < 128 :=
    fun last hc hlast => Nat.lt_of_le_of_lt hc hlast
  split at h
  · next hdigit => exact hbound '9' hdigit.2 (by decide)
  · split at h
    · next hsmall => exact hbound 'z' hsmall.2 (by decide)
    · split at h
      · next hcapital => exact hbound 'Z' hcapital.2 (by decide)
      · cases h

/-- A digit of a radix is a digit of every larger one, where others are digits too. -/
theorem digitValue?_eq_some_iff_of_le {radix larger value : Nat} (hle : radix ≤ larger) {c : Char} :
    digitValue? radix c = some value ↔ digitValue? larger c = some value ∧ value < radix := by
  unfold digitValue?
  simp only [Option.filter_eq_some_iff, decide_eq_true_eq]
  constructor
  · rintro ⟨h, hlt⟩
    exact ⟨⟨h, Nat.lt_of_lt_of_le hlt hle⟩, hlt⟩
  · rintro ⟨⟨h, -⟩, hlt⟩
    exact ⟨h, hlt⟩

/-- Up to radix sixteen the table tells which characters are digits. -/
theorem digitValue?_eq_some_iff {radix : Nat} (hradix : radix ≤ 16) {c : Char} {value : Nat} :
    digitValue? radix c = some value ↔ IsDigit radix c value := by
  have hlisted : ∀ entry ∈ digitTable, digitValue? 16 entry.1 = some entry.2 := by decide
  have hascii : ∀ n < 128, ∀ value ∈ digitValue? 16 (Char.ofNat n),
      (Char.ofNat n, value) ∈ digitTable := by decide
  rw [digitValue?_eq_some_iff_of_le hradix, IsDigit]
  refine and_congr_left fun _ => ⟨fun h => ?_, hlisted (c, value)⟩
  have hentry := hascii c.toNat (toNat_lt_of_digitValue? h)
  rw [Char.ofNat_toNat] at hentry
  exact hentry value h

/-- A character counts as a digit exactly if it is one of some value. -/
theorem isDigitOf_iff {radix : Nat} (hradix : radix ≤ 16) {c : Char} :
    isDigitOf radix c = true ↔ ∃ value, IsDigit radix c value := by
  unfold isDigitOf
  simp only [Option.isSome_iff_exists, digitValue?_eq_some_iff hradix]

/-- The digits of radix ten are the digits of ASCII. -/
theorem isDigitOf_ten (c : Char) : isDigitOf 10 c = c.isDigit := by
  have hlisted : ∀ entry ∈ digitTable, entry.2 < 10 → entry.1.isDigit = true := by decide
  have hascii : ∀ n < 58, (Char.ofNat n).isDigit = true → isDigitOf 10 (Char.ofNat n) = true := by
    decide
  rw [Bool.eq_iff_iff]
  constructor
  · intro hc
    obtain ⟨value, hentry, hlt⟩ := (isDigitOf_iff (by decide)).mp hc
    exact hlisted _ hentry hlt
  · intro hc
    have hrange : 48 ≤ c.toNat ∧ c.toNat ≤ 57 := Char.isDigit_iff_toNat.mp hc
    have hcode := hascii c.toNat (by omega)
    rw [Char.ofNat_toNat] at hcode
    exact hcode hc

/-- Digits are cut off where something else than a digit follows them. -/
theorem spanDigits_append {digits rest : List Char} (hdigits : ∀ c ∈ digits, c.isDigit = true)
    (hrest : ∀ c ∈ rest.head?, c.isDigit = false) :
    spanDigits (digits ++ rest) = (digits, rest) := by
  obtain ⟨hfront, hback⟩ := span_append hdigits hrest
  unfold spanDigits
  rw [hfront, hback]

/-- What is cut off are digits, and nothing is lost. -/
theorem of_spanDigits_eq {cs digits rest : List Char} (h : spanDigits cs = (digits, rest)) :
    (∀ c ∈ digits, c.isDigit = true) ∧ cs = digits ++ rest := by
  obtain ⟨rfl, rfl⟩ := Prod.mk.inj h
  exact ⟨fun c hc => List.mem_takeWhile_imp hc, List.takeWhile_append_dropWhile.symm⟩

-- ================================================================ numbers

variable {radix : Nat}

/-- Digits that follow push the number read so far up by as many places as they have. -/
theorem foldl_digits (n : Nat) (digits : List Char) :
    digits.foldl (fun n c => n * radix + (digitValue? radix c).getD 0) n
      = n * radix ^ digits.length + valueOf radix digits := by
  induction digits generalizing n with
  | nil => simp [valueOf]
  | cons c digits ih =>
      rw [valueOf, List.foldl_cons, List.foldl_cons, ih, ih (0 * radix + _), List.length_cons]
      ring

/-- Digits in front count for as many places as there are behind. -/
theorem valueOf_append (front back : List Char) :
    valueOf radix (front ++ back)
      = valueOf radix front * radix ^ back.length + valueOf radix back := by
  rw [valueOf, List.foldl_append, foldl_digits]
  rfl

theorem valueOf_cons (c : Char) (digits : List Char) :
    valueOf radix (c :: digits)
      = valueOf radix [c] * radix ^ digits.length + valueOf radix digits :=
  valueOf_append [c] digits

/-- A digit is worth less than the radix. -/
theorem valueOf_singleton_lt (hradix : 0 < radix) (c : Char) : valueOf radix [c] < radix := by
  show 0 * radix + (digitValue? radix c).getD 0 < radix
  cases hc : digitValue? radix c with
  | none => simpa using hradix
  | some value =>
      unfold digitValue? at hc
      have hlt := (Option.filter_eq_some_iff.mp hc).2
      simpa using hlt

/-- What digits denote stays below the radix to their number. -/
theorem valueOf_lt (hradix : 0 < radix) (digits : List Char) :
    valueOf radix digits < radix ^ digits.length := by
  induction digits with
  | nil => simp [valueOf]
  | cons c digits ih =>
      have hc := valueOf_singleton_lt hradix c
      rw [valueOf_cons, List.length_cons, pow_succ']
      nlinarith

/-- A fraction with its digits behind the point, cut off after some places: what is cut off comes to
less than one in the last of them. -/
theorem valueOf_mul_pow_div (hradix : 0 < radix) (digits : List Char) (places : Nat) :
    valueOf radix digits * radix ^ places / radix ^ digits.length
      = valueOf radix (digits.take places) * radix ^ (places - digits.length) := by
  by_cases hle : digits.length ≤ places
  · have hpow : radix ^ places = radix ^ (places - digits.length) * radix ^ digits.length := by
      rw [← pow_add, Nat.sub_add_cancel hle]
    rw [List.take_of_length_le hle, hpow, ← Nat.mul_assoc,
      Nat.mul_div_cancel _ (Nat.pow_pos hradix)]
  · have hlt : places ≤ digits.length := Nat.le_of_not_le hle
    have hcut : valueOf radix digits = valueOf radix (digits.take places)
        * radix ^ (digits.drop places).length + valueOf radix (digits.drop places) := by
      rw [← valueOf_append, List.take_append_drop]
    have hpow : radix ^ digits.length = radix ^ (digits.drop places).length * radix ^ places := by
      rw [← pow_add, List.length_drop, Nat.sub_add_cancel hlt]
    have hrest := valueOf_lt hradix (digits.drop places)
    rw [hcut, hpow, Nat.mul_div_mul_right _ _ (Nat.pow_pos hradix), Nat.sub_eq_zero_of_le hlt,
      pow_zero, Nat.mul_one, Nat.mul_comm, Nat.mul_add_div (Nat.pow_pos hradix),
      Nat.div_eq_of_lt hrest, Nat.add_zero]

theorem valueOf_singleton (hradix : radix ≤ 16) {c : Char} {value : Nat}
    (hc : IsDigit radix c value) : valueOf radix [c] = value := by
  show 0 * radix + (digitValue? radix c).getD 0 = value
  rw [(digitValue?_eq_some_iff hradix).mpr hc, Nat.zero_mul, Nat.zero_add, Option.getD_some]

/-- What digits denote, from what each of them counts for. -/
theorem valueOf_eq_ofDigits (hradix : radix ≤ 16) {digits : List Char} {values : List Nat}
    (h : List.Forall₂ (IsDigit radix) digits values) :
    valueOf radix digits = Nat.ofDigits radix values.reverse := by
  induction h with
  | nil => rfl
  | cons hc hdigits ih =>
      have hlength := hdigits.length_eq
      rw [valueOf_cons, ih, valueOf_singleton hradix hc, List.reverse_cons, Nat.ofDigits_append,
        Nat.ofDigits_singleton, List.length_reverse, hlength]
      ring

theorem isDigitOf_of_forall₂ (hradix : radix ≤ 16) {digits : List Char} {values : List Nat}
    (h : List.Forall₂ (IsDigit radix) digits values) : ∀ c ∈ digits, isDigitOf radix c = true := by
  induction h with
  | nil => exact fun c hc => absurd hc List.not_mem_nil
  | cons hc hdigits ih => exact List.forall_mem_cons.mpr ⟨(isDigitOf_iff hradix).mpr ⟨_, hc⟩, ih⟩

/-- Digits count for what they denote alone. -/
theorem forall₂_isDigit_map (hradix : radix ≤ 16) {digits : List Char}
    (h : ∀ c ∈ digits, isDigitOf radix c = true) :
    List.Forall₂ (IsDigit radix) digits (digits.map fun c => valueOf radix [c]) := by
  rw [List.forall₂_map_right_iff, List.forall₂_same]
  intro c hc
  obtain ⟨value, hvalue⟩ := (isDigitOf_iff hradix).mp (h c hc)
  rwa [valueOf_singleton hradix hvalue]

/-- The digits that a number is written in denote it. -/
theorem valueOf_toDigits (n : Nat) : valueOf 10 (Nat.toDigits 10 n) = n := by
  have hdigit : ∀ d < 10, valueOf 10 [Nat.digitChar d] = d := by decide
  induction n using Nat.strongRecOn with
  | _ n ih =>
      rw [Nat.toDigits_eq_if (by decide)]
      split
      · next hn => exact hdigit n hn
      · next hn =>
          have hlast := hdigit (n % 10) (Nat.mod_lt n (by decide))
          rw [valueOf_append, ih (n / 10) (by omega), hlast, List.length_singleton]
          omega

end EnvSettings.Number
