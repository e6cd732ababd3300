/-
What is left of a size that is written and read again.

Writing cuts a size down to tenths of its unit, and reading knows no decimal point. So it comes down
to the one digit that the text may show (`inUnit_eq`). If that digit is zero it is left out, the
text is a whole number of units, and reading gives these units back: the size without what did not
fill a unit (`ofText_decimal_zero`). If the digit is not zero, a point stands where reading expects
a suffix, and the form is refused (`ofText_decimal_of_ne_zero`).

The digit is zero exactly if ten times the remainder does not fill a unit. A remainder of less than
a tenth of the unit is thus lost without a word, and a larger one makes the text unreadable.
-/
import EnvSettings.Proofs.ByteSize.Writing

namespace EnvSettings.ByteSize

open EnvSettings.Number

-- ================================================================== unit

/-- The unit that a number of bytes is to be shown in: a byte for less than a KiB, and from there on
the largest unit that is filled. -/
def ShownIn (bytes unit : Nat) : Prop :=
  if bytes < 1024 then unit = 1
  else unit ∈ largeUnits.map Prod.snd ∧ unit ≤ bytes
    ∧ ∀ other ∈ largeUnits, other.2 ≤ bytes → other.2 ≤ unit

/-- There is one such unit, and it is the one that is shown. -/
theorem shownIn_iff {bytes unit : Nat} : ShownIn bytes unit ↔ unit = (shownUnit bytes).2 := by
  unfold ShownIn
  by_cases hsmall : bytes < 1024
  · rw [if_pos hsmall, shownUnit_of_lt hsmall]
  · rw [if_neg hsmall]
    have hlarge : 1024 ≤ bytes := by omega
    obtain ⟨hlisted, hfilled, -⟩ := shownUnit_of_le hlarge
    apply Iff.intro
    · intro ⟨hunit, hle, hlargest⟩
      obtain ⟨entry, hentry, rfl⟩ := List.mem_map.mp hunit
      have hup := hlargest _ hlisted hfilled
      have hdown := le_shownUnit hlarge hentry hle
      omega
    · intro heq
      rw [heq]
      exact ⟨List.mem_map_of_mem hlisted, hfilled, fun other => le_shownUnit hlarge⟩

-- ================================================================ reading

/-- Without a digit behind the point a number of units is read as so many bytes. -/
theorem ofText_decimal_zero {whole unit : Nat} {name : String}
    (hname : (name.toList, unit) ∈ suffixes) (hpos : 0 < unit) (hlt : whole * unit < 2 ^ 64) :
    ofText (decimal whole 0 ++ name) = .ok ⟨whole * unit, hlt⟩ := by
  have hlist : (decimal whole 0 ++ name).toList = Nat.toDigits 10 whole ++ name.toList := by
    simp [decimal]
  have hdigits : ∀ c ∈ Nat.toDigits 10 whole, c.isDigit = true := fun c hc =>
    Nat.isDigit_of_mem_toDigits (by decide) (by decide) hc
  have hwhole : whole < 2 ^ 64 := Nat.lt_of_le_of_lt (Nat.le_mul_of_pos_right whole hpos) hlt
  rw [ofText_of_append hlist Nat.toDigits_ne_nil hdigits hname]
  simp only [valueOf_toDigits, if_pos hwhole, dif_pos hlt]

/-- With a digit behind the point the form of the text is refused. -/
theorem ofText_decimal_of_ne_zero (whole : Nat) {tenth unit : Nat} {name : String}
    (hname : (name.toList, unit) ∈ suffixes) (htenth : tenth ≠ 0) :
    ofText (decimal whole tenth ++ name) = .error (.format (decimal whole tenth ++ name)) := by
  have hcut := spanDigits_decimal whole tenth (isDigit_head?_of_mem_suffixes hname)
  have hpoint : unitOf? ('.' :: (Nat.toDigits 10 tenth ++ name.toList)) = none := rfl
  unfold ofText
  rw [hcut]
  simp only [if_neg htenth, if_neg Nat.toDigits_ne_nil, hpoint]

/-- The digit behind the point is left out exactly if a tenth of the unit is not filled. -/
theorem digit_eq_zero_iff {unit : Nat} (hunit : 0 < unit) (bytes : Nat) :
    bytes % unit * 10 / unit = 0 ↔ 10 * (bytes % unit) < unit := by
  rw [Nat.div_eq_zero_iff]
  omega

/-- What is read of the text of a size. -/
theorem ofText_text (size : ByteSize) :
    ofText size.text
      = if 10 * (size.bytes % (shownUnit size.bytes).2) < (shownUnit size.bytes).2 then
          .ok ⟨size.bytes - size.bytes % (shownUnit size.bytes).2,
            Nat.lt_of_le_of_lt (Nat.sub_le _ _) size.bytes_lt⟩
        else .error (.format size.text) := by
  have hpos := shownUnit_pos size.bytes
  have hname := shownUnit_mem_suffixes size.bytes
  rw [text_eq, inUnit_eq]
  generalize shownUnit size.bytes = entry at *
  obtain ⟨name, unit⟩ := entry
  have hzero := digit_eq_zero_iff hpos size.bytes
  have hwhole : size.bytes / unit * unit = size.bytes - size.bytes % unit := by
    have hsplit := Nat.div_add_mod' size.bytes unit
    omega
  split
  · next hrest =>
      have hlt : size.bytes / unit * unit < 2 ^ 64 :=
        Nat.lt_of_le_of_lt (Nat.div_mul_le_self _ _) size.bytes_lt
      rw [hzero.mpr hrest, ofText_decimal_zero hname hpos hlt]
      simp only [hwhole]
  · next hrest => exact ofText_decimal_of_ne_zero _ hname fun h => hrest (hzero.mp h)

end EnvSettings.ByteSize

namespace EnvSettings

/-- What reading makes of the text of a size, by the bytes that do not fill the unit which the size
is shown in. If they are less than a tenth of the unit they are lost, so the size itself comes back
exactly if there are none; otherwise the form of the text is refused. No number of the text is ever
beyond 64 bits, and reading never gives a larger size. -/
theorem size_reread_from_text (size : ByteSize) {unit : Nat}
    (hunit : ByteSize.ShownIn size.bytes unit) :
    (10 * (size.bytes % unit) < unit →
        ∃ h, ByteSize.ofText size.text = .ok ⟨size.bytes - size.bytes % unit, h⟩)
      ∧ (unit ≤ 10 * (size.bytes % unit) →
        ByteSize.ofText size.text = .error (.format size.text))
      ∧ (ByteSize.ofText size.text = .ok size ↔ unit ∣ size.bytes)
      ∧ (∀ input, ByteSize.ofText size.text ≠ .error (.number input)
        ∧ ByteSize.ofText size.text ≠ .error (.overflow input))
      ∧ ∀ other, ByteSize.ofText size.text = .ok other → other.bytes ≤ size.bytes := by
  have hread := ByteSize.ofText_text size
  rw [← ByteSize.shownIn_iff.mp hunit] at hread
  have hpos : 0 < unit := by
    rw [ByteSize.shownIn_iff.mp hunit]
    exact ByteSize.shownUnit_pos _
  rw [hread, Nat.dvd_iff_mod_eq_zero]
  by_cases hrest : 10 * (size.bytes % unit) < unit
  · rw [if_pos hrest]
    refine ⟨fun _ => ⟨_, rfl⟩, fun hle => by omega, ?_, by simp, fun other h => ?_⟩
    · have hle := Nat.mod_le size.bytes unit
      have hback : (⟨size.bytes - size.bytes % unit,
          Nat.lt_of_le_of_lt (Nat.sub_le _ _) size.bytes_lt⟩ : ByteSize) = size
            ↔ size.bytes - size.bytes % unit = size.bytes := by
        cases size
        simp
      rw [Except.ok.injEq, hback]
      omega
    · rw [← Except.ok.inj h]
      exact Nat.sub_le _ _
  · rw [if_neg hrest]
    refine ⟨fun h => absurd h hrest, fun _ => rfl, ?_, by simp, fun other h => by cases h⟩
    simp only [reduceCtorEq, false_iff]
    omega

/-- A GiB and 50 MiB, of which the 50 MiB are lost, and half a KiB more than one, which shows. -/
theorem size_reread_from_text_gib :
    let v : ByteSize := ⟨2 ^ 30 + 50 * 2 ^ 20, by decide⟩
    let w : ByteSize := ⟨1536, by decide⟩
    ByteSize.ShownIn v.bytes (2 ^ 30) ∧ ByteSize.ShownIn w.bytes (2 ^ 10)
      ∧ (∃ h, ByteSize.ofText v.text = .ok ⟨2 ^ 30, h⟩)
      ∧ ByteSize.ofText w.text = .error (.format w.text) := by
  intro v w
  have hv : ByteSize.ShownIn v.bytes (2 ^ 30) := ByteSize.shownIn_iff.mpr (by decide)
  have hw : ByteSize.ShownIn w.bytes (2 ^ 10) := ByteSize.shownIn_iff.mpr (by decide)
  have hfilled : v.bytes - v.bytes % 2 ^ 30 = 2 ^ 30 := by decide
  refine ⟨hv, hw, ?_, ?_⟩
  · simpa only [hfilled] using (size_reread_from_text v hv).1 (by decide)
  · exact (size_reread_from_text w hw).2.1 (by decide)

end EnvSettings
