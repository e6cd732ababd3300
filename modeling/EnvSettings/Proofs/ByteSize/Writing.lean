/-
What the text of a size shows: a number of units with one decimal digit at most, which is the size
rounded down to tenths of the largest unit that the size fills (`Shows`). Read back as a rational
number of bytes (`denoted?`), the text never says more than the size, and a larger size never says
less.

# Why a larger unit does not set the text back

Rounding down to tenths of one unit keeps the order. Of two sizes shown in different units the
larger one fills a unit that the smaller one does not, and what is shown of a size is at least its
unit: it lies between the two (`tenthsShown_mono`).

# Numbers of 64 bits

Formatting multiplies twice: a unit by 1024, for where the next one starts, and a remainder by ten,
for the decimal digit. `text?` is formatting with both products checked, and neither check ever
fails (`text?_eq`).
-/
import EnvSettings.Proofs.ByteSize.Reading
import Mathlib.Algebra.Order.Field.Basic
import Mathlib.Algebra.Order.Field.Rat
import Mathlib.Data.Rat.Cast.Order
import Mathlib.Tactic.FieldSimp

namespace EnvSettings.ByteSize

open EnvSettings.Number

-- ================================================================== units

/-- The units that sizes are shown in from a KiB on. -/
def largeUnits : List (String × Nat) :=
  [("KiB", 1 <<< 10), ("MiB", 1 <<< 20), ("GiB", 1 <<< 30), ("TiB", 1 <<< 40), ("PiB", 1 <<< 50)]

/-- The unit that a number of bytes is shown in. -/
def shownUnit (bytes : Nat) : String × Nat :=
  if bytes < 1 <<< 10 then ("B", 1)
  else if bytes < 1 <<< 20 then ("KiB", 1 <<< 10)
  else if bytes < 1 <<< 30 then ("MiB", 1 <<< 20)
  else if bytes < 1 <<< 40 then ("GiB", 1 <<< 30)
  else if bytes < 1 <<< 50 then ("TiB", 1 <<< 40)
  else ("PiB", 1 <<< 50)

theorem inUnit_one (bytes : Nat) : inUnit bytes 1 = toString bytes := by
  unfold inUnit
  simp only [Nat.mod_one, Nat.zero_mul, Nat.div_one, if_true]

/-- A size is shown in its unit, with the unit's name behind the number. -/
theorem text_eq (size : ByteSize) :
    size.text = inUnit size.bytes (shownUnit size.bytes).2 ++ (shownUnit size.bytes).1 := by
  unfold text shownUnit
  dsimp only
  split_ifs
  · rw [inUnit_one]
    rfl
  all_goals rfl

theorem shownUnit_of_lt {bytes : Nat} (h : bytes < 1024) : shownUnit bytes = ("B", 1) :=
  if_pos h

/-- From a KiB on the unit is one of the large ones, which the size fills, and no size but those in
PiB fills 1024 of it. -/
theorem shownUnit_of_le {bytes : Nat} (h : 1024 ≤ bytes) :
    shownUnit bytes ∈ largeUnits ∧ (shownUnit bytes).2 ≤ bytes
      ∧ (bytes < 1024 * (shownUnit bytes).2 ∨ (shownUnit bytes).1 = "PiB") := by
  have hb : ¬bytes < 1 <<< 10 := Nat.not_lt.mpr h
  unfold shownUnit
  rw [if_neg hb]
  split_ifs with hmib hgib htib hpib
  · exact ⟨by decide, Nat.le_of_not_lt hb, Or.inl hmib⟩
  · exact ⟨by decide, Nat.le_of_not_lt hmib, Or.inl hgib⟩
  · exact ⟨by decide, Nat.le_of_not_lt hgib, Or.inl htib⟩
  · exact ⟨by decide, Nat.le_of_not_lt htib, Or.inl hpib⟩
  · exact ⟨by decide, Nat.le_of_not_lt hpib, Or.inr rfl⟩

/-- The large units go from 1024 up to a pebibyte, and sizes are read in them too. -/
theorem bounds_of_mem_largeUnits {entry : String × Nat} (hentry : entry ∈ largeUnits) :
    1024 ≤ entry.2 ∧ entry.2 ≤ 1 <<< 50 ∧ (entry.1.toList, entry.2) ∈ suffixes := by
  have hall : ∀ entry ∈ largeUnits,
      1024 ≤ entry.2 ∧ entry.2 ≤ 1 <<< 50 ∧ (entry.1.toList, entry.2) ∈ suffixes := by decide
  exact hall entry hentry

/-- A size is shown in the largest unit that it fills. -/
theorem le_shownUnit {bytes : Nat} (h : 1024 ≤ bytes) {other : String × Nat}
    (hother : other ∈ largeUnits) (hfilled : other.2 ≤ bytes) :
    other.2 ≤ (shownUnit bytes).2 := by
  have hapart : ∀ entry ∈ largeUnits, ∀ other ∈ largeUnits,
      other.2 ≤ entry.2 ∨ (1024 * entry.2 ≤ other.2 ∧ entry.1 ≠ "PiB") := by decide
  obtain ⟨hlisted, -, hbelow⟩ := shownUnit_of_le h
  rcases hapart _ hlisted _ hother with hle | ⟨hnext, hname⟩
  · exact hle
  · have hlt := hbelow.resolve_right hname
    omega

/-- Two sizes are shown in the same unit, or the larger one in a unit that the smaller one does not
fill. -/
theorem shownUnit_eq_or_lt {v w : Nat} (hle : v ≤ w) :
    shownUnit v = shownUnit w ∨ (v < (shownUnit w).2 ∧ (shownUnit w).2 ≤ w) := by
  have hinj : ∀ entry ∈ largeUnits, ∀ other ∈ largeUnits, entry.2 = other.2 → entry = other := by
    decide
  by_cases hw : w < 1024
  · rw [shownUnit_of_lt hw, shownUnit_of_lt (by omega)]
    exact Or.inl rfl
  · obtain ⟨hlisted, hfilled, -⟩ := shownUnit_of_le (Nat.le_of_not_lt hw)
    have hlarge := (bounds_of_mem_largeUnits hlisted).1
    by_cases hv : v < (shownUnit w).2
    · exact Or.inr ⟨hv, hfilled⟩
    · obtain ⟨hlisted', hfilled', -⟩ := shownUnit_of_le (show 1024 ≤ v by omega)
      have hup : (shownUnit w).2 ≤ (shownUnit v).2 :=
        le_shownUnit (by omega) hlisted (Nat.le_of_not_lt hv)
      have hdown : (shownUnit v).2 ≤ (shownUnit w).2 :=
        le_shownUnit (by omega) hlisted' (Nat.le_trans hfilled' hle)
      exact Or.inl (hinj _ hlisted' _ hlisted (Nat.le_antisymm hdown hup))

/-- A size is shown in a unit that sizes are read in. -/
theorem shownUnit_mem_suffixes (bytes : Nat) :
    ((shownUnit bytes).1.toList, (shownUnit bytes).2) ∈ suffixes := by
  by_cases h : bytes < 1024
  · rw [shownUnit_of_lt h]
    decide
  · exact (bounds_of_mem_largeUnits (shownUnit_of_le (Nat.le_of_not_lt h)).1).2.2

-- ================================================================= tenths

/-- The tenths of its unit that are shown of a number of bytes. -/
def tenthsShown (bytes : Nat) : Nat := bytes * 10 / (shownUnit bytes).2

theorem shownUnit_pos (bytes : Nat) : 0 < (shownUnit bytes).2 := by
  by_cases h : bytes < 1024
  · rw [shownUnit_of_lt h]
    decide
  · have hlarge := (bounds_of_mem_largeUnits (shownUnit_of_le (Nat.le_of_not_lt h)).1).1
    omega

/-- The tenths are those of the whole part and the digit behind the point. -/
theorem tenths_eq {unit : Nat} (hunit : 0 < unit) (bytes : Nat) :
    bytes * 10 / unit = bytes / unit * 10 + bytes % unit * 10 / unit := by
  have hsplit : bytes * 10 = bytes % unit * 10 + unit * (bytes / unit * 10) := by
    have hdiv := Nat.mod_add_div bytes unit
    calc bytes * 10 = (bytes % unit + unit * (bytes / unit)) * 10 := by rw [hdiv]
      _ = bytes % unit * 10 + unit * (bytes / unit * 10) := by ring
  rw [hsplit, Nat.add_mul_div_left _ _ hunit, Nat.add_comm]

/-- The digit behind the point is one. -/
theorem digit_lt_ten {unit : Nat} (hunit : 0 < unit) (bytes : Nat) :
    bytes % unit * 10 / unit < 10 := by
  have hless := Nat.mod_lt bytes hunit
  exact Nat.div_lt_of_lt_mul (by omega)

/-- Rounding down to tenths takes away less than one of them. -/
theorem tenths_bounds {unit : Nat} (hunit : 0 < unit) (bytes : Nat) :
    (bytes / unit * 10 + bytes % unit * 10 / unit) * unit ≤ bytes * 10
      ∧ bytes * 10 < (bytes / unit * 10 + bytes % unit * 10 / unit + 1) * unit := by
  rw [← tenths_eq hunit]
  refine ⟨Nat.div_mul_le_self _ _, ?_⟩
  rw [Nat.mul_comm _ unit]
  exact Nat.lt_mul_div_succ _ hunit

/-- The same bounds, with the tenths behind a point. -/
theorem rat_bounds {bytes unit whole tenth : Nat}
    (hlow : (whole * 10 + tenth) * unit ≤ bytes * 10)
    (hhigh : bytes * 10 < (whole * 10 + tenth + 1) * unit) :
    ((whole : ℚ) + (tenth : ℚ) / 10) * unit ≤ bytes
      ∧ (bytes : ℚ) < ((whole : ℚ) + (tenth : ℚ) / 10 + 1 / 10) * unit := by
  have hlow' : ((whole : ℚ) * 10 + tenth) * unit ≤ bytes * 10 := by exact_mod_cast hlow
  have hhigh' : (bytes : ℚ) * 10 < (whole * 10 + tenth + 1) * unit := by exact_mod_cast hhigh
  constructor
  · linarith
  · linarith

/-- A larger size is shown as no less. -/
theorem tenthsShown_mono {v w : Nat} (hle : v ≤ w) :
    tenthsShown v * (shownUnit v).2 ≤ tenthsShown w * (shownUnit w).2 := by
  unfold tenthsShown
  rcases shownUnit_eq_or_lt hle with hsame | ⟨hless, hfilled⟩
  · rw [hsame]
    exact Nat.mul_le_mul_right _ (Nat.div_le_div_right (Nat.mul_le_mul_right 10 hle))
  · -- the larger size fills its unit, which is more than the smaller size
    have hten : 10 ≤ w * 10 / (shownUnit w).2 := by
      rw [Nat.le_div_iff_mul_le (shownUnit_pos w)]
      omega
    calc v * 10 / (shownUnit v).2 * (shownUnit v).2
        ≤ v * 10 := Nat.div_mul_le_self _ _
      _ ≤ 10 * (shownUnit w).2 := by omega
      _ ≤ w * 10 / (shownUnit w).2 * (shownUnit w).2 := Nat.mul_le_mul_right _ hten

-- ================================================================== texts

/-- The bytes that a text denotes: a decimal number, with a fraction or without, of a unit. -/
def denoted? (text : String) : Option ℚ :=
  let (whole, rest) := spanDigits text.toList
  let (fraction, suffix) :=
    if rest.head? = some '.' then spanDigits rest.tail else ([], rest)
  if whole = [] then none
  else
    (unitOf? suffix).map fun unit =>
      ((valueOf 10 whole : ℚ) + (valueOf 10 fraction : ℚ) / 10 ^ fraction.length) * unit

/-- A number with one decimal digit, which is left out if it is zero. -/
def decimal (whole tenth : Nat) : String :=
  if tenth = 0 then toString whole else toString whole ++ "." ++ toString tenth

theorem inUnit_eq (bytes unit : Nat) :
    inUnit bytes unit = decimal (bytes / unit) (bytes % unit * 10 / unit) := rfl

/-- The digits in front of a decimal number are those of its whole part, and a point comes behind
them if there is a digit to show. -/
theorem spanDigits_decimal (whole tenth : Nat) {name : String}
    (hname : ∀ c ∈ name.toList.head?, c.isDigit = false) :
    spanDigits (decimal whole tenth ++ name).toList
      = (Nat.toDigits 10 whole,
          if tenth = 0 then name.toList
          else '.' :: (Nat.toDigits 10 tenth ++ name.toList)) := by
  have hdigits : ∀ c ∈ Nat.toDigits 10 whole, c.isDigit = true := fun c hc =>
    Nat.isDigit_of_mem_toDigits (by decide) (by decide) hc
  unfold decimal
  by_cases hzero : tenth = 0
  · have hlist : (toString whole ++ name).toList = Nat.toDigits 10 whole ++ name.toList := by simp
    rw [if_pos hzero, if_pos hzero, hlist]
    exact spanDigits_append hdigits hname
  · have hlist : (toString whole ++ "." ++ toString tenth ++ name).toList
        = Nat.toDigits 10 whole ++ '.' :: (Nat.toDigits 10 tenth ++ name.toList) := by
      simp
    rw [if_neg hzero, if_neg hzero, hlist]
    refine spanDigits_append hdigits fun c hc => ?_
    rw [← Option.some.inj hc]
    rfl

/-- A decimal number with a unit behind it denotes so many units. -/
theorem denoted?_decimal (whole : Nat) {tenth unit : Nat} {name : String} (htenth : tenth < 10)
    (hname : (name.toList, unit) ∈ suffixes) :
    denoted? (decimal whole tenth ++ name) = some (((whole : ℚ) + (tenth : ℚ) / 10) * unit) := by
  have hsuffix := isDigit_head?_of_mem_suffixes hname
  have hunit := unitOf?_eq_some_iff.mpr hname
  unfold denoted?
  rw [spanDigits_decimal whole tenth hsuffix]
  by_cases hzero : tenth = 0
  · have hpoint : name.toList.head? ≠ some '.' := by
      have hall : ∀ entry ∈ suffixes, entry.1.head? ≠ some '.' := by decide
      exact hall _ hname
    simp only [if_pos hzero, if_neg hpoint, if_neg Nat.toDigits_ne_nil, hunit, valueOf_toDigits]
    simp [hzero, valueOf]
  · have hcut : spanDigits (Nat.toDigits 10 tenth ++ name.toList)
        = (Nat.toDigits 10 tenth, name.toList) :=
      spanDigits_append
        (fun c hc => Nat.isDigit_of_mem_toDigits (by decide) (by decide) hc) hsuffix
    have hone : (Nat.toDigits 10 tenth).length = 1 := by
      rw [Nat.toDigits_of_lt_base htenth]
      rfl
    simp only [if_neg hzero, List.head?_cons, if_true, List.tail_cons, hcut,
      if_neg Nat.toDigits_ne_nil, hunit, valueOf_toDigits, hone]
    simp

/-- What the text of a size denotes. -/
theorem denoted?_text (size : ByteSize) :
    denoted? size.text
      = some (((tenthsShown size.bytes * (shownUnit size.bytes).2 : Nat) : ℚ) / 10) := by
  have hpos := shownUnit_pos size.bytes
  rw [text_eq, inUnit_eq, denoted?_decimal _ (digit_lt_ten hpos _) (shownUnit_mem_suffixes _),
    tenthsShown, tenths_eq hpos size.bytes]
  push_cast
  congr 1
  ring

-- ============================================================== what shows

/-- What the text of a size from a KiB on shows. -/
structure Shows (size : ByteSize) (name : String) (unit whole tenth : Nat) : Prop where
  /-- The unit is the largest that the size fills. -/
  listed : (name, unit) ∈ largeUnits
  filled : unit ≤ size.bytes
  largest : ∀ other ∈ largeUnits, other.2 ≤ size.bytes → other.2 ≤ unit
  /-- The text is a number with one decimal digit at most, and the unit's name. -/
  written : size.text = decimal whole tenth ++ name
  digit : tenth < 10
  denotes : denoted? size.text = some (((whole : ℚ) + (tenth : ℚ) / 10) * unit)
  /-- The number is that of the units, rounded down to tenths. -/
  lower : ((whole : ℚ) + (tenth : ℚ) / 10) * unit ≤ size.bytes
  upper : (size.bytes : ℚ) < ((whole : ℚ) + (tenth : ℚ) / 10 + 1 / 10) * unit
  one_le : 1 ≤ whole
  le_1023 : name ≠ "PiB" → whole ≤ 1023

/-- A size of 1024 bytes or more shows a unit, a whole and a tenth. -/
theorem exists_shows {size : ByteSize} (h : 1024 ≤ size.bytes) :
    ∃ name unit whole tenth, size.Shows name unit whole tenth := by
  obtain ⟨hlisted, hfilled, hbelow⟩ := shownUnit_of_le h
  have hpos := shownUnit_pos size.bytes
  have htext := text_eq size
  have hlargest := fun (other : String × Nat) (hother : other ∈ largeUnits) => le_shownUnit h hother
  generalize shownUnit size.bytes = entry at *
  obtain ⟨name, unit⟩ := entry
  have hdigit := digit_lt_ten hpos size.bytes
  have hdenoted := denoted?_decimal (size.bytes / unit) hdigit
    (bounds_of_mem_largeUnits hlisted).2.2
  rw [← inUnit_eq, ← htext] at hdenoted
  have hwhole : 1 ≤ size.bytes / unit := (Nat.one_le_div_iff hpos).mpr hfilled
  obtain ⟨hlow, hhigh⟩ := tenths_bounds hpos size.bytes
  obtain ⟨hlower, hupper⟩ := rat_bounds hlow hhigh
  refine ⟨name, unit, size.bytes / unit, size.bytes % unit * 10 / unit, hlisted, hfilled, hlargest,
    htext, hdigit, hdenoted, hlower, hupper, hwhole, fun hname => ?_⟩
  have hlt : size.bytes < unit * 1024 := Nat.mul_comm 1024 unit ▸ hbelow.resolve_right hname
  have hwhole' := Nat.div_lt_of_lt_mul hlt
  omega

-- ================================================== numbers of 64 bits

/-- The product of two numbers, if 64 bits hold it. -/
def checkedMul (a b : Nat) : Option Nat := if a * b < 1 <<< 64 then some (a * b) else none

/-- Formatting a number of bytes in a unit, with its product checked. -/
def inUnit? (bytes unit : Nat) : Option String :=
  (checkedMul (bytes % unit) 10).map fun scaled => decimal (bytes / unit) (scaled / unit)

/-- Formatting in the first of some units of which 1024 are not filled, or else in PiB, with all
products checked. -/
def textAmong? (bytes : Nat) : List (String × Nat) → Option String
  | [] => (inUnit? bytes (1 <<< 50)).map (· ++ "PiB")
  | (name, unit) :: rest =>
    (checkedMul unit 1024).bind fun next =>
      if bytes < next then (inUnit? bytes unit).map (· ++ name) else textAmong? bytes rest

/-- Formatting with all products checked. -/
def text? (size : ByteSize) : Option String :=
  if size.bytes < 1 <<< 10 then some (toString size.bytes ++ "B")
  else textAmong? size.bytes (largeUnits.take 4)

/-- The checked arithmetic of the digit behind the point does not overflow. -/
theorem inUnit?_eq {unit : Nat} (hpos : 0 < unit) (hunit : unit ≤ 1 <<< 50) (bytes : Nat) :
    inUnit? bytes unit = some (inUnit bytes unit) := by
  have hless := Nat.mod_lt bytes hpos
  have hsmall : bytes % unit * 10 < 1 <<< 64 := by omega
  unfold inUnit? checkedMul
  rw [if_pos hsmall]
  rfl

theorem textAmong?_cons {unit : Nat} (hpos : 0 < unit) (hunit : unit ≤ 1 <<< 40) (bytes : Nat)
    (name : String) (rest : List (String × Nat)) :
    textAmong? bytes ((name, unit) :: rest)
      = if bytes < unit * 1024 then some (inUnit bytes unit ++ name)
        else textAmong? bytes rest := by
  have hsmall : unit * 1024 < 1 <<< 64 := by omega
  have hnext : checkedMul unit 1024 = some (unit * 1024) := if_pos hsmall
  rw [textAmong?, hnext, inUnit?_eq hpos (by omega)]
  rfl

/-- No product of formatting is beyond 64 bits. -/
theorem text?_eq (size : ByteSize) : size.text? = some size.text := by
  unfold text? text
  have hunits : largeUnits.take 4
      = [("KiB", 1 <<< 10), ("MiB", 1 <<< 20), ("GiB", 1 <<< 30), ("TiB", 1 <<< 40)] := rfl
  rw [hunits, textAmong?_cons (by decide) (by decide), textAmong?_cons (by decide) (by decide),
    textAmong?_cons (by decide) (by decide), textAmong?_cons (by decide) (by decide), textAmong?,
    inUnit?_eq (by decide) (by decide)]
  simp only [apply_ite some]
  rfl

end EnvSettings.ByteSize

namespace EnvSettings

/-- What the text of a size says. Formatting stays within 64 bits. Below a KiB the text is the
number of bytes, and from there on the number of the largest unit that the size fills, rounded down
to tenths. So of two sizes the larger one is never shown as less, in whichever units the two are. -/
theorem text_accurate_and_monotone :
    (∀ size : ByteSize, size.text? = some size.text)
      ∧ (∀ size : ByteSize, size.bytes < 1024 → size.text = toString size.bytes ++ "B"
        ∧ ByteSize.denoted? size.text = some (size.bytes : ℚ))
      ∧ (∀ size : ByteSize, 1024 ≤ size.bytes →
        ∃ name unit whole tenth, size.Shows name unit whole tenth)
      ∧ ∀ v w : ByteSize, v.bytes ≤ w.bytes → ∃ x y,
        ByteSize.denoted? v.text = some x ∧ ByteSize.denoted? w.text = some y ∧ x ≤ y := by
  refine ⟨ByteSize.text?_eq, fun size h => ?_, fun _ => ByteSize.exists_shows, fun v w hle => ?_⟩
  · have hdenoted := ByteSize.denoted?_text size
    have htenths : ByteSize.tenthsShown size.bytes = size.bytes * 10 := by
      rw [ByteSize.tenthsShown, ByteSize.shownUnit_of_lt h, Nat.div_one]
    rw [htenths, ByteSize.shownUnit_of_lt h] at hdenoted
    refine ⟨?_, hdenoted.trans ?_⟩
    · rw [ByteSize.text_eq, ByteSize.shownUnit_of_lt h, ByteSize.inUnit_one]
    · simp
  · refine ⟨_, _, ByteSize.denoted?_text v, ByteSize.denoted?_text w, ?_⟩
    have hmono : ((ByteSize.tenthsShown v.bytes * (ByteSize.shownUnit v.bytes).2 : Nat) : ℚ)
        ≤ ((ByteSize.tenthsShown w.bytes * (ByteSize.shownUnit w.bytes).2 : Nat) : ℚ) :=
      Nat.cast_le.mpr (ByteSize.tenthsShown_mono hle)
    linarith

/-- The last size that is shown in bytes, and the largest size. -/
theorem text_accurate_and_monotone_ends :
    let v : ByteSize := ⟨1023, by decide⟩
    let w : ByteSize := ⟨1 <<< 64 - 1, by decide⟩
    v.text = "1023B" ∧ w.text = "16383.9PiB"
      ∧ (∃ name unit whole tenth, w.Shows name unit whole tenth)
      ∧ ∃ x y, ByteSize.denoted? v.text = some x ∧ ByteSize.denoted? w.text = some y ∧ x ≤ y := by
  intro v w
  obtain ⟨-, hbytes, hshows, hmono⟩ := text_accurate_and_monotone
  refine ⟨?_, by decide +kernel, hshows w (by decide), hmono v w (by decide)⟩
  rw [(hbytes v (by decide)).1]
  decide +kernel

end EnvSettings
