/-
The language of integer literals, said without the reader: a sign that the type allows, the mark of
a radix, and digits of that radix, which denote a number (`IntType.Denotes`). Proved is that the
reader takes these texts and no others, and gives the number if the type holds it
(`readInt_language`).

# Why the checks on the way do no harm

The reader asks after every digit whether the type still holds the number read so far, and gives up
where it does not. More digits move a number only further away from zero, and the type holds what
is closer to zero than something it holds (`inRange_of_le`). So the reader gives up exactly if the
whole number is too far away, and then on its own side of zero (`accumulate_eq`, by induction on
the digits, from any number the type holds).

# Why a literal is cut in one way

A digit is no sign, and the letter of a mark is no decimal digit. So neither a sign nor a mark can
be mistaken for digits (`IntLiteral.split_eq`), and a second sign stands where digits should start.
-/
import EnvSettings.Proofs.Number.Digits
import EnvSettings.Value.Reading

namespace EnvSettings.Number

-- =============================================================== language

/-- A number with the sign in front of it. -/
def signedValue (negative : Bool) (n : Nat) : Int := if negative then -n else n

/-- The signs of a literal, and whether they negate it. -/
def literalSigns : List (List Char × Bool) := [([], false), (['+'], false), (['-'], true)]

/-- The marks of the radices. Digits without a mark are decimal. -/
def radixMarks : List (List Char × Nat) :=
  [([], 10), (['0', 'x'], 16), (['0', 'X'], 16), (['0', 'o'], 8), (['0', 'O'], 8),
    (['0', 'b'], 2), (['0', 'B'], 2)]

/-- A literal of the type denotes a number, which it negates or not. Only the literals of a signed
type may do so. -/
inductive IntType.Denotes (t : IntType) : List Char → (negative : Bool) → Nat → Prop
  | literal {sign mark digits : List Char} {negative : Bool} {radix : Nat} {values : List Nat}
      (hsign : (sign, negative) ∈ literalSigns) (hsigned : negative = true → t.signed = true)
      (hmark : (mark, radix) ∈ radixMarks) (hne : digits ≠ [])
      (hdigits : List.Forall₂ (IsDigit radix) digits values) :
      Denotes t (sign ++ (mark ++ digits)) negative (Nat.ofDigits radix values.reverse)

/-- The type holds the number. -/
def IntType.InRange (t : IntType) (v : Int) : Prop := t.least ≤ v ∧ v ≤ t.greatest

instance (t : IntType) (v : Int) : Decidable (t.InRange v) :=
  inferInstanceAs (Decidable (_ ∧ _))

/-- The fault of a number that the type does not hold. -/
def rangeFault (negative : Bool) : IntFault := if negative then .tooSmall else .tooLarge

/-- The radixes that have a mark are at most 16. -/
theorem radix_of_mem_radixMarks {mark : List Char} {radix : Nat} (h : (mark, radix) ∈ radixMarks) :
    0 < radix ∧ radix ≤ 16 := by
  have hall : ∀ entry ∈ radixMarks, 0 < entry.2 ∧ entry.2 ≤ 16 := by decide
  exact hall _ h

-- ================================================================== range

variable {t : IntType} {radix : Nat} {negative : Bool}

/-- What is closer to zero than a number that the type holds, it holds as well. -/
theorem inRange_of_le {m n : Nat} (hle : m ≤ n) (h : t.InRange (signedValue negative n)) :
    t.InRange (signedValue negative m) := by
  obtain ⟨hleast, hgreatest⟩ := t.zero_inRange
  unfold IntType.InRange signedValue at *
  cases negative with
  | false =>
      simp only [Bool.false_eq_true, if_false] at h ⊢
      omega
  | true =>
      simp only [if_true] at h ⊢
      omega

/-- Taking in one more digit is the same below zero as above. -/
theorem signedValue_mul_add (n digit : Nat) :
    signedValue negative (n * radix + digit)
      = if negative then signedValue negative n * radix - digit
        else signedValue negative n * radix + digit := by
  unfold signedValue
  cases negative with
  | false =>
      simp only [Bool.false_eq_true, if_false]
      push_cast
      ring
  | true =>
      simp only [if_true]
      push_cast
      ring

/-- One digit is read if the type holds what it makes of the number. -/
theorem accumulate_cons {c : Char} {digit : Nat} (hdigit : digitValue? radix c = some digit)
    (acc : t.Value) (digits : List Char) :
    t.accumulate radix negative acc (c :: digits)
      = if h : t.InRange (if negative then acc.1 * radix - digit else acc.1 * radix + digit)
        then t.accumulate radix negative ⟨_, h⟩ digits else .error (rangeFault negative) := by
  rw [IntType.accumulate]
  simp only [hdigit]
  rfl

/-- Digits are read onto a number to what they make of it, if the type holds that. -/
theorem accumulate_eq (hradix : 0 < radix) {digits : List Char}
    (hdigits : ∀ c ∈ digits, isDigitOf radix c = true) {n : Nat} {acc : t.Value}
    (hacc : acc.1 = signedValue negative n) :
    t.accumulate radix negative acc digits
      = if h : t.InRange (signedValue negative (n * radix ^ digits.length + valueOf radix digits))
        then .ok ⟨_, h⟩ else .error (rangeFault negative) := by
  induction digits generalizing n acc with
  | nil =>
      have hn : n * radix ^ ([] : List Char).length + valueOf radix [] = n := by simp [valueOf]
      have hin : t.InRange (signedValue negative n) := hacc ▸ acc.2
      simp only [hn]
      rw [dif_pos hin]
      exact congrArg Except.ok (Subtype.ext hacc)
  | cons c digits ih =>
      obtain ⟨digit, hdigit⟩ := Option.isSome_iff_exists.mp (hdigits c List.mem_cons_self)
      have hrest := fun d hd => hdigits d (List.mem_cons_of_mem c hd)
      have hnext : (if negative then acc.1 * radix - digit else acc.1 * radix + digit)
          = signedValue negative (n * radix + digit) := by rw [hacc, signedValue_mul_add]
      have hwhole : n * radix ^ (c :: digits).length + valueOf radix (c :: digits)
          = (n * radix + digit) * radix ^ digits.length + valueOf radix digits := by
        have hsingle : valueOf radix [c] = digit := by simp [valueOf, hdigit]
        rw [valueOf_cons, hsingle, List.length_cons]
        ring
      simp only [hwhole]
      rw [accumulate_cons hdigit]
      by_cases hin : t.InRange (signedValue negative (n * radix + digit))
      · rw [dif_pos (hnext ▸ hin)]
        exact ih hrest hnext
      · -- the digits that follow do not bring the number back
        have hle : n * radix + digit
            ≤ (n * radix + digit) * radix ^ digits.length + valueOf radix digits :=
          Nat.le_trans (Nat.le_mul_of_pos_right _ (Nat.pow_pos hradix)) (Nat.le_add_right _ _)
        rw [dif_neg (hnext ▸ hin), dif_neg (mt (inRange_of_le hle) hin)]

/-- Only digits are read. -/
theorem isDigitOf_of_accumulate {digits : List Char} {acc v : t.Value}
    (h : t.accumulate radix negative acc digits = .ok v) :
    ∀ c ∈ digits, isDigitOf radix c = true := by
  induction digits generalizing acc with
  | nil => exact fun c hc => absurd hc List.not_mem_nil
  | cons c digits ih =>
      cases hdigit : digitValue? radix c with
      | none =>
          rw [IntType.accumulate, hdigit] at h
          cases h
      | some digit =>
          rw [accumulate_cons hdigit] at h
          by_cases hin : t.InRange
              (if negative then acc.1 * radix - digit else acc.1 * radix + digit)
          · rw [dif_pos hin] at h
            intro d hd
            rcases List.mem_cons.mp hd with rfl | hd
            · exact Option.isSome_iff_exists.mpr ⟨digit, hdigit⟩
            · exact ih h d hd
          · rw [dif_neg hin] at h
            cases h

-- ================================================================ cutting

/-- A sign is cut off, of which only the minus sign is kept. -/
theorem splitSign_append {sign cs : List Char} (hsign : (sign, negative) ∈ literalSigns)
    (hstart : sign = [] → startsWithSign cs = false) :
    splitSign (sign ++ cs) = (if negative then ['-'] else [], cs) := by
  simp only [literalSigns, List.mem_cons, Prod.mk.injEq, List.not_mem_nil, or_false] at hsign
  rcases hsign with ⟨rfl, rfl⟩ | ⟨rfl, rfl⟩ | ⟨rfl, rfl⟩
  · rw [List.nil_append]
    unfold splitSign
    split
    · cases hstart rfl
    · cases hstart rfl
    · rfl
  · rfl
  · rfl

/-- A text begins with one of the signs, the empty one included. -/
theorem exists_sign_splitSign (cs : List Char) :
    ∃ sign negative, (sign, negative) ∈ literalSigns ∧ cs = sign ++ (splitSign cs).2
      ∧ (splitSign cs).1 = if negative then ['-'] else [] := by
  unfold splitSign
  split
  · exact ⟨['-'], true, by decide, rfl, rfl⟩
  · exact ⟨['+'], false, by decide, rfl, rfl⟩
  · exact ⟨[], false, by decide, rfl, rfl⟩

/-- Whatever is cut off in front of digits is a mark, and the radix is the mark's. -/
theorem exists_mark_splitRadixMark (cs : List Char) :
    ∃ mark, (mark, (splitRadixMark cs).1) ∈ radixMarks ∧ cs = mark ++ (splitRadixMark cs).2 := by
  unfold splitRadixMark
  split
  · exact ⟨['0', 'x'], by simp [radixMarks], rfl⟩
  · exact ⟨['0', 'X'], by simp [radixMarks], rfl⟩
  · exact ⟨['0', 'o'], by simp [radixMarks], rfl⟩
  · exact ⟨['0', 'O'], by simp [radixMarks], rfl⟩
  · exact ⟨['0', 'b'], by simp [radixMarks], rfl⟩
  · exact ⟨['0', 'B'], by simp [radixMarks], rfl⟩
  · exact ⟨[], by simp [radixMarks], rfl⟩

/-- A mark is cut off, whatever stands behind it, and it is not taken for a sign. -/
theorem splitRadixMark_append_of_ne_nil {mark : List Char} (hmark : (mark, radix) ∈ radixMarks)
    (hne : mark ≠ []) (cs : List Char) :
    splitRadixMark (mark ++ cs) = (radix, cs) ∧ startsWithSign (mark ++ cs) = false := by
  simp only [radixMarks, List.mem_cons, Prod.mk.injEq, List.not_mem_nil, or_false] at hmark
  rcases hmark with ⟨rfl, rfl⟩ | ⟨rfl, rfl⟩ | ⟨rfl, rfl⟩ | ⟨rfl, rfl⟩ | ⟨rfl, rfl⟩ | ⟨rfl, rfl⟩ |
    ⟨rfl, rfl⟩
  case inl => exact absurd rfl hne
  all_goals exact ⟨rfl, rfl⟩

/-- Nothing is cut off from decimal digits. -/
theorem splitRadixMark_of_digits {digits : List Char}
    (hdigits : ∀ c ∈ digits, isDigitOf 10 c = true) : splitRadixMark digits = (10, digits) := by
  unfold splitRadixMark
  split
  case h_7 => rfl
  all_goals
    have hletter := hdigits _ (List.mem_cons_of_mem _ List.mem_cons_self)
    exact absurd hletter (by decide)

/-- A digit is no sign. -/
theorem startsWithSign_of_digits {digits : List Char} (hradix : radix ≤ 16)
    (hdigits : ∀ c ∈ digits, isDigitOf radix c = true) : startsWithSign digits = false := by
  have hlisted : ∀ entry ∈ digitTable, entry.1 ≠ '+' ∧ entry.1 ≠ '-' := by decide
  cases digits with
  | nil => rfl
  | cons c digits =>
      obtain ⟨value, hentry, -⟩ := (isDigitOf_iff hradix).mp (hdigits c List.mem_cons_self)
      obtain ⟨hplus, hminus⟩ := hlisted _ hentry
      unfold startsWithSign
      split
      · next h => exact absurd (List.cons.inj h).1 hplus
      · next h => exact absurd (List.cons.inj h).1 hminus
      · rfl

/-- A mark in front of its digits is cut off, and neither is taken for a sign. -/
theorem splitRadixMark_append {mark digits : List Char} (hmark : (mark, radix) ∈ radixMarks)
    (hdigits : ∀ c ∈ digits, isDigitOf radix c = true) :
    splitRadixMark (mark ++ digits) = (radix, digits)
      ∧ startsWithSign (mark ++ digits) = false := by
  by_cases hnone : mark = []
  · have hten : ∀ entry ∈ radixMarks, entry.1 = [] → entry.2 = 10 := by decide
    have hradix : radix = 10 := hten _ hmark hnone
    subst hradix hnone
    exact ⟨splitRadixMark_of_digits hdigits, startsWithSign_of_digits (by decide) hdigits⟩
  · exact splitRadixMark_append_of_ne_nil hmark hnone digits

-- ================================================================ reading

/-- A literal is cut where it was put together. -/
theorem IntLiteral.split_eq {sign mark digits : List Char}
    (hsign : (sign, negative) ∈ literalSigns) (hmark : (mark, radix) ∈ radixMarks)
    (hdigits : ∀ c ∈ digits, isDigitOf radix c = true) :
    IntLiteral.split (sign ++ (mark ++ digits))
      = ⟨if negative then ['-'] else [], digits, radix⟩ := by
  obtain ⟨hcut, hstart⟩ := splitRadixMark_append hmark hdigits
  unfold IntLiteral.split
  rw [splitSign_append hsign fun _ => hstart]
  simp only [hcut]

/-- Digits with or without a minus sign are read onto zero. -/
theorem ofNumeral_eq {digits : List Char} (hne : digits ≠ [])
    (hstart : startsWithSign digits = false) :
    t.ofNumeral radix ((if negative then ['-'] else []) ++ digits)
      = if negative = true → t.signed = true then t.accumulate radix negative t.zero digits
        else .error .invalidDigit := by
  cases negative with
  | false =>
      rw [if_pos (fun h => absurd h Bool.false_ne_true)]
      show t.ofNumeral radix digits = _
      unfold IntType.ofNumeral
      split
      · exact absurd rfl hne
      · cases hstart
      · cases hstart
      · rfl
  | true =>
      show t.ofNumeral radix ('-' :: digits) = _
      rw [IntType.ofNumeral, if_neg hne]
      simp only [forall_const]

/-- A literal is read as what it denotes, if the type holds that. -/
theorem ofLiteral_of_denotes {cs : List Char} {n : Nat} (hcs : t.Denotes cs negative n) :
    t.ofLiteral cs
      = if h : t.InRange (signedValue negative n) then .ok ⟨_, h⟩
        else .error (.numeral (rangeFault negative)) := by
  cases hcs with
  | @literal sign mark digits _ radix values hsign hsigned hmark hne hvalues =>
      obtain ⟨hpos, hsixteen⟩ := radix_of_mem_radixMarks hmark
      have hdigits := isDigitOf_of_forall₂ hsixteen hvalues
      have hstart := startsWithSign_of_digits hsixteen hdigits
      have hzero : t.zero.1 = signedValue negative 0 := by cases negative <;> rfl
      have hvalue : 0 * radix ^ digits.length + valueOf radix digits
          = Nat.ofDigits radix values.reverse := by
        rw [valueOf_eq_ofDigits hsixteen hvalues, Nat.zero_mul, Nat.zero_add]
      have hread := accumulate_eq hpos hdigits hzero
      simp only [hvalue] at hread
      unfold IntType.ofLiteral
      rw [IntLiteral.split_eq hsign hmark hdigits]
      simp only [hstart, Bool.false_eq_true, if_false]
      rw [ofNumeral_eq hne hstart, if_pos hsigned, hread]
      by_cases hin : t.InRange (signedValue negative (Nat.ofDigits radix values.reverse))
      · rw [dif_pos hin, dif_pos hin]
      · rw [dif_neg hin, dif_neg hin]

/-- What is read is a literal. -/
theorem denotes_of_ofLiteral {cs : List Char} {v : t.Value} (h : t.ofLiteral cs = .ok v) :
    ∃ negative n, t.Denotes cs negative n := by
  obtain ⟨sign, negative, hsign, hcs, hkept⟩ := exists_sign_splitSign cs
  obtain ⟨mark, hmark, hrest⟩ := exists_mark_splitRadixMark (splitSign cs).2
  have hsplit : IntLiteral.split cs = ⟨if negative then ['-'] else [],
      (splitRadixMark (splitSign cs).2).2, (splitRadixMark (splitSign cs).2).1⟩ := by
    rw [← hkept]
    rfl
  rw [hrest] at hcs
  generalize (splitRadixMark (splitSign cs).2).1 = radix at *
  generalize (splitRadixMark (splitSign cs).2).2 = digits at *
  unfold IntType.ofLiteral at h
  simp only [hsplit] at h
  cases hstart : startsWithSign digits with
  | true =>
      rw [hstart, if_pos rfl] at h
      cases h
  | false =>
      rw [hstart, if_neg Bool.false_ne_true] at h
      by_cases hne : digits = []
      · -- a sign alone, or nothing
        subst hne
        cases negative <;> cases h
      · rw [ofNumeral_eq hne hstart] at h
        by_cases hsigned : negative = true → t.signed = true
        · rw [if_pos hsigned] at h
          cases hread : t.accumulate radix negative t.zero digits with
          | error fault =>
              rw [hread] at h
              cases h
          | ok read =>
              obtain ⟨-, hsixteen⟩ := radix_of_mem_radixMarks hmark
              have hdigits := forall₂_isDigit_map hsixteen (isDigitOf_of_accumulate hread)
              rw [hcs]
              exact ⟨negative, _, .literal hsign hsigned hmark hne hdigits⟩
        · rw [if_neg hsigned] at h
          cases h

/-- A second sign stands where digits should start, be it in front of a mark or behind it. -/
theorem ofLiteral_of_secondSign {sign mark rest : List Char} {second : Char}
    (hsign : (sign, negative) ∈ literalSigns) (hmark : (mark, radix) ∈ radixMarks)
    (hsecond : second = '+' ∨ second = '-') (hfirst : sign ≠ [] ∨ mark ≠ []) :
    t.ofLiteral (sign ++ (mark ++ second :: rest)) = .error .secondSign := by
  have hstart : startsWithSign (second :: rest) = true := by
    rcases hsecond with rfl | rfl <;> rfl
  have hdigits : (IntLiteral.split (sign ++ (mark ++ second :: rest))).digits = second :: rest := by
    unfold IntLiteral.split
    by_cases hnone : mark = []
    · have hcut : splitRadixMark (second :: rest) = (10, second :: rest) := by
        rcases hsecond with rfl | rfl <;> rfl
      rw [hnone, List.nil_append,
        splitSign_append hsign fun h => absurd hnone (hfirst.resolve_left fun hne => hne h)]
      simp only [hcut]
    · obtain ⟨hcut, hplain⟩ := splitRadixMark_append_of_ne_nil hmark hnone (second :: rest)
      rw [splitSign_append hsign fun _ => hplain]
      simp only [hcut]
  unfold IntType.ofLiteral
  simp only [hdigits, hstart, if_true]

end EnvSettings.Number

namespace EnvSettings

open EnvSettings.Number

/-- The language of integer literals. A reading gives a number of the type exactly if the text is a
literal of the type that denotes it. A literal that denotes a number beyond the type's range is
refused as too large, or as too small if it has a minus sign, and whatever is no literal is refused
too; so is every text with a second sign, in front of the mark of its radix or behind it. -/
theorem readInt_language (t : IntType) (raw : String) :
    (∀ v : t.Value, readInt t raw = .ok v
        ↔ ∃ negative n, t.Denotes raw.toList negative n ∧ v.1 = signedValue negative n)
      ∧ (∀ negative n, t.Denotes raw.toList negative n →
        ¬ (t.least ≤ signedValue negative n ∧ signedValue negative n ≤ t.greatest) →
        readInt t raw = .error (.int raw (if negative then .tooSmall else .tooLarge)))
      ∧ ((∀ negative n, ¬ t.Denotes raw.toList negative n) → ∃ e, readInt t raw = .error e)
      ∧ ∀ sign negative mark radix second rest, (sign, negative) ∈ literalSigns →
        (mark, radix) ∈ radixMarks → second = '+' ∨ second = '-' → sign ≠ [] ∨ mark ≠ [] →
        raw.toList = sign ++ (mark ++ second :: rest) →
        readInt t raw = .error (.invalid raw "invalid syntax") := by
  have haccepted : ∀ v : t.Value, readInt t raw = .ok v ↔ t.ofLiteral raw.toList = .ok v := by
    intro v
    unfold readInt
    cases t.ofLiteral raw.toList with
    | ok read => simp
    | error fault => cases fault <;> simp
  refine ⟨fun v => ?_, fun negative n hraw hout => ?_, fun hnone => ?_, ?_⟩
  · rw [haccepted]
    constructor
    · intro hread
      obtain ⟨negative, n, hraw⟩ := denotes_of_ofLiteral hread
      rw [ofLiteral_of_denotes hraw] at hread
      by_cases hin : t.InRange (signedValue negative n)
      · rw [dif_pos hin] at hread
        refine ⟨negative, n, hraw, ?_⟩
        rw [← Except.ok.inj hread]
      · rw [dif_neg hin] at hread
        cases hread
    · rintro ⟨negative, n, hraw, hv⟩
      have hin : t.InRange (signedValue negative n) := hv ▸ v.2
      rw [ofLiteral_of_denotes hraw, dif_pos hin]
      exact congrArg Except.ok (Subtype.ext hv.symm)
  · have hbeyond : ¬ t.InRange (signedValue negative n) := hout
    unfold readInt
    rw [ofLiteral_of_denotes hraw, dif_neg hbeyond]
    rfl
  · cases hread : readInt t raw with
    | error e => exact ⟨e, rfl⟩
    | ok v =>
        obtain ⟨negative, n, hraw⟩ := denotes_of_ofLiteral ((haccepted v).mp hread)
        exact absurd hraw (hnone negative n)
  · intro sign negative mark radix second rest hsign hmark hsecond hfirst hraw
    unfold readInt
    rw [hraw, ofLiteral_of_secondSign hsign hmark hsecond hfirst]

/-- One below the least number of eight bits with a sign, and a sign behind the mark. -/
theorem readInt_language_edges :
    let t : IntType := ⟨true, .bits8⟩
    t.Denotes "-0x081".toList true 129
      ∧ readInt t "-0x081" = .error (.int "-0x081" .tooSmall)
      ∧ readInt t "0X-5" = .error (.invalid "0X-5" "invalid syntax") := by
  intro t
  have hdenotes : t.Denotes "-0x081".toList true 129 := by
    have hdigits : List.Forall₂ (IsDigit 16) ['0', '8', '1'] [0, 8, 1] :=
      .cons (by decide) (.cons (by decide) (.cons (by decide) .nil))
    have hliteral : t.Denotes (['-'] ++ (['0', 'x'] ++ ['0', '8', '1'])) true
        (Nat.ofDigits 16 [0, 8, 1].reverse) :=
      .literal (by decide) (fun _ => rfl) (by decide) (List.cons_ne_nil _ _) hdigits
    exact hliteral
  refine ⟨hdenotes, ?_, ?_⟩
  · exact (readInt_language t "-0x081").2.1 true 129 hdenotes (by decide)
  · exact (readInt_language t "0X-5").2.2.2 [] false ['0', 'X'] 16 '-' ['5'] (by decide) (by decide)
      (Or.inr rfl) (Or.inr (List.cons_ne_nil _ _)) rfl

end EnvSettings
