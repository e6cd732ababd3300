/-
The language of durations, said without the reader: a text is spelled by segments, each of which
has digits, a point among or around them if it likes, and one of the units; its worth is the sum
of what the segments are worth. Proved is that the reader takes this language and no other, to
just this worth (`readDuration_language`).

# Why a text is spelled in one way

A unit has no digit and no point in it, and a segment starts with one of the two. So where a
segment ends can be seen from the text, and cutting off as much as fits into a segment cuts off
that segment (`Segment.split_append`). With that the reader's cuts are the only segments that may
spell a text (`segments_of_spells`), and they do if each is well-formed (`spells_segments`).

# Why the checks on the way do no harm

The reader gives up as soon as a segment or the sum so far reaches `wideLimit`. What is added is
never negative, so the whole sum is then as large or larger, and out of range for the narrower
limit at the end (`sumSegments_eq`).
-/
import EnvSettings.Proofs.Number.Digits
import EnvSettings.Value.Reading
import Mathlib.Data.Nat.Cast.Order.Field
import Mathlib.Data.List.TakeWhile

namespace EnvSettings.Time.Duration

open EnvSettings.Number

-- =============================================================== language

/-- The units with their lengths in nanoseconds, the microsecond in three spellings. -/
def units : List (List Char × Nat) :=
  [(['n', 's'], 1), (['u', 's'], 1000), (['\u00b5', 's'], 1000), (['\u03bc', 's'], 1000),
    (['m', 's'], 1000000), (['s'], 1000000000), (['m'], 60 * 1000000000),
    (['h'], 3600 * 1000000000)]

/-- A segment has digits before or behind its point, and nothing else there, and it has a unit. -/
structure Segment.WellFormed (segment : Segment) : Prop where
  whole : ∀ c ∈ segment.whole, c.isDigit = true
  fraction : ∀ c ∈ segment.fraction, c.isDigit = true
  digits : segment.whole ≠ [] ∨ segment.fraction ≠ []
  unit : segment.unit ∈ units.map Prod.fst

theorem Segment.wellFormed_of_all {segment : Segment}
    (hwhole : segment.whole.all Char.isDigit = true)
    (hfraction : segment.fraction.all Char.isDigit = true)
    (hdigits : segment.whole ≠ [] ∨ segment.fraction ≠ [])
    (hunit : segment.unit ∈ units.map Prod.fst) : segment.WellFormed :=
  ⟨List.all_eq_true.mp hwhole, List.all_eq_true.mp hfraction, hdigits, hunit⟩

/-- How a segment is written: without a fraction it needs no point. -/
inductive Segment.Writes : Segment → List Char → Prop
  | plain {whole unit : List Char} : Writes ⟨whole, [], unit⟩ (whole ++ unit)
  | pointed {whole fraction unit : List Char} :
      Writes ⟨whole, fraction, unit⟩ (whole ++ '.' :: (fraction ++ unit))

/-- A text is what well-formed segments write one after the other. -/
inductive Spells : List Segment → List Char → Prop
  | nil : Spells [] []
  | cons {segment : Segment} {segments : List Segment} {text rest : List Char}
      (fine : segment.WellFormed) (written : segment.Writes text) (spelled : Spells segments rest) :
      Spells (segment :: segments) (text ++ rest)

/-- The length of a segment's unit. -/
def Segment.scale (segment : Segment) : Nat := (units.lookup segment.unit).getD 0

/-- What a segment is worth: its whole part times the unit and, for the digit in each place of the
fraction, the digit times the unit divided by ten as often and rounded down. -/
def Segment.worth (segment : Segment) : Nat :=
  valueOf 10 segment.whole * segment.scale
    + (segment.fraction.mapIdx fun k c => valueOf 10 [c] * (segment.scale / 10 ^ (k + 1))).sum

/-- What segments are worth together. -/
def total (segments : List Segment) : Nat := (segments.map Segment.worth).sum

/-- A text without the plus sign in front of it, if there is one. -/
def withoutPlus : List Char → List Char
  | '+' :: rest => rest
  | cs => cs

-- ================================================================== units

/-- The scale of a unit is the one in the table. -/
theorem unitScale?_eq_lookup (unit : List Char) : unitScale? unit = units.lookup unit := by
  unfold unitScale?
  split
  case h_9 hns hus hmicro hmu hms hs hm hh =>
    symm
    rw [List.lookup_eq_none_iff]
    intro entry hentry
    simp only [units, List.mem_cons, List.not_mem_nil, or_false] at hentry
    rcases hentry with rfl | rfl | rfl | rfl | rfl | rfl | rfl | rfl
    all_goals simp_all
  all_goals rfl

/-- A unit is not empty, and nothing in it starts a segment. -/
theorem startsSegment_of_mem_unit :
    ∀ unit ∈ units.map Prod.fst, unit ≠ [] ∧ ∀ c ∈ unit, startsSegment c = false := by
  have hunits : ∀ unit ∈ units.map Prod.fst, unit ≠ [] ∧ unit.all (!startsSegment ·) = true := by
    decide
  intro unit hunit
  obtain ⟨hne, hall⟩ := hunits unit hunit
  exact ⟨hne, fun c hc => (Bool.not_eq_true' _).mp (List.all_eq_true.mp hall c hc)⟩

theorem not_startsSegment_iff {c : Char} :
    startsSegment c = false ↔ c.isDigit = false ∧ c ≠ '.' := by
  unfold startsSegment
  rw [Bool.or_eq_false_iff, decide_eq_false_iff_not]

-- =============================================================== one cut

theorem spanFraction_of_head? {cs : List Char} (hcs : cs.head? ≠ some '.') :
    spanFraction cs = ([], cs) := by
  unfold spanFraction
  split
  · next rest => exact absurd rfl hcs
  · rfl

section

variable {segment : Segment} {text rest : List Char}

/-- A segment starts with a digit or its point. -/
theorem Segment.Writes.starts (written : segment.Writes text) (fine : segment.WellFormed) :
    ∃ c more, text = c :: more ∧ startsSegment c = true := by
  obtain ⟨hwhole, -, hdigits, -⟩ := fine
  have hdigit : ∀ c ∈ segment.whole, startsSegment c = true := by
    intro c hc
    rw [startsSegment, hwhole c hc, Bool.true_or]
  cases written with
  | @plain whole unit =>
      cases whole with
      | nil => simp at hdigits
      | cons c whole => exact ⟨c, _, rfl, hdigit c List.mem_cons_self⟩
  | @pointed whole fraction unit =>
      cases whole with
      | nil => exact ⟨'.', _, rfl, rfl⟩
      | cons c whole => exact ⟨c, _, rfl, hdigit c List.mem_cons_self⟩

/-- The first cut of a text is the segment that it starts with, if what comes behind it starts
another segment. -/
theorem Segment.split_append (fine : segment.WellFormed) (written : segment.Writes text)
    (hrest : ∀ c ∈ rest.head?, startsSegment c = true) :
    Segment.split (text ++ rest) = (segment, rest) := by
  obtain ⟨hwhole, hfraction, -, hunit⟩ := fine
  obtain ⟨hne, hplain⟩ := startsSegment_of_mem_unit _ hunit
  have hhead : ∀ c ∈ (segment.unit ++ rest).head?, c.isDigit = false ∧ c ≠ '.' := by
    intro c hc
    obtain ⟨u, us, hu⟩ := List.exists_cons_of_ne_nil hne
    rw [hu, List.cons_append, List.head?_cons, Option.mem_some_iff] at hc
    refine not_startsSegment_iff.mp (hplain c ?_)
    rw [hu, ← hc]
    exact List.mem_cons_self
  -- the unit runs up to the next segment
  have hcut : (segment.unit ++ rest).takeWhile (!startsSegment ·) = segment.unit
      ∧ (segment.unit ++ rest).dropWhile (!startsSegment ·) = rest := by
    refine span_append (fun c hc => ?_) fun c hc => ?_
    · rw [hplain c hc, Bool.not_false]
    · rw [hrest c hc, Bool.not_true]
  cases written with
  | @plain whole unit =>
      have hspan := span_append hwhole fun c hc => (hhead c hc).1
      have hnone : spanFraction (unit ++ rest) = ([], unit ++ rest) :=
        spanFraction_of_head? fun h => (hhead '.' h).2 rfl
      simp only [Segment.split, spanDigits, List.append_assoc, hspan.1, hspan.2, hnone, hcut.1,
        hcut.2]
  | @pointed whole fraction unit =>
      have hpoint : ∀ c ∈ ('.' :: (fraction ++ (unit ++ rest))).head?, c.isDigit = false := by
        intro c hc
        rw [← Option.some.inj hc]
        rfl
      have hspan := span_append hwhole hpoint
      have hsome := span_append hfraction fun c hc => (hhead c hc).1
      simp only [Segment.split, spanDigits, spanFraction, List.append_assoc, List.cons_append,
        hspan.1, hspan.2, hsome.1, hsome.2, hcut.1, hcut.2]

end

/-- The first cut of a text writes what is cut off. -/
theorem Segment.split_writes (cs : List Char) :
    ∃ text, (Segment.split cs).1.Writes text ∧ cs = text ++ (Segment.split cs).2 := by
  have hspan : ∀ (p : Char → Bool) (l : List Char), l = l.takeWhile p ++ l.dropWhile p :=
    fun p l => List.takeWhile_append_dropWhile.symm
  unfold Segment.split spanDigits
  by_cases hpoint : ∃ more, cs.dropWhile Char.isDigit = '.' :: more
  · obtain ⟨more, hmore⟩ := hpoint
    simp only [hmore, spanFraction, spanDigits]
    refine ⟨_, .pointed, ?_⟩
    rw [List.append_assoc, List.cons_append, List.append_assoc, ← hspan, ← hspan, ← hmore,
      ← hspan]
  · have hnone : spanFraction (cs.dropWhile Char.isDigit)
        = ([], cs.dropWhile Char.isDigit) := by
      refine spanFraction_of_head? fun hhead => ?_
      obtain ⟨more, hmore⟩ := List.head?_eq_some_iff.mp hhead
      exact hpoint ⟨more, hmore⟩
    simp only [hnone]
    refine ⟨_, .plain, ?_⟩
    rw [List.append_assoc, ← hspan, ← hspan]

/-- What a cut takes for digits is digits. -/
theorem Segment.split_digits (cs : List Char) :
    (∀ c ∈ (Segment.split cs).1.whole, c.isDigit = true)
      ∧ ∀ c ∈ (Segment.split cs).1.fraction, c.isDigit = true := by
  refine ⟨fun c hc => List.mem_takeWhile_imp hc, fun c hc => ?_⟩
  unfold Segment.split spanDigits spanFraction at hc
  simp only at hc
  split at hc
  · exact List.mem_takeWhile_imp hc
  · cases hc

-- ============================================================== all cuts

@[simp] theorem segments_nil : segments [] = [] := by rw [segments, if_pos rfl]

/-- A text that is left has a first segment. -/
theorem segments_of_ne_nil {cs : List Char} (hcs : cs ≠ []) :
    segments cs = (Segment.split cs).1 :: segments (Segment.split cs).2 := by
  rw [segments, if_neg hcs]

/-- A text that is spelled by segments starts like a segment, unless it is empty. -/
theorem Spells.starts {spelling : List Segment} {cs : List Char} (hcs : Spells spelling cs) :
    ∀ c ∈ cs.head?, startsSegment c = true := by
  intro c hc
  cases hcs with
  | nil => cases hc
  | cons fine written spelled =>
      obtain ⟨first, more, rfl, hfirst⟩ := written.starts fine
      rw [← Option.some.inj hc]
      exact hfirst

/-- What spells a text is well-formed. -/
theorem Spells.wellFormed {spelling : List Segment} {cs : List Char} (hcs : Spells spelling cs) :
    ∀ segment ∈ spelling, segment.WellFormed := by
  induction hcs with
  | nil => exact fun segment hsegment => absurd hsegment List.not_mem_nil
  | cons fine written spelled ih =>
      intro segment hsegment
      rcases List.mem_cons.mp hsegment with rfl | hsegment
      · exact fine
      · exact ih segment hsegment

/-- Segments that spell a text are the segments that the text is cut into. -/
theorem segments_of_spells {spelling : List Segment} {cs : List Char}
    (hcs : Spells spelling cs) : segments cs = spelling := by
  induction hcs with
  | nil => exact segments_nil
  | @cons segment spelling text rest fine written spelled ih =>
      have hne : text ++ rest ≠ [] := by
        obtain ⟨first, more, rfl, -⟩ := written.starts fine
        exact List.cons_ne_nil _ _
      rw [segments_of_ne_nil hne, Segment.split_append fine written spelled.starts, ih]

/-- The segments that a text is cut into spell it, if they are well-formed. -/
theorem spells_segments {cs : List Char} (fine : ∀ segment ∈ segments cs, segment.WellFormed) :
    Spells (segments cs) cs := by
  induction cs using segments.induct with
  | case1 =>
      rw [segments_nil]
      exact .nil
  | case2 cs hcs ih =>
      rw [segments_of_ne_nil hcs] at fine ⊢
      obtain ⟨text, hwrites, htext⟩ := Segment.split_writes cs
      have hrest := ih fun segment hsegment => fine segment (List.mem_cons_of_mem _ hsegment)
      have hspelled := Spells.cons (fine _ List.mem_cons_self) hwrites hrest
      rwa [← htext] at hspelled

/-- In every segment that a text is cut into, digits stand where digits belong. -/
theorem digits_of_mem_segments {cs : List Char} {segment : Segment}
    (hsegment : segment ∈ segments cs) :
    (∀ c ∈ segment.whole, c.isDigit = true) ∧ ∀ c ∈ segment.fraction, c.isDigit = true := by
  induction cs using segments.induct with
  | case1 =>
      rw [segments_nil] at hsegment
      cases hsegment
  | case2 cs hcs ih =>
      rw [segments_of_ne_nil hcs] at hsegment
      rcases List.mem_cons.mp hsegment with rfl | hsegment
      · exact Segment.split_digits cs
      · exact ih hsegment

-- ================================================================== worth

/-- Dividing by ten once more for each digit gives each digit its place. -/
theorem fractionValue_eq_sum (scale : Nat) (digits : List Char) :
    fractionValue scale digits
      = (digits.mapIdx fun k c => valueOf 10 [c] * (scale / 10 ^ (k + 1))).sum := by
  induction digits generalizing scale with
  | nil => rfl
  | cons c digits ih =>
      have hplace : ∀ k, scale / 10 / 10 ^ (k + 1) = scale / 10 ^ (k + 1 + 1) := by
        intro k
        rw [Nat.div_div_eq_div_mul, ← Nat.pow_succ']
      rw [fractionValue, ih, List.mapIdx_cons, List.sum_cons]
      simp only [hplace, Nat.zero_add, Nat.pow_one]

/-- A segment comes to what it is worth. -/
theorem Segment.nanoseconds_scale (segment : Segment) :
    segment.nanoseconds segment.scale = segment.worth := by
  unfold Segment.nanoseconds Segment.worth
  rw [fractionValue_eq_sum]

/-- A segment has a unit of a certain length exactly if it has one of the units. -/
theorem Segment.scale?_eq_ok_iff {segment : Segment} {scale : Nat} :
    segment.scale? = .ok scale
      ↔ segment.unit ∈ units.map Prod.fst ∧ scale = segment.scale := by
  unfold Segment.scale? Segment.scale
  rw [unitScale?_eq_lookup]
  cases hlookup : units.lookup segment.unit with
  | none =>
      have hunknown : segment.unit ∉ units.map Prod.fst := by
        rw [List.lookup_eq_none_iff] at hlookup
        simp only [List.mem_map, not_exists, not_and]
        intro entry hentry hsame
        simpa [hsame] using hlookup entry hentry
      simp only [hunknown, false_and, iff_false]
      split
      · simp
      · simp
  | some found =>
      have hknown : segment.unit ∈ units.map Prod.fst := by
        obtain ⟨before, after, hunits, -⟩ := List.lookup_eq_some_iff.mp hlookup
        rw [hunits]
        simp
      simp [hknown, eq_comm]

/-- The value of a well-formed segment is its worth, if that is in reach. -/
theorem Segment.value?_of_wellFormed {segment : Segment} (fine : segment.WellFormed) :
    segment.value?
      = if segment.worth < wideLimit then .ok segment.worth else .error .outOfRange := by
  have hscale : segment.scale? = .ok segment.scale :=
    Segment.scale?_eq_ok_iff.mpr ⟨fine.unit, rfl⟩
  have hdigits : ¬ (segment.whole = [] ∧ segment.fraction = []) := by
    rintro ⟨hwhole, hfraction⟩
    exact fine.digits.elim (fun h => h hwhole) fun h => h hfraction
  unfold Segment.value?
  rw [if_neg hdigits, hscale]
  simp only [bind, Except.bind, pure, Except.pure, segment.nanoseconds_scale]
  rfl

/-- A segment that has a value has digits and a unit. -/
theorem Segment.wellFormed_of_value? {segment : Segment} {value : Nat}
    (hwhole : ∀ c ∈ segment.whole, c.isDigit = true)
    (hfraction : ∀ c ∈ segment.fraction, c.isDigit = true)
    (hvalue : segment.value? = .ok value) : segment.WellFormed := by
  unfold Segment.value? at hvalue
  by_cases hdigits : segment.whole = [] ∧ segment.fraction = []
  · rw [if_pos hdigits] at hvalue
    cases hvalue
  · rw [if_neg hdigits] at hvalue
    cases hscale : segment.scale? with
    | error fault =>
        rw [hscale] at hvalue
        cases hvalue
    | ok scale =>
        exact ⟨hwhole, hfraction, not_and_or.mp hdigits, (Segment.scale?_eq_ok_iff.mp hscale).1⟩

-- ==================================================================== sum

/-- The sum of well-formed segments is what they are worth together, if that is in reach. -/
theorem sumSegments_eq {spelling : List Segment}
    (fine : ∀ segment ∈ spelling, segment.WellFormed) {start : Nat} (hstart : start < wideLimit) :
    sumSegments start spelling
      = if start + total spelling < wideLimit then .ok (start + total spelling)
        else .error .outOfRange := by
  induction spelling generalizing start with
  | nil => simp [sumSegments, total, hstart]
  | cons segment spelling ih =>
      have hvalue := Segment.value?_of_wellFormed (fine segment List.mem_cons_self)
      have hrest := fun {start} => @ih (fun s hs => fine s (List.mem_cons_of_mem _ hs)) start
      have htotal : total (segment :: spelling) = segment.worth + total spelling := by
        rw [total, List.map_cons, List.sum_cons]
        rfl
      rw [sumSegments, hvalue, htotal, ← Nat.add_assoc]
      by_cases hworth : segment.worth < wideLimit
      · rw [if_pos hworth]
        simp only
        by_cases hnext : start + segment.worth < wideLimit
        · rw [if_pos hnext, hrest hnext]
        · rw [if_neg hnext, if_neg (by omega)]
      · rw [if_neg hworth, if_neg (by omega)]

/-- Where there is a sum, every segment is well-formed. -/
theorem wellFormed_of_sumSegments {spelling : List Segment}
    (digits : ∀ segment ∈ spelling, (∀ c ∈ segment.whole, c.isDigit = true)
      ∧ ∀ c ∈ segment.fraction, c.isDigit = true)
    {start sum : Nat} (hsum : sumSegments start spelling = .ok sum) :
    ∀ segment ∈ spelling, segment.WellFormed := by
  induction spelling generalizing start with
  | nil => exact fun segment hsegment => absurd hsegment List.not_mem_nil
  | cons first spelling ih =>
      rw [sumSegments] at hsum
      cases hvalue : first.value? with
      | error fault =>
          rw [hvalue] at hsum
          cases hsum
      | ok value =>
          rw [hvalue] at hsum
          simp only at hsum
          by_cases hnext : start + value < wideLimit
          · rw [if_pos hnext] at hsum
            obtain ⟨hwhole, hfraction⟩ := digits first List.mem_cons_self
            have hfirst := Segment.wellFormed_of_value? hwhole hfraction hvalue
            have hrest := ih (fun s hs => digits s (List.mem_cons_of_mem _ hs)) hsum
            intro segment hsegment
            rcases List.mem_cons.mp hsegment with rfl | hsegment
            · exact hfirst
            · exact hrest segment hsegment
          · rw [if_neg hnext] at hsum
            cases hsum

-- ================================================================ reading

theorem read_eq (cs : List Char) : read cs = readUnsigned (withoutPlus cs) := by
  cases cs with
  | nil => rfl
  | cons c rest =>
      by_cases hplus : c = '+'
      · rw [hplus]
        rfl
      · simp only [read, withoutPlus, hplus, imp_self, implies_true, List.cons.injEq, false_and]

/-- A zero alone has no unit, so segments do not spell it. -/
theorem not_spells_zero (spelling : List Segment) : ¬ Spells spelling ['0'] := by
  intro hzero
  have hcut : segments ['0'] = [⟨['0'], [], []⟩] := by
    have hsplit : Segment.split ['0'] = (⟨['0'], [], []⟩, []) := rfl
    rw [segments_of_ne_nil (List.cons_ne_nil _ _), hsplit, segments_nil]
  have hmem : (⟨['0'], [], []⟩ : Segment) ∈ spelling := by
    rw [← segments_of_spells hzero, hcut]
    exact List.mem_cons_self
  have hunit := (hzero.wellFormed _ hmem).unit
  exact (startsSegment_of_mem_unit [] hunit).1 rfl

/-- What segments spell is read as their worth, or is out of range. -/
theorem readUnsigned_of_spells {spelling : List Segment} {cs : List Char}
    (hcs : Spells spelling cs) (hne : spelling ≠ []) :
    readUnsigned cs
      = if total spelling < 2 ^ 64 then .ok ⟨total spelling⟩ else .error .outOfRange := by
  have hnonempty : cs ≠ [] := by
    rintro rfl
    rw [← segments_of_spells hcs, segments_nil] at hne
    exact hne rfl
  have hminus : cs.head? ≠ some '-' := fun h => by cases hcs.starts '-' h
  have hzero : cs ≠ ['0'] := by
    rintro rfl
    exact not_spells_zero spelling hcs
  have hwide : wideLimit = 2 ^ 128 := rfl
  have hnarrow : (1 <<< 64 : Nat) = 2 ^ 64 := rfl
  have hstart : 0 < wideLimit := by
    rw [hwide]
    decide
  have hsum := sumSegments_eq hcs.wellFormed hstart
  rw [Nat.zero_add] at hsum
  unfold readUnsigned
  rw [if_neg hminus, if_neg hzero, if_neg hnonempty, segments_of_spells hcs, hsum, hnarrow]
  by_cases hreach : total spelling < wideLimit
  · rw [if_pos hreach]
  · -- beyond the wide limit is beyond the narrow one
    have hrange : ¬ total spelling < 2 ^ 64 := by
      rw [hwide] at hreach
      omega
    rw [if_neg hreach, if_neg hrange]

/-- What is read is a zero alone or spelled by segments. -/
theorem spells_of_readUnsigned {cs : List Char} {d : Duration} (hd : readUnsigned cs = .ok d) :
    (cs = ['0'] ∧ d = ⟨0⟩) ∨ (segments cs ≠ [] ∧ Spells (segments cs) cs) := by
  unfold readUnsigned at hd
  by_cases hminus : cs.head? = some '-'
  · rw [if_pos hminus] at hd
    cases hd
  · rw [if_neg hminus] at hd
    by_cases hzero : cs = ['0']
    · rw [if_pos hzero] at hd
      exact Or.inl ⟨hzero, (Except.ok.inj hd).symm⟩
    · rw [if_neg hzero] at hd
      by_cases hempty : cs = []
      · rw [if_pos hempty] at hd
        cases hd
      · rw [if_neg hempty] at hd
        cases hsum : sumSegments 0 (segments cs) with
        | error fault =>
            rw [hsum] at hd
            cases hd
        | ok sum =>
            have fine := wellFormed_of_sumSegments (fun s hs => digits_of_mem_segments hs) hsum
            have hne : segments cs ≠ [] := by
              rw [segments_of_ne_nil hempty]
              exact List.cons_ne_nil _ _
            exact Or.inr ⟨hne, spells_segments fine⟩

/-- The texts that are durations, and which. -/
theorem read_eq_ok_iff {cs : List Char} {d : Duration} :
    read cs = .ok d
      ↔ (withoutPlus cs = ['0'] ∧ d = ⟨0⟩)
        ∨ ∃ spelling, spelling ≠ [] ∧ Spells spelling (withoutPlus cs)
          ∧ total spelling < 2 ^ 64 ∧ d = ⟨total spelling⟩ := by
  rw [read_eq]
  constructor
  · intro hd
    rcases spells_of_readUnsigned hd with hzero | ⟨hne, hcs⟩
    · exact Or.inl hzero
    · rw [readUnsigned_of_spells hcs hne] at hd
      by_cases hrange : total (segments (withoutPlus cs)) < 2 ^ 64
      · rw [if_pos hrange] at hd
        exact Or.inr ⟨_, hne, hcs, hrange, (Except.ok.inj hd).symm⟩
      · rw [if_neg hrange] at hd
        cases hd
  · rintro (⟨hzero, rfl⟩ | ⟨spelling, hne, hcs, hrange, rfl⟩)
    · rw [hzero]
      rfl
    · rw [readUnsigned_of_spells hcs hne, if_pos hrange]

/-- A text is read as a duration exactly if its characters are. -/
theorem readDuration_eq_ok_iff {raw : String} {d : Duration} :
    readDuration raw = .ok d ↔ read raw.toList = .ok d := by
  unfold readDuration
  cases read raw.toList with
  | ok found => simp
  | error fault => simp

end EnvSettings.Time.Duration

namespace EnvSettings

open EnvSettings.Time EnvSettings.Time.Duration

/-- The language of durations. Of a text without one plus sign in front, a reading gives a
duration exactly if it is a zero alone, which is no time, or is spelled by segments, one or more,
whose worth together is below two to the power 64 nanoseconds, and this worth is the duration.
What segments spell whose worth together is more is refused as out of range, and every other text
is refused too. -/
theorem readDuration_language (raw : String) :
    (∀ d, readDuration raw = .ok d
        ↔ (withoutPlus raw.toList = ['0'] ∧ d = ⟨0⟩)
          ∨ ∃ spelling, spelling ≠ [] ∧ Spells spelling (withoutPlus raw.toList)
            ∧ total spelling ≤ 2 ^ 64 - 1 ∧ d = ⟨total spelling⟩)
      ∧ (∀ spelling, spelling ≠ [] → Spells spelling (withoutPlus raw.toList) →
        2 ^ 64 - 1 < total spelling →
        readDuration raw = .error (.invalid raw "duration out of range"))
      ∧ (withoutPlus raw.toList ≠ ['0'] →
        (∀ spelling, spelling ≠ [] → ¬ Spells spelling (withoutPlus raw.toList)) →
        ∃ e, readDuration raw = .error e) := by
  have haccepted : ∀ d, readDuration raw = .ok d
      ↔ (withoutPlus raw.toList = ['0'] ∧ d = ⟨0⟩)
        ∨ ∃ spelling, spelling ≠ [] ∧ Spells spelling (withoutPlus raw.toList)
          ∧ total spelling ≤ 2 ^ 64 - 1 ∧ d = ⟨total spelling⟩ := by
    intro d
    have hlimit : ∀ n : Nat, n ≤ 2 ^ 64 - 1 ↔ n < 2 ^ 64 := fun n => by omega
    rw [readDuration_eq_ok_iff, read_eq_ok_iff]
    simp only [hlimit]
  refine ⟨haccepted, fun spelling hne hcs hlarge => ?_, fun hzero hnone => ?_⟩
  · have hread : read raw.toList = .error .outOfRange := by
      rw [read_eq, readUnsigned_of_spells hcs hne, if_neg (by omega)]
    unfold readDuration
    rw [hread]
    rfl
  · cases hread : readDuration raw with
    | error e => exact ⟨e, rfl⟩
    | ok d =>
        rcases (haccepted d).mp hread with ⟨h, -⟩ | ⟨spelling, hne, hcs, -⟩
        · exact absurd h hzero
        · exact absurd hcs (hnone spelling hne)

/-- Hours with a fraction, microseconds in Greek without a whole part, and a point that nothing
follows. -/
theorem readDuration_language_mixed :
    let spelling : List Segment := [⟨['1'], ['5'], ['h']⟩, ⟨[], ['2', '5'], ['\u03bc', 's']⟩,
      ⟨['0', '7'], [], ['s']⟩]
    Spells spelling "1.5h.25μs07.s".toList ∧ total spelling = 5407000000250
      ∧ readDuration "+1.5h.25μs07.s" = .ok ⟨5407000000250⟩ := by
  intro spelling
  have htotal : total spelling = 5407000000250 := by decide
  have hhours : Segment.WellFormed ⟨['1'], ['5'], ['h']⟩ :=
    Segment.wellFormed_of_all rfl rfl (by decide) (by decide)
  have hmicros : Segment.WellFormed ⟨[], ['2', '5'], ['\u03bc', 's']⟩ :=
    Segment.wellFormed_of_all rfl rfl (by decide) (by decide)
  have hseconds : Segment.WellFormed ⟨['0', '7'], [], ['s']⟩ :=
    Segment.wellFormed_of_all rfl rfl (by decide) (by decide)
  have hspells : Spells spelling "1.5h.25μs07.s".toList :=
    .cons hhours .pointed (.cons hmicros .pointed (.cons hseconds .pointed .nil))
  refine ⟨hspells, htotal, ?_⟩
  refine ((readDuration_language "+1.5h.25μs07.s").1 _).mpr (Or.inr ⟨spelling, ?_, hspells, ?_, ?_⟩)
  · exact List.cons_ne_nil _ _
  · rw [htotal]
    decide
  · rw [htotal]

end EnvSettings
