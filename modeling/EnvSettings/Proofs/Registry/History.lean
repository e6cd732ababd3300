/-
A registry by its history. A registry comes out of registrations one after the other, and of this
history it keeps for each type the converter registered last, and nothing else
(`Registry.converter?_ofHistory`).

# What a decoding asks of it

A decoding asks for the converter of the whole type, and for that of the type inside only where
there is none for the whole (`TypeCode.consulted`). So two registries decode a type alike if they
agree on the types consulted (`TypeCode.decode_congr`, by induction on the type), and whatever the
histories hold beside the last registrations for these makes no difference
(`decode_by_latest_registrations`).
-/
import EnvSettings.Registry
import EnvSettings.Sample.Converters

namespace EnvSettings

variable {A : Type} [AppTypes A] [DecidableEq A]

-- ========================================================== registrations

namespace Registry

/-- The first registration of a type counts. -/
theorem find_append (t : TypeCode A) (before after : List (Registration A)) :
    find t (before ++ after) = (find t before).or (find t after) := by
  induction before with
  | nil => rfl
  | cons entry before ih =>
      rw [List.cons_append, find, find]
      split
      · rfl
      · exact ih

/-- Without the registrations of `t` there is no converter for `t`, and the others are untouched. -/
theorem find_filter_ne (t u : TypeCode A) (entries : List (Registration A)) :
    find u (entries.filter fun entry => !decide (entry.type = t))
      = if t = u then none else find u entries := by
  induction entries with
  | nil => simp [find]
  | cons entry entries ih =>
      by_cases htype : entry.type = t
      · rw [List.filter_cons_of_neg (by simp [htype]), ih]
        split
        · rfl
        · next hne =>
            rw [find, dif_neg (htype ▸ hne)]
      · rw [List.filter_cons_of_pos (by simp [htype]), find, ih]
        by_cases hu : t = u
        · rw [dif_neg (hu ▸ htype), if_pos hu, if_pos hu]
        · rw [if_neg hu, if_neg hu, find]

/-- Of an error of a converter the words are kept. -/
theorem convert?_eq (r : Registry A) (t : TypeCode A) (raw : String) :
    r.convert? t raw = (r.converter? t).map fun convert => (convert raw).mapError .custom := by
  unfold convert?
  congr 1
  funext convert
  cases convert raw with
  | ok v => rfl
  | error message => rfl

theorem converter?_empty (t : TypeCode A) : (empty : Registry A).converter? t = none := rfl

/-- A registration gives its type the new converter and leaves all others as they were. -/
theorem converter?_register (r : Registry A) (t u : TypeCode A) (convert : Converter t) :
    (r.register t convert).converter? u
      = if h : t = u then some (h ▸ convert) else r.converter? u := by
  unfold converter? register
  rw [find_append, find_filter_ne]
  by_cases h : t = u
  · rw [if_pos h, dif_pos h, find, dif_pos h]
    rfl
  · rw [if_neg h, dif_neg h, find, dif_neg h, find, Option.or_none]

/-- A type has the converter that was registered for it last. -/
theorem converter?_register_self (r : Registry A) (t : TypeCode A) (convert : Converter t) :
    (r.register t convert).converter? t = some convert := by
  rw [converter?_register, dif_pos rfl]

/-- A registration leaves the other types alone. -/
theorem converter?_register_of_ne (r : Registry A) {t u : TypeCode A} (convert : Converter t)
    (hne : t ≠ u) : (r.register t convert).converter? u = r.converter? u := by
  rw [converter?_register, dif_neg hne]

-- ================================================================ history

/-- The registry that comes out of registrations, the first one first. -/
def ofHistory (history : List (Registration A)) : Registry A :=
  history.foldl (fun r entry => r.register entry.type entry.convert) empty

/-- The converter registered last for a type. -/
def latest? (t : TypeCode A) : List (Registration A) → Option (Converter t)
  | [] => none
  | entry :: later =>
    (latest? t later).or (if h : entry.type = t then some (h ▸ entry.convert) else none)

/-- After further registrations the last one for a type counts, and where there is none what the
registry said before. -/
theorem converter?_foldl_register (t : TypeCode A) (later : List (Registration A))
    (r : Registry A) :
    (later.foldl (fun r entry => r.register entry.type entry.convert) r).converter? t
      = (latest? t later).or (r.converter? t) := by
  induction later generalizing r with
  | nil => rfl
  | cons entry later ih =>
      rw [List.foldl_cons, ih, converter?_register, latest?, Option.or_assoc]
      congr 1
      split
      · rfl
      · rfl

/-- A registry says of a type what was registered for it last. -/
theorem converter?_ofHistory (t : TypeCode A) (history : List (Registration A)) :
    (ofHistory history).converter? t = latest? t history := by
  rw [ofHistory, converter?_foldl_register, converter?_empty, Option.or_none]

/-- Of two histories in a row the later one counts first. -/
theorem latest?_append (t : TypeCode A) (before after : List (Registration A)) :
    latest? t (before ++ after) = (latest? t after).or (latest? t before) := by
  induction before with
  | nil => rw [List.nil_append, latest?, Option.or_none]
  | cons entry before ih => rw [List.cons_append, latest?, ih, latest?, Option.or_assoc]

/-- A history has no converter for the types that are not in it. -/
theorem latest?_eq_none_iff {t : TypeCode A} {history : List (Registration A)} :
    latest? t history = none ↔ ∀ entry ∈ history, entry.type ≠ t := by
  induction history with
  | nil => simp [latest?]
  | cons entry later ih =>
      rw [latest?, Option.or_eq_none_iff, ih, List.forall_mem_cons, and_comm]
      simp

/-- Registrations for other types do not count. -/
theorem latest?_filter (t : TypeCode A) (history : List (Registration A)) :
    latest? t (history.filter fun entry => entry.type = t) = latest? t history := by
  induction history with
  | nil => rfl
  | cons entry later ih =>
      by_cases htype : entry.type = t
      · rw [List.filter_cons_of_pos (by simp [htype]), latest?, latest?, ih]
      · rw [List.filter_cons_of_neg (by simp [htype]), latest?, dif_neg htype, Option.or_none, ih]

end Registry

-- ============================================================== decoding

namespace TypeCode

/-- The types whose converter a decoding asks for: the type itself and then, as long as there is
no converter, the types it is built from, the outermost first. -/
def consulted (r : Registry A) : TypeCode A → List (TypeCode A)
  | .scalar s => [.scalar s]
  | .app a => [.app a]
  | .list t => .list t :: if r.contains (.list t) then [] else t.consulted r
  | .option t => .option t :: if r.contains (.option t) then [] else t.consulted r

theorem self_mem_consulted (r : Registry A) (t : TypeCode A) : t ∈ t.consulted r := by
  cases t with
  | scalar s => exact List.mem_cons_self
  | app a => exact List.mem_cons_self
  | list t => exact List.mem_cons_self
  | option t => exact List.mem_cons_self

section

variable {r other : Registry A}

/-- Registries with the same converter for a type convert its texts alike. -/
theorem convert?_congr {t : TypeCode A} (h : r.converter? t = other.converter? t) (raw : String) :
    r.convert? t raw = other.convert? t raw := by
  rw [Registry.convert?_eq, Registry.convert?_eq, h]

/-- Where the outer type has no converter, the types that the inner one consults are consulted. -/
theorem consulted_list_of_none {t : TypeCode A} {raw : String}
    (h : r.convert? (.list t) raw = none) :
    (TypeCode.list t).consulted r = .list t :: t.consulted r := by
  rw [Registry.convert?_eq] at h
  rw [consulted, Registry.contains, Option.map_eq_none_iff.mp h]
  rfl

theorem consulted_option_of_none {t : TypeCode A} {raw : String}
    (h : r.convert? (.option t) raw = none) :
    (TypeCode.option t).consulted r = .option t :: t.consulted r := by
  rw [Registry.convert?_eq] at h
  rw [consulted, Registry.contains, Option.map_eq_none_iff.mp h]
  rfl

/-- Registries that agree on the types consulted decode alike. -/
theorem decode_congr {t : TypeCode A}
    (h : ∀ u ∈ t.consulted r, r.converter? u = other.converter? u) (raw : String) :
    t.decode r raw = t.decode other raw := by
  have hself := convert?_congr (h t (self_mem_consulted r t)) raw
  induction t generalizing raw with
  | scalar s => rw [decode, decode, hself]
  | app a => rw [decode, decode, hself]
  | list t ih =>
      rw [decode, decode, ← hself]
      cases hconvert : r.convert? (.list t) raw with
      | some result => rfl
      | none =>
          rw [consulted_list_of_none hconvert, List.forall_mem_cons] at h
          have hinner : t.decode r = t.decode other := funext fun part =>
            ih h.2 part (convert?_congr (h.2 t (self_mem_consulted r t)) part)
          exact congrArg (fun decode => readElements decode 0 (splitCommas raw)) hinner
  | option t ih =>
      rw [decode, decode, ← hself]
      cases hconvert : r.convert? (.option t) raw with
      | some result => rfl
      | none =>
          rw [consulted_option_of_none hconvert, List.forall_mem_cons] at h
          simp only [ih h.2 raw (convert?_congr (h.2 t (self_mem_consulted r t)) raw)]

/-- The converter of a type, where there is one, alone decides what a text stands for. -/
theorem decode_of_convert?_eq_some {t : TypeCode A} {raw : String}
    {result : Except ParseError t.Value} (h : r.convert? t raw = some result) :
    t.decode r raw = result := by
  cases t with
  | scalar s =>
      rw [decode, h]
      rfl
  | app a =>
      rw [decode, h]
      rfl
  | list t => rw [decode, h]
  | option t => rw [decode, h]

end

end TypeCode

-- ======================================================= last registrations

namespace Registry

variable {t : TypeCode A} {history : List (Registration A)}

/-- After a history a type is converted by its latest converter. -/
theorem convert?_ofHistory (raw : String) :
    (ofHistory history).convert? t raw
      = (latest? t history).map fun convert => (convert raw).mapError .custom := by
  rw [convert?_eq, converter?_ofHistory]

/-- A registration that a later one for the same type follows is without effect on any type. -/
theorem latest?_of_overwritten {before after : List (Registration A)} {entry : Registration A}
    (hlater : ∃ later ∈ after, later.type = entry.type) (u : TypeCode A) :
    latest? u (before ++ entry :: after) = latest? u (before ++ after) := by
  rw [latest?_append, latest?_append, latest?]
  by_cases hu : entry.type = u
  · obtain ⟨later, hmem, htype⟩ := hlater
    have hsome : latest? u after ≠ none := fun hnone =>
      latest?_eq_none_iff.mp hnone later hmem (htype.trans hu)
    obtain ⟨convert, hconvert⟩ := Option.ne_none_iff_exists'.mp hsome
    rw [hconvert]
    rfl
  · rw [dif_neg hu, Option.or_none]

/-- A registration is without effect on other types. -/
theorem latest?_of_type_ne {before after : List (Registration A)} {entry : Registration A}
    {u : TypeCode A} (hne : entry.type ≠ u) :
    latest? u (before ++ entry :: after) = latest? u (before ++ after) := by
  rw [latest?_append, latest?_append, latest?, dif_neg hne, Option.or_none]

end Registry

/-- Only the last registrations for the types consulted count. Two histories that agree on them
decode a text alike; so a registration for a type that is not consulted can be left out, as can
one that a later one for its type follows, and only the order among the registrations for one
type matters. Where a type has a converter its answer is the answer, whatever the type's own
reading says; and a list or an option without one is decoded by what its inner type makes of the
parts by this same rule. -/
theorem decode_by_latest_registrations (t : TypeCode A) (history : List (Registration A))
    (raw : String) :
    let r := Registry.ofHistory history
    (∀ other, (∀ u ∈ t.consulted r, Registry.latest? u history = Registry.latest? u other) →
        t.decode r raw = t.decode (.ofHistory other) raw)
      ∧ (∀ before entry after, history = before ++ entry :: after →
        (entry.type ∉ t.consulted r ∨ ∃ later ∈ after, later.type = entry.type) →
        t.decode r raw = t.decode (.ofHistory (before ++ after)) raw)
      ∧ (∀ other : List (Registration A),
        (∀ u, history.filter (fun entry => entry.type = u)
          = other.filter fun entry => entry.type = u) →
        t.decode r raw = t.decode (.ofHistory other) raw)
      ∧ (∀ convert, Registry.latest? t history = some convert →
        t.decode r raw = (convert raw).mapError .custom)
      ∧ (Registry.latest? (.list t) history = none →
        (TypeCode.list t).decode r raw = readElements (t.decode r) 0 (splitCommas raw))
      ∧ (Registry.latest? (.option t) history = none →
        (TypeCode.option t).decode r raw = (t.decode r raw).map some) := by
  intro r
  have hagree : ∀ other,
      (∀ u ∈ t.consulted r, Registry.latest? u history = Registry.latest? u other) →
      t.decode r raw = t.decode (.ofHistory other) raw := by
    intro other h
    refine TypeCode.decode_congr (fun u hu => ?_) raw
    rw [Registry.converter?_ofHistory, Registry.converter?_ofHistory, h u hu]
  refine ⟨hagree, fun before entry after hsplit hidle => hagree _ fun u hu => ?_,
    fun other hsame => hagree other fun u _ => ?_, fun convert hlatest => ?_, fun hnone => ?_,
    fun hnone => ?_⟩
  · rw [hsplit]
    rcases hidle with hunasked | hlater
    · exact Registry.latest?_of_type_ne fun htype => hunasked (htype ▸ hu)
    · exact Registry.latest?_of_overwritten hlater u
  · rw [← Registry.latest?_filter, hsame u, Registry.latest?_filter]
  · refine TypeCode.decode_of_convert?_eq_some ?_
    rw [Registry.convert?_ofHistory, hlatest]
    rfl
  · rw [TypeCode.decode, Registry.convert?_ofHistory, hnone]
    rfl
  · rw [TypeCode.decode, Registry.convert?_ofHistory, hnone]
    cases t.decode r raw with
    | ok v => rfl
    | error e => rfl

/-- The converter for lists of bytes decides under an option, and neither the one for bytes nor
what was registered for the list before does. -/
theorem decode_by_latest_registrations_bytes :
    let bytes : TypeCode Sample.AppCode := .list (.scalar (.int Sample.u8))
    let history : List (Registration Sample.AppCode) :=
      [⟨.scalar (.int Sample.u8), Sample.readLevel⟩, ⟨bytes, Sample.readBytes⟩]
    let other : List (Registration Sample.AppCode) :=
      [⟨bytes, fun _ => .error "nope"⟩, ⟨bytes, Sample.readBytes⟩,
        ⟨.scalar .string, Sample.inBrackets⟩]
    (∀ u ∈ (TypeCode.option bytes).consulted (.ofHistory history),
        Registry.latest? u history = Registry.latest? u other)
      ∧ (TypeCode.option bytes).decode (.ofHistory history) "A,B"
        = (TypeCode.option bytes).decode (.ofHistory other) "A,B"
      ∧ bytes.decode (.ofHistory other) "A,B" = .ok ([65, 44, 66].map Sample.byteValue) := by
  intro bytes history other
  have hagree : ∀ u ∈ (TypeCode.option bytes).consulted (.ofHistory history),
      Registry.latest? u history = Registry.latest? u other := by
    intro u hu
    have hconsulted : (TypeCode.option bytes).consulted (.ofHistory history)
        = [.option bytes, bytes] := rfl
    rw [hconsulted] at hu
    rcases List.mem_cons.mp hu with rfl | hu
    · rfl
    · rw [List.mem_singleton.mp hu]
      rfl
  refine ⟨hagree, (decode_by_latest_registrations _ history "A,B").1 other hagree, ?_⟩
  rw [(decode_by_latest_registrations bytes other "A,B").2.2.2.1 Sample.readBytes rfl]
  rfl

end EnvSettings
