/-
A decoding, leaf by leaf. What a leaf comes to depends on its own variable and policy alone
(`Leaf.resolve`), and this file proves that a pass over the slots, which hands a configuration,
a source and a list of errors from one slot to the next, settles every leaf in just this way.

# Step and run

- `Pass.fill_slot` is the step. It needs that the leaf still holds what it held at the start: a
  leaf without value and default is left as it is, and only from there does this amount to holding
  its value of the start.
- `Pass.fillAll_slots` is the run over distinct leaves. Distinctness keeps the need of the step
  alive: a write leaves every other leaf alone, so the leaves still to come are untouched.
- `Decoder.run_eq` puts the run behind the walk. All that is proved about decodings further on
  starts from this equation and opens neither the walk nor the pass.
-/
import EnvSettings.Decode.Decoder
import EnvSettings.Proofs.Schema.Walk

namespace EnvSettings

open EnvSettings.Source

variable {A : Type} [AppTypes A] [DecidableEq A] {s : Schema A}

-- ========================================================== leaf by leaf

namespace Schema.Leaf

/-- What a leaf comes to on its own. A value that counts is decoded, and then the default is not
looked at; else a required leaf fails, a default is decoded, and without either the leaf keeps
what it holds in the configuration at the start. -/
def resolve (registry : Registry A) (stem : String) (start : s.Config) (source : Source)
    (l : s.Leaf) :
    Except ValueFault l.type.Value :=
  match present? (source.get (l.key stem)) with
  | some text => (l.decode registry text).mapError .invalid
  | none =>
    if l.rule.required then .error .required
    else
      match l.rule.default? with
      | none => .ok (l.read start)
      | some text => (l.decode registry text).mapError (.default text)

/-- The error of a leaf that fails. -/
def valueError? (registry : Registry A) (stem : String) (start : s.Config) (source : Source)
    (l : s.Leaf) : Option ValueError :=
  match l.resolve registry stem start source with
  | .ok _ => none
  | .error fault => some ⟨l.key stem, fault⟩

/-- Gives a leaf of a configuration the value that it comes to, unless the leaf fails. -/
def settle (registry : Registry A) (stem : String) (start : s.Config) (source : Source)
    (c : s.Config) (l : s.Leaf) : s.Config :=
  match l.resolve registry stem start source with
  | .ok v => l.write v c
  | .error _ => c

variable {registry : Registry A} {stem : String} {start : s.Config} {source : Source}

/-- A leaf has no error exactly if it comes to a value. -/
theorem valueError?_eq_none_iff {l : s.Leaf} :
    l.valueError? registry stem start source = none
      ↔ ∃ v, l.resolve registry stem start source = .ok v := by
  unfold valueError?
  cases l.resolve registry stem start source with
  | ok v => simp
  | error fault => simp

/-- What a leaf comes to depends on its own variable only, and an empty value is the same as
none. -/
theorem resolve_congr {l : s.Leaf} {other : Source}
    (hsame : present? (source.get (l.key stem)) = present? (other.get (l.key stem))) :
    l.resolve registry stem start source = l.resolve registry stem start other := by
  unfold resolve
  rw [hsame]

/-- The error of a leaf depends on its own variable only. -/
theorem valueError?_congr {l : s.Leaf} {other : Source}
    (hsame : present? (source.get (l.key stem)) = present? (other.get (l.key stem))) :
    l.valueError? registry stem start source = l.valueError? registry stem start other := by
  unfold valueError?
  rw [resolve_congr hsame]

/-- Whether and how a leaf fails does not depend on the configuration at the start. -/
theorem valueError?_start (registry : Registry A) (stem : String) (start other : s.Config)
    (source : Source) (l : s.Leaf) :
    l.valueError? registry stem start source = l.valueError? registry stem other source := by
  unfold valueError? resolve
  cases present? (source.get (l.key stem)) with
  | some text => rfl
  | none =>
      by_cases hrequired : l.rule.required = true
      · simp only [if_pos hrequired]
      · simp only [if_neg hrequired]
        cases l.rule.default? with
        | none => rfl
        | some text => rfl

/-- Settling a leaf leaves every other leaf alone. -/
theorem read_settle_of_ne {l m : s.Leaf} (hne : m ≠ l) (c : s.Config) :
    m.read (l.settle registry stem start source c) = m.read c := by
  unfold settle
  cases l.resolve registry stem start source with
  | ok v => exact read_write_of_ne hne v c
  | error fault => rfl

/-- Settling leaves alone what is not among the leaves settled. -/
theorem read_foldl_settle_of_notMem {ls : List s.Leaf} {l : s.Leaf} (hl : l ∉ ls)
    (c : s.Config) : l.read (ls.foldl (settle registry stem start source) c) = l.read c := by
  induction ls generalizing c with
  | nil => rfl
  | cons m ls ih =>
      rw [List.foldl_cons, ih (List.not_mem_of_not_mem_cons hl)]
      exact read_settle_of_ne (List.ne_of_not_mem_cons hl) c

/-- Among distinct leaves, each that comes to a value holds it when all are settled. -/
theorem read_foldl_settle {ls : List s.Leaf} (hls : ls.Nodup) {l : s.Leaf} (hl : l ∈ ls)
    {v : l.type.Value} (hv : l.resolve registry stem start source = .ok v) (c : s.Config) :
    l.read (ls.foldl (settle registry stem start source) c) = v := by
  induction ls generalizing c with
  | nil => cases hl
  | cons m ls ih =>
      obtain ⟨hm, hls⟩ := List.nodup_cons.mp hls
      rw [List.foldl_cons]
      rcases List.mem_cons.mp hl with rfl | hl
      · rw [read_foldl_settle_of_notMem hm, settle, hv]
        exact l.read_write v c
      · exact ih hls hl _

/-- A leaf that fails holds what it held before when all are settled. -/
theorem read_foldl_settle_of_error (ls : List s.Leaf) {l : s.Leaf} {fault : ValueFault}
    (hl : l.resolve registry stem start source = .error fault) (c : s.Config) :
    l.read (ls.foldl (settle registry stem start source) c) = l.read c := by
  induction ls generalizing c with
  | nil => rfl
  | cons m ls ih =>
      rw [List.foldl_cons, ih]
      by_cases hm : l = m
      · rw [← hm, settle, hl]
      · exact read_settle_of_ne hm c

end Schema.Leaf

/-- Settling leaves leaves every skipped field alone. -/
theorem Schema.Skipped.read_foldl_settle {registry : Registry A} {stem : String}
    {start : s.Config} {source : Source} (k : s.Skipped) (ls : List s.Leaf) (c : s.Config) :
    k.read (ls.foldl (Leaf.settle registry stem start source) c) = k.read c := by
  induction ls generalizing c with
  | nil => rfl
  | cons l ls ih =>
      rw [List.foldl_cons, ih, Leaf.settle]
      cases l.resolve registry stem start source with
      | ok v => exact k.read_write l v c
      | error fault => rfl

-- ============================================================== the pass

section

variable (registry : Registry A) (stem : String) (start : s.Config)

/-- On a leaf that still holds what it held at the start, a slot does what the leaf comes to. -/
theorem Schema.Leaf.slot_outcome (source : Source) (l : s.Leaf) {c : s.Config}
    (hfresh : l.read c = l.read start) :
    ((l.slot id stem).outcome registry (source.get (l.key stem))).map (fun change => change c)
      = (l.resolve registry stem start source).map fun v => l.write v c := by
  have hkeep : c = l.write (l.read start) c := by rw [← hfresh, l.write_read]
  unfold Slot.outcome resolve
  rw [slot_rule]
  simp only [slot_assign, id]
  cases present? (source.get (l.key stem)) with
  | some text =>
      simp only
      cases l.decode registry text with
      | ok v => rfl
      | error e => rfl
  | none =>
      simp only
      by_cases hrequired : l.rule.required = true
      · rw [if_pos hrequired, if_pos hrequired]
        rfl
      · rw [if_neg hrequired, if_neg hrequired]
        cases l.rule.default? with
        | none => exact congrArg Except.ok hkeep
        | some text =>
            simp only
            cases l.decode registry text with
            | ok v => rfl
            | error e => rfl

/-- One step of a pass: it asks for the leaf's variable, settles the leaf, and notes the leaf's
error if there is one. -/
theorem Pass.fill_slot (pass : Pass s.Config) {l : s.Leaf}
    (hfresh : l.read pass.config = l.read start) :
    pass.fill registry (l.slot id stem)
      = ⟨l.settle registry stem start pass.source.inner pass.config,
          ⟨pass.source.inner, pass.source.calls ++ [.get (l.key stem)]⟩,
          pass.errors ++ (l.valueError? registry stem start pass.source.inner).toList,
          pass.events ++ [.reading (l.key stem)]⟩ := by
  have houtcome := l.slot_outcome registry stem start pass.source.inner hfresh
  unfold Pass.fill Tracked.get Schema.Leaf.settle Schema.Leaf.valueError?
  simp only [Schema.Leaf.slot_key]
  cases hslot : (l.slot id stem).outcome registry (pass.source.inner.get (l.key stem)) with
  | ok change =>
      rw [hslot] at houtcome
      cases hleaf : l.resolve registry stem start pass.source.inner with
      | ok v =>
          rw [hleaf] at houtcome
          have hwrite : change pass.config = l.write v pass.config := Except.ok.inj houtcome
          simp [hwrite]
      | error fault =>
          rw [hleaf] at houtcome
          cases houtcome
  | error slotFault =>
      rw [hslot] at houtcome
      cases hleaf : l.resolve registry stem start pass.source.inner with
      | ok v =>
          rw [hleaf] at houtcome
          cases houtcome
      | error fault =>
          rw [hleaf] at houtcome
          have hfault : slotFault = fault := Except.error.inj houtcome
          simp [hfault]

/-- A pass over distinct leaves that still hold what they held at the start asks for the variable of
each in turn, settles them all, and notes the errors of those that fail. -/
theorem Pass.fillAll_slots {ls : List s.Leaf} (hls : ls.Nodup) (pass : Pass s.Config)
    (hfresh : ∀ l ∈ ls, l.read pass.config = l.read start) :
    pass.fillAll registry (ls.map (Schema.Leaf.slot id stem))
      = ⟨ls.foldl (Schema.Leaf.settle registry stem start pass.source.inner) pass.config,
          ⟨pass.source.inner, pass.source.calls ++ ls.map fun l => .get (l.key stem)⟩,
          pass.errors
            ++ ls.filterMap (Schema.Leaf.valueError? registry stem start pass.source.inner),
          pass.events ++ ls.map fun l => .reading (l.key stem)⟩ := by
  induction ls generalizing pass with
  | nil =>
      obtain ⟨config, source, errors, events⟩ := pass
      simp [Pass.fillAll]
  | cons l ls ih =>
      obtain ⟨hl, hls⟩ := List.nodup_cons.mp hls
      have hstep := pass.fill_slot registry stem start (hfresh l List.mem_cons_self)
      -- the leaves still to come are other leaves, so the step has not touched them
      have hfresh' : ∀ m ∈ ls,
          m.read (l.settle registry stem start pass.source.inner pass.config) = m.read start := by
        intro m hm
        have hne : m ≠ l := fun h => hl (h ▸ hm)
        rw [Schema.Leaf.read_settle_of_ne hne]
        exact hfresh m (List.mem_cons_of_mem _ hm)
      have hrun := ih hls ⟨l.settle registry stem start pass.source.inner pass.config,
        ⟨pass.source.inner, pass.source.calls ++ [.get (l.key stem)]⟩,
        pass.errors ++ (l.valueError? registry stem start pass.source.inner).toList,
        pass.events ++ [.reading (l.key stem)]⟩ hfresh'
      unfold Pass.fillAll at hrun ⊢
      rw [List.map_cons, List.foldl_cons, hstep, hrun, List.filterMap_cons]
      cases l.valueError? registry stem start pass.source.inner with
      | none => simp
      | some e => simp

end

-- ============================================================ the decoding

/-- The state in which the pass of a decoding ends. -/
def Decoder.filled (d : Decoder A) (s : Schema A) (start : s.Config) (source : Source) :
    Pass s.Config where
  config := s.leaves.foldl (Schema.Leaf.settle d.registry d.stem start source) start
  source := ⟨source, s.leaves.map fun l => .get (l.key d.stem)⟩
  errors := s.leaves.filterMap (Schema.Leaf.valueError? d.registry d.stem start source)
  events := .decoding d.stem s.leaves.length :: s.leaves.map fun l => .reading (l.key d.stem)

/-- The pass of a decoding settles every leaf. -/
theorem Decoder.pass_slots (d : Decoder A) (s : Schema A) (start : s.Config) (source : Source) :
    d.pass s (s.leaves.map (Schema.Leaf.slot id d.stem)) start source
      = d.filled s start source := by
  unfold Decoder.pass
  rw [Pass.fillAll_slots d.registry d.stem start s.leaves_nodup _ fun l _ => rfl]
  simp [Decoder.filled, Tracked.ofSource]

/-- A decoding is a walk, a pass that settles every leaf, and a look at the errors. -/
theorem Decoder.run_eq (d : Decoder A) (s : Schema A) (start : s.Config) (source : Source) :
    d.run s start source
      = match s.firstError? d.registry [] with
        | some e => { result := .error (.schema e), events := [], calls := [] }
        | none =>
          if (d.filled s start source).errors = [] then d.finish (d.filled s start source)
          else
            { result := .error (.values (d.filled s start source).errors)
              events := (d.filled s start source).events
                ++ [.invalid (d.filled s start source).errors.length]
              calls := (d.filled s start source).source.calls
              echoed := fun palette =>
                if d.echo then report palette (d.filled s start source).errors else "" } := by
  unfold Decoder.run
  rw [s.slots?_eq]
  cases s.firstError? d.registry [] with
  | some e => rfl
  | none => simp only [d.pass_slots]

section

variable {d : Decoder A} {start : s.Config} {source : Source}

/-- In the end a leaf that comes to a value holds it. -/
theorem Decoder.read_filled {l : s.Leaf} {v : l.type.Value}
    (hv : l.resolve d.registry d.stem start source = .ok v) :
    l.read (d.filled s start source).config = v :=
  Schema.Leaf.read_foldl_settle s.leaves_nodup (Schema.mem_leaves l) hv start

/-- In the end a leaf that fails holds what it held at the start. -/
theorem Decoder.read_filled_of_error {l : s.Leaf} {fault : ValueFault}
    (hl : l.resolve d.registry d.stem start source = .error fault) :
    l.read (d.filled s start source).config = l.read start := by
  unfold Decoder.filled
  rw [Schema.Leaf.read_foldl_settle_of_error s.leaves hl]

/-- In the end a skipped field holds what it held at the start. -/
theorem Decoder.skipped_read_filled (k : s.Skipped) :
    k.read (d.filled s start source).config = k.read start := by
  unfold Decoder.filled
  rw [Schema.Skipped.read_foldl_settle]

/-- A pass ends without errors exactly if every leaf comes to a value. -/
theorem Decoder.filled_errors_eq_nil_iff :
    (d.filled s start source).errors = []
      ↔ ∀ l : s.Leaf, ∃ v, l.resolve d.registry d.stem start source = .ok v := by
  unfold Decoder.filled
  rw [List.filterMap_eq_nil_iff]
  constructor
  · intro h l
    exact Schema.Leaf.valueError?_eq_none_iff.mp (h l (Schema.mem_leaves l))
  · intro h l _
    exact Schema.Leaf.valueError?_eq_none_iff.mpr (h l)

end

-- ================================================================ the end

/-- The names that a strict decoding finds unread at the end of a pass. -/
def Decoder.unread (d : Decoder A) (pass : Pass s.Config) : List String :=
  unusedNames d.stem pass.source.unfetched.1

omit [DecidableEq A] in
/-- The end of a pass without errors. It is a configuration, unless the decoding is strict and a
name is left unread. Only a strict decoding asks for the names of the source, and only once. -/
theorem Decoder.finish_eq (d : Decoder A) (pass : Pass s.Config) :
    d.finish pass
      = { result :=
            if d.denyUnused = true ∧ d.unread pass ≠ [] then .error (.unused (d.unread pass))
            else .ok pass.config
          events := pass.events ++
            [if d.denyUnused = true ∧ d.unread pass ≠ [] then .unused (d.unread pass)
              else .decoded d.stem]
          calls := pass.source.calls ++ if d.denyUnused = true then [.list] else [] } := by
  unfold Decoder.finish Decoder.unread Tracked.unfetched
  by_cases hstrict : d.denyUnused = true
  · simp only [hstrict, if_true, true_and]
    generalize unusedNames d.stem _ = names
    cases names with
    | nil => rfl
    | cons name names => rfl
  · simp only [hstrict, false_and, if_false, List.append_nil, Bool.false_eq_true]

/-- A decoding that begins asks for the variables of the leaves in their order, and for the names
of the source only at the end of a strict pass without errors. -/
theorem Decoder.run_calls {d : Decoder A} (hfine : s.firstError? d.registry [] = none)
    (start : s.Config) (source : Source) :
    (d.run s start source).calls
      = (s.leaves.map fun l => .get (l.key d.stem))
        ++ if (d.filled s start source).errors = [] ∧ d.denyUnused = true then [.list] else [] := by
  rw [d.run_eq, hfine]
  by_cases herrors : (d.filled s start source).errors = []
  · simp only [herrors, if_true, true_and, d.finish_eq]
    rfl
  · simp only [herrors, if_false, false_and, List.append_nil]
    rfl

/-- The answer of a decoding: an error of the schema, value errors, unread names, or a
configuration. -/
theorem Decoder.decode_eq (d : Decoder A) (s : Schema A) (start : s.Config) (source : Source) :
    d.decode s start source
      = match s.firstError? d.registry [] with
        | some e => .error (.schema e)
        | none =>
          if (d.filled s start source).errors ≠ [] then
            .error (.values (d.filled s start source).errors)
          else if d.denyUnused = true ∧ d.unread (d.filled s start source) ≠ [] then
            .error (.unused (d.unread (d.filled s start source)))
          else .ok (d.filled s start source).config := by
  unfold Decoder.decode
  rw [d.run_eq]
  cases s.firstError? d.registry [] with
  | some e => rfl
  | none =>
      by_cases herrors : (d.filled s start source).errors = []
      · simp only [herrors, if_true, ne_eq, not_true, if_false, d.finish_eq]
      · simp only [herrors, if_false, ne_eq, not_false_eq_true, if_true]

/-- How a decoding ends: with an answer, and with what must be so for this answer. -/
inductive Decoder.Ends (d : Decoder A) (s : Schema A) (start : s.Config) (source : Source) :
    Except DecodeError s.Config → Prop
  | schema {e : SchemaError} (bad : s.firstError? d.registry [] = some e) :
      Ends d s start source (.error (.schema e))
  | values (fine : s.firstError? d.registry [] = none)
      (failed : (d.filled s start source).errors ≠ []) :
      Ends d s start source (.error (.values (d.filled s start source).errors))
  | unused (fine : s.firstError? d.registry [] = none)
      (settled : (d.filled s start source).errors = [])
      (unread : d.denyUnused = true ∧ d.unread (d.filled s start source) ≠ []) :
      Ends d s start source (.error (.unused (d.unread (d.filled s start source))))
  | decoded (fine : s.firstError? d.registry [] = none)
      (settled : (d.filled s start source).errors = [])
      (read : ¬ (d.denyUnused = true ∧ d.unread (d.filled s start source) ≠ [])) :
      Ends d s start source (.ok (d.filled s start source).config)

/-- A decoding ends in one of these ways. -/
theorem Decoder.ends_decode (d : Decoder A) (s : Schema A) (start : s.Config) (source : Source) :
    d.Ends s start source (d.decode s start source) := by
  rw [d.decode_eq]
  cases hfirst : s.firstError? d.registry [] with
  | some e => exact .schema hfirst
  | none =>
      by_cases herrors : (d.filled s start source).errors ≠ []
      · simp only [if_pos herrors]
        exact .values hfirst herrors
      · by_cases hunread : d.denyUnused = true ∧ d.unread (d.filled s start source) ≠ []
        · simp only [if_neg herrors, if_pos hunread]
          exact .unused hfirst (not_not.mp herrors) hunread
        · simp only [if_neg herrors, if_neg hunread]
          exact .decoded hfirst (not_not.mp herrors) hunread

/-- The ways in which a decoding ends do not overlap. -/
theorem Decoder.Ends.decode_eq {d : Decoder A} {start : s.Config} {source : Source}
    {answer : Except DecodeError s.Config} (hends : d.Ends s start source answer) :
    d.decode s start source = answer := by
  rw [d.decode_eq]
  cases hends with
  | schema bad => rw [bad]
  | values fine failed => simp only [fine, if_pos failed]
  | unused fine settled unread =>
      simp only [fine, settled, ne_eq, not_true, if_false, if_pos unread]
  | decoded fine settled read => simp only [fine, settled, ne_eq, not_true, if_false, if_neg read]

/-- A decoding ends in an answer exactly if what must be so for this answer is so. -/
theorem Decoder.decode_eq_iff_ends {d : Decoder A} {start : s.Config} {source : Source}
    {answer : Except DecodeError s.Config} :
    d.decode s start source = answer ↔ d.Ends s start source answer := by
  constructor
  · rintro rfl
    exact d.ends_decode s start source
  · exact Decoder.Ends.decode_eq

end EnvSettings
