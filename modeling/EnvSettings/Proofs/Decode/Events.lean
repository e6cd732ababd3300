/-
What a decoding tells its log, and what it does not.

The events of a decoding follow from its answer (`Decoder.events_eq`): there are none if the
schema is not fine; else there is one before the first variable is read, one for each leaf, and
one at the end, which tells the kind of the answer with the number of errors or the names that
are unread. Nothing else of the answer goes in, and neither does the source.

So the values of a source show in two things only: how many leaves fail and, if none does, which
names a strict decoding finds unread. Two sources that are alike in these leave the same log
(`decode_log_tells_no_value`).
-/
import EnvSettings.Proofs.Decode.Unused
import EnvSettings.Sample.Plain

namespace EnvSettings

open EnvSettings.Source EnvSettings.Text

variable {A : Type} [AppTypes A] {s : Schema A}

-- ================================================================ events

/-- What a reader of the log sees of an event: its level, its words, and the named texts that go
with it. -/
def LogEvent.shown (e : LogEvent) : LogLevel × String × List (String × String) :=
  (e.level, e.message, e.fields)

/-- What a decoding tells until every leaf is settled. -/
def Decoder.opening (d : Decoder A) (s : Schema A) : List LogEvent :=
  .decoding d.stem s.leaves.length :: s.leaves.map fun l => .reading (l.key d.stem)

/-- The log that goes with an answer. -/
def Decoder.log (d : Decoder A) (s : Schema A) : Except DecodeError s.Config → List LogEvent
  | .error (.schema _) => []
  | .error (.values errors) => d.opening s ++ [.invalid errors.length]
  | .error (.unused names) => d.opening s ++ [.unused names]
  | .ok _ => d.opening s ++ [.decoded d.stem]

variable [DecidableEq A]

/-- The events of a decoding are the log of its answer. -/
theorem Decoder.events_eq (d : Decoder A) (s : Schema A) (start : s.Config) (source : Source) :
    (d.run s start source).events = d.log s (d.decode s start source) := by
  have hends := d.ends_decode s start source
  rw [d.run_eq]
  generalize d.decode s start source = answer at hends ⊢
  cases hends with
  | schema bad =>
      rw [bad]
      rfl
  | values fine failed =>
      simp only [fine, if_neg failed]
      rfl
  | unused fine settled unread =>
      simp only [fine, if_pos settled, d.finish_eq, if_pos unread]
      rfl
  | decoded fine settled read =>
      simp only [fine, if_pos settled, d.finish_eq, if_neg read]
      rfl

-- ======================================================== failing leaves

/-- The leaves that do not come to a value, in their order. -/
def Schema.failing (s : Schema A) (registry : Registry A) (stem : String) (start : s.Config)
    (source : Source) : List s.Leaf :=
  s.leaves.filter fun l => !(l.resolve registry stem start source).isOk

/-- A leaf has an error exactly if it does not come to a value. -/
theorem Schema.Leaf.isSome_valueError? {registry : Registry A} {stem : String} {start : s.Config}
    {source : Source} (l : s.Leaf) :
    (l.valueError? registry stem start source).isSome
      = !(l.resolve registry stem start source).isOk := by
  unfold valueError?
  cases l.resolve registry stem start source with
  | ok v => rfl
  | error fault => rfl

/-- There is one error for each leaf that fails. -/
theorem Decoder.length_errors_filled (d : Decoder A) (s : Schema A) (start : s.Config)
    (source : Source) :
    (d.filled s start source).errors.length
      = (s.failing d.registry d.stem start source).length := by
  unfold Decoder.filled Schema.failing
  simp only [List.length_filterMap_eq_countP, List.countP_eq_length_filter,
    Schema.Leaf.isSome_valueError?]

/-- Where no leaf fails the pass has no errors. -/
theorem Decoder.filled_errors_eq_nil_iff_failing {d : Decoder A} {start : s.Config}
    {source : Source} :
    (d.filled s start source).errors = [] ↔ s.failing d.registry d.stem start source = [] := by
  rw [← List.length_eq_zero_iff, d.length_errors_filled, List.length_eq_zero_iff]

-- ================================================================ two runs

/-- Sources of which as many leaves fail, and whose unread names are the same if it comes to
these, have answers with the same log. -/
theorem Decoder.log_congr {d : Decoder A} {start : s.Config} {source other : Source}
    (hfailing : (s.failing d.registry d.stem start source).length
      = (s.failing d.registry d.stem start other).length)
    (hunread : s.failing d.registry d.stem start source = [] → d.denyUnused = true →
      d.unread (d.filled s start source) = d.unread (d.filled s start other)) :
    d.log s (d.decode s start source) = d.log s (d.decode s start other) := by
  have hlength : (d.filled s start source).errors.length
      = (d.filled s start other).errors.length := by
    rw [d.length_errors_filled, d.length_errors_filled, hfailing]
  have herrors : (d.filled s start source).errors = [] ↔ (d.filled s start other).errors = [] := by
    rw [← List.length_eq_zero_iff, hlength, List.length_eq_zero_iff]
  have hnames : (d.filled s start source).errors = [] → d.denyUnused = true →
      d.unread (d.filled s start source) = d.unread (d.filled s start other) := fun hsettled =>
    hunread (Decoder.filled_errors_eq_nil_iff_failing.mp hsettled)
  have hends := d.ends_decode s start source
  generalize d.decode s start source = answer at hends ⊢
  cases hends with
  | schema bad => rw [(Decoder.Ends.schema bad).decode_eq]
  | values fine failed =>
      rw [(Decoder.Ends.values fine (mt herrors.mpr failed)).decode_eq]
      show d.opening s ++ [.invalid (d.filled s start source).errors.length]
        = d.opening s ++ [.invalid (d.filled s start other).errors.length]
      rw [hlength]
  | unused fine settled unread =>
      have hsame := hnames settled unread.1
      have hother : d.denyUnused = true ∧ d.unread (d.filled s start other) ≠ [] := by
        rwa [← hsame]
      rw [(Decoder.Ends.unused fine (herrors.mp settled) hother).decode_eq, hsame]
  | decoded fine settled read =>
      have hother : ¬ (d.denyUnused = true ∧ d.unread (d.filled s start other) ≠ []) := by
        rintro ⟨hstrict, hne⟩
        refine read ⟨hstrict, ?_⟩
        rwa [hnames settled hstrict]
      rw [(Decoder.Ends.decoded fine (herrors.mp settled) hother).decode_eq]
      rfl

/-- Sorting forgets the order in which names came. -/
theorem mergeSort_eq_of_perm {names others : List String} (hperm : names.Perm others) :
    names.mergeSort (· ≤ ·) = others.mergeSort (· ≤ ·) := by
  have hsorted : (names.mergeSort (· ≤ ·)).Perm (others.mergeSort (· ≤ ·)) :=
    ((List.mergeSort_perm _ _).trans hperm).trans (List.mergeSort_perm _ _).symm
  refine List.Perm.eq_of_pairwise (fun a b _ _ hab hba => ?_) (pairwise_mergeSort names)
    (pairwise_mergeSort others) hsorted
  exact String.le_antisymm hab hba

/-- The log of a decoding. A schema that is not fine leaves no log. Else the log tells the stem
and the number of leaves, the variable of each leaf in the order of the leaves, and at the end one
thing more: the number of leaves that fail, or the unread names in ascending order, or that there
is a configuration. So two sources of which as many leaves fail, and whose unread names are the
same when no leaf fails and unread names matter, leave the same log. -/
theorem decode_log_tells_no_value (s : Schema A) (registry : Registry A) (stem : String)
    (strict echo : Bool) (start : s.Config) :
    let d : Decoder A := ⟨registry, stem, strict, echo⟩
    let shown : Source → List (LogLevel × String × List (String × String)) :=
      fun source => (d.run s start source).events.map LogEvent.shown
    let opening := (LogLevel.debug, "decoding configuration",
        [("prefix", stem), ("fields", toString s.leaves.length)])
      :: s.leaves.map fun l => (LogLevel.trace, "reading variable", [("env_var", l.key stem)])
    (∀ source e, d.decode s start source = .error (.schema e) → shown source = [])
      ∧ (∀ source errors, d.decode s start source = .error (.values errors) →
        errors.length = (s.failing registry stem start source).length
          ∧ shown source = opening ++ [(.debug, "configuration has invalid values",
              [("errors", toString errors.length)])])
      ∧ (∀ source names, d.decode s start source = .error (.unused names) →
        names.Pairwise (· ≤ ·)
          ∧ names.Perm (source.list.filter fun name => s.Unread stem name)
          ∧ shown source = opening ++ [(.warn,
              "environment defines variables the config does not use",
              [("unused", quoteAll names)])])
      ∧ (∀ source c, d.decode s start source = .ok c →
        shown source = opening ++ [(.debug, "configuration decoded", [("prefix", stem)])])
      ∧ ∀ source other,
        (s.failing registry stem start source).length
            = (s.failing registry stem start other).length →
        (s.failing registry stem start source = [] → strict = true →
          (source.list.filter fun name => s.Unread stem name).Perm
            (other.list.filter fun name => s.Unread stem name)) →
        shown source = shown other := by
  intro d shown opening
  have hshown : ∀ source, shown source = (d.log s (d.decode s start source)).map LogEvent.shown :=
    fun source => congrArg (List.map LogEvent.shown) (d.events_eq s start source)
  have hopening : (d.opening s).map LogEvent.shown = opening := by
    unfold Decoder.opening
    rw [List.map_cons, List.map_map]
    rfl
  have hclosing : ∀ e : LogEvent,
      (d.opening s ++ [e]).map LogEvent.shown = opening ++ [e.shown] := by
    intro e
    rw [List.map_append, hopening]
    rfl
  refine ⟨fun source e he => ?_, fun source errors herrors => ⟨?_, ?_⟩,
    fun source names hnames => ?_, fun source c hc => ?_, fun source other hfailing hunread => ?_⟩
  · rw [hshown, he]
    rfl
  · cases Decoder.decode_eq_iff_ends.mp herrors with
    | values fine failed => exact d.length_errors_filled s start source
  · rw [hshown, herrors]
    exact hclosing _
  · have hlisted : names = (source.list.filter fun name => s.Unread stem name).mergeSort (· ≤ ·) :=
      (Decoder.eq_unread_of_decode hnames).trans (d.unread_filled s start source)
    rw [hshown, hnames, hlisted]
    exact ⟨pairwise_mergeSort _, List.mergeSort_perm _ _, hclosing _⟩
  · rw [hshown, hc]
    exact hclosing _
  · rw [hshown, hshown, d.log_congr hfailing]
    intro hnone hstrict
    rw [d.unread_filled, d.unread_filled]
    exact mergeSort_eq_of_perm (hunread hnone hstrict)

/-- Two passwords, and two levels that cannot be read, leave the same log. The first source also
defines a name that nothing reads, but it does not come to a look at the names. -/
theorem decode_log_tells_no_value_password :
    let s : Schema Empty :=
      .value "password" (.scalar .string) false ⟨true, none, ""⟩ <|
      .group "log" .plain (.value "level" (.scalar (.int ⟨false, .bits8⟩)) false .plain .done) .done
    let source := ofBindings [("A_PASSWORD", "hunter2"), ("A_LOG_LEVEL", "high"), ("A_X", "1")]
    let other := ofBindings [("A_PASSWORD", "swordfish"), ("A_LOG_LEVEL", "256")]
    let start := s.initial
    let d : Decoder Empty := ⟨Registry.empty, "A_", true, false⟩
    (s.failing Registry.empty "A_" start source).length
        = (s.failing Registry.empty "A_" start other).length
      ∧ (d.run s start source).events.map LogEvent.shown
        = (d.run s start other).events.map LogEvent.shown
      ∧ (d.run s start source).events.map LogEvent.shown
        = [(.debug, "decoding configuration", [("prefix", "A_"), ("fields", "2")]),
            (.trace, "reading variable", [("env_var", "A_PASSWORD")]),
            (.trace, "reading variable", [("env_var", "A_LOG_LEVEL")]),
            (.debug, "configuration has invalid values", [("errors", "1")])] := by
  intro s source other start d
  have hfailing : (s.failing Registry.empty "A_" start source).length = 1 := by decide +kernel
  have hother : (s.failing Registry.empty "A_" start other).length = 1 := by decide +kernel
  have hlog := decode_log_tells_no_value s Registry.empty "A_" true false start
  refine ⟨hfailing.trans hother.symm, ?_, by decide +kernel⟩
  refine hlog.2.2.2.2 source other (hfailing.trans hother.symm) fun hnone _ => ?_
  rw [hnone] at hfailing
  cases hfailing

end EnvSettings
