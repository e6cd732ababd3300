/-
A report of value errors cannot be forged by a value. As long as all values are of built-in types
and no variable has a control character in its name, no text that a source holds gets a control
character into a message (`Schema.Leaf.controlFree_of_valueError?`). The report puts each message on
a line, and since none of them has a newline, these are its lines: a value can neither add a line
that looks like that of another variable nor hide one behind an escape sequence.
-/
import EnvSettings.Proofs.Decode.Answer
import EnvSettings.Proofs.Value.Messages
import EnvSettings.Sample.Plain

namespace EnvSettings

open EnvSettings.Source EnvSettings.Text

variable {A : Type} [AppTypes A] [DecidableEq A] {s : Schema A} {registry : Registry A}
  {stem : String} {start : s.Config} {source : Source}

-- ================================================================= errors

namespace Schema.Leaf

variable (hregistry : registry = .empty ∨ registry = .builtins) {l : s.Leaf} (ht : l.type.BuiltIn)

include hregistry ht

/-- A leaf fails with words that have no control character. -/
theorem controlFree_of_resolve {fault : ValueFault}
    (h : l.resolve registry stem start source = .error fault) : ControlFree fault.message := by
  have hdecode : ∀ {raw : String} {e : ParseError}, l.decode registry raw = .error e →
      ControlFree e.message := TypeCode.controlFree_of_decodeField hregistry ht
  unfold resolve at h
  split at h
  · next text _ =>
      cases hread : l.decode registry text with
      | ok v =>
          rw [hread] at h
          cases h
      | error e =>
          rw [hread] at h
          cases h
          exact hdecode hread
  · split at h
    · cases h
      exact (by decide : ControlFree "required field is not set")
    · split at h
      · cases h
      · next text _ =>
          cases hread : l.decode registry text with
          | ok v =>
              rw [hread] at h
              cases h
          | error e =>
              rw [hread] at h
              cases h
              have hdefault : ControlFree "setting default value " := by decide
              exact .append (controlFree_around hdefault (by decide) text) (hdecode hread)

/-- An error speaks of the leaf's variable in words without control characters. -/
theorem controlFree_of_valueError? {e : ValueError}
    (h : l.valueError? registry stem start source = some e) :
    e.key = l.key stem ∧ ControlFree e.fault.message := by
  unfold valueError? at h
  split at h
  · cases h
  · next fault hresolve =>
      cases h
      exact ⟨rfl, controlFree_of_resolve hregistry ht hresolve⟩

end Schema.Leaf

/-- Value errors are those of leaves. -/
theorem Decoder.exists_leaf_of_decode {d : Decoder A} {errors : List ValueError}
    (h : d.decode s start source = .error (.values errors)) :
    errors ≠ []
      ∧ ∀ e ∈ errors, ∃ l : s.Leaf, l.valueError? d.registry d.stem start source = some e := by
  cases Decoder.decode_eq_iff_ends.mp h with
  | values fine failed =>
      refine ⟨failed, fun e he => ?_⟩
      obtain ⟨l, -, hl⟩ := List.mem_filterMap.mp he
      exact ⟨l, hl⟩

-- ================================================================ reports

/-- The error has neither a variable nor words with a control character. -/
structure ValueError.Plain (e : ValueError) : Prop where
  key : ControlFree e.key
  words : ControlFree e.fault.message

namespace ValueError.Plain

variable {e : ValueError} (h : e.Plain)

include h

theorem message : ControlFree e.message := by
  have hbefore : ControlFree "env var " := by decide
  exact ((hbefore.append h.key).append (by decide)).append h.words

theorem reportLine : ControlFree (e.reportLine .plain) := by
  have hbefore : ControlFree "  - " := by decide
  exact ((hbefore.append h.key).append (by decide)).append h.words

end ValueError.Plain

/-- What a report without colours says first. -/
def reportHeader (count : Nat) : String := s!"Configuration failed with {count} error(s):"

theorem controlFree_reportHeader (count : Nat) : ControlFree (reportHeader count) := by
  have hbefore : ControlFree "Configuration failed with " := by decide
  exact (hbefore.append (controlFree_toString count)).append (by decide)

/-- What a report without colours says, line by line. -/
def reportLines (errors : List ValueError) : List String :=
  reportHeader errors.length :: errors.map (·.reportLine .plain)

/-- A report is its lines, each with a newline behind it. -/
theorem report_plain {errors : List ValueError} (herrors : errors ≠ []) :
    report .plain errors = String.join ((reportLines errors).map (· ++ "\n")) := by
  have hlines : errors.map (·.reportLine .plain) ≠ [] := List.map_eq_nil_iff.not.mpr herrors
  have hheader : s!"Configuration failed with {errors.length} error(s):\n"
      = reportHeader errors.length ++ "\n" := by
    have hend : " error(s):\n" = " error(s):" ++ "\n" := by decide
    have hcount := congrArg ("Configuration failed with " ++ toString errors.length ++ ·) hend
    exact hcount.trans String.append_assoc.symm
  calc report .plain errors
      = s!"Configuration failed with {errors.length} error(s):\n"
          ++ "\n".intercalate (errors.map (·.reportLine .plain)) ++ "\n" := rfl
    _ = reportHeader errors.length ++ "\n"
          ++ ("\n".intercalate (errors.map (·.reportLine .plain)) ++ "\n") := by
        rw [hheader, String.append_assoc]
    _ = String.join ((reportLines errors).map (· ++ "\n")) := by
        rw [intercalate_newline_append hlines]
        exact String.join_cons.symm

/-- No line of a report has a control character, if no variable and no words have one. -/
theorem controlFree_of_mem_reportLines {errors : List ValueError}
    (herrors : ∀ e ∈ errors, e.Plain) : ∀ line ∈ reportLines errors, ControlFree line := by
  intro line hline
  rcases List.mem_cons.mp hline with rfl | hline
  · exact controlFree_reportHeader _
  · obtain ⟨e, he, rfl⟩ := List.mem_map.mp hline
    exact (herrors e he).reportLine

-- =========================================================== what is shown

/-- A decoding that is to report its value errors writes their report, and it writes nothing
else. -/
theorem Decoder.echoed_eq (d : Decoder A) (s : Schema A) (start : s.Config) (source : Source)
    (palette : Palette) :
    (d.run s start source).echoed palette
      = match d.decode s start source with
        | .error (.values errors) => if d.echo then report palette errors else ""
        | _ => "" := by
  have hends := d.ends_decode s start source
  rw [d.run_eq]
  generalize d.decode s start source = answer at hends ⊢
  cases hends with
  | schema bad =>
      rw [bad]
  | values fine failed => simp only [fine, if_neg failed]
  | unused fine settled unread => simp only [fine, if_pos settled, d.finish_eq]
  | decoded fine settled read => simp only [fine, if_pos settled, d.finish_eq]

/-- Values forge no report. Let all values of a schema be of built-in types and let no variable have
a control character in its name. Whatever texts the source holds, no message of a value error has a
control character, and the report without colours is its header and one line for each error in
their order, which gives the variable's name and says what is wrong. -/
theorem decode_errors_control_free (s : Schema A) (registry : Registry A)
    (hregistry : registry = .empty ∨ registry = .builtins) (stem : String)
    (strict echo : Bool) (start : s.Config) (source : Source)
    (htypes : ∀ l : s.Leaf, l.type.BuiltIn) (hkeys : ∀ l : s.Leaf, ControlFree (l.key stem))
    {errors : List ValueError}
    (herrors : (Decoder.mk registry stem strict echo).decode s start source
      = .error (.values errors)) :
    (∀ e ∈ errors, ControlFree e.message ∧ ControlFree e.fault.message)
      ∧ ControlFree (DecodeError.values errors).message
      ∧ errors ≠ []
      ∧ lines (report .plain errors)
        = s!"Configuration failed with {errors.length} error(s):"
          :: errors.map (fun e => s!"  - {e.key}: {e.fault.message}")
      ∧ ∀ line ∈ lines (report .plain errors), ControlFree line := by
  obtain ⟨hne, hleaves⟩ := Decoder.exists_leaf_of_decode herrors
  have hplain : ∀ e ∈ errors, e.Plain := by
    intro e he
    obtain ⟨l, hl⟩ := hleaves e he
    obtain ⟨hkey, hwords⟩ := l.controlFree_of_valueError? hregistry (htypes l) hl
    exact ⟨hkey ▸ hkeys l, hwords⟩
  have hfree := controlFree_of_mem_reportLines hplain
  have hlines : lines (report .plain errors) = reportLines errors := by
    rw [report_plain hne]
    exact lines_join fun line hline => (hfree line hline).newline_not_mem
  refine ⟨fun e he => ⟨(hplain e he).message, (hplain e he).words⟩, ?_, hne, hlines, ?_⟩
  · have hbefore : ControlFree "one or more config errors have occurred: " := by decide
    refine hbefore.append (.intercalate (by decide) fun message hmessage => ?_)
    obtain ⟨e, he, rfl⟩ := List.mem_map.mp hmessage
    exact (hplain e he).message
  · rw [hlines]
    exact hfree

/-- Values that try to add a line for another variable, to clear the screen and to leave the quotes,
one of them in a list. -/
theorem decode_errors_control_free_hostile :
    let s : Schema Empty :=
      .value "level" (.scalar (.int ⟨false, .bits8⟩)) false .plain <|
      .value "pauses" (.list (.option (.scalar .duration))) false .plain <|
      .value "limit" (.scalar .byteSize) false ⟨true, none, ""⟩ .done
    let errors : List ValueError :=
      [⟨"LEVEL", .invalid (.int "7\n  - LIMIT: fine" .invalidDigit)⟩,
        ⟨"PAUSES", .invalid (.element 1 "\x1b[2J\""
          (.custom "parsing \"\\u\x7b1b\x7d[2J\\\"\": invalid duration"))⟩,
        ⟨"LIMIT", .required⟩]
    (∀ l : s.Leaf, l.type.BuiltIn) ∧ (∀ l : s.Leaf, ControlFree (l.key ""))
      ∧ (Decoder.mk Registry.builtins "" true true).decode s s.initial
          (ofBindings [("LEVEL", "7\n  - LIMIT: fine"), ("PAUSES", "1s,\x1b[2J\"")])
        = .error (.values errors)
      ∧ lines (report .plain errors)
        = ["Configuration failed with 3 error(s):",
          "  - LEVEL: parsing \"7\\n  - LIMIT: fine\": invalid digit found in string",
          "  - PAUSES: element 1 \"\\u\x7b1b\x7d[2J\\\"\": " ++
            "parsing \"\\u\x7b1b\x7d[2J\\\"\": invalid duration",
          "  - LIMIT: required field is not set"] := by
  intro s errors
  have htypes : ∀ l : s.Leaf, l.type.BuiltIn := by
    have hall : ∀ l ∈ s.leaves, l.type.BuiltIn := by decide
    exact fun l => hall l (Schema.mem_leaves l)
  have hkeys : ∀ l : s.Leaf, ControlFree (l.key "") := by
    have hall : ∀ l ∈ s.leaves, ControlFree (l.key "") := by decide +kernel
    exact fun l => hall l (Schema.mem_leaves l)
  have hanswer : (Decoder.mk Registry.builtins "" true true).decode s s.initial
      (ofBindings [("LEVEL", "7\n  - LIMIT: fine"), ("PAUSES", "1s,\x1b[2J\"")])
      = .error (.values errors) := by
    refine (Decoder.decode_eq_values_iff rfl).mpr ⟨?_, List.cons_ne_nil _ _⟩
    decide +kernel
  obtain ⟨-, -, -, hlines, -⟩ := decode_errors_control_free s Registry.builtins (.inr rfl) ""
    true true s.initial _ htypes hkeys hanswer
  refine ⟨htypes, hkeys, hanswer, ?_⟩
  rw [hlines]
  decide +kernel

end EnvSettings
