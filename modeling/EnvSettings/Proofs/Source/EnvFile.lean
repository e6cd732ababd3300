/-
What a file with variables says, line by line.

A line is known by what is left of it once it is trimmed. If that is nothing or starts with a number
sign, the line says nothing; if it has an equals sign, the line says a name and its value, which are
what stands before and behind the first one (`Says`). All other lines are offences, and so are those
that are not text at all (`Offends`). Reading a line gives what it says, or its offence
(`readLine_eq_ok_iff`, `readLine_eq_error_iff`).

# Lines

Lines are ended by a newline, or by a carriage return and a newline (`Lined`). The reader cuts at
newlines only. What it takes for a part of the line, a carriage return, is white space, and trimming
drops it (`readLine_carriageReturn`). So for any way of taking the bytes for lines the file says
what these lines say (`read_of_lined`).

# Files

In a file earlier offences and later bindings count. The first offence is the error whatever comes
behind it, and without one the last line that says a name gives it its value
(`value?_eq_some_iff_last`). Both are inductions on the lines from the front: a binding is looked up
behind the first line before the first line is asked.
-/
import EnvSettings.Proofs.Lists
import EnvSettings.Proofs.Source.Listing
import EnvSettings.Proofs.Text.Blank

namespace EnvSettings.Source.EnvFile

open EnvSettings.Text

-- =================================================================== lines

/-- The bytes are these lines, each with its ending behind it. The last line may have none. -/
inductive Lined : Bytes → List Bytes → Prop
  | nothing : Lined [] []
  | unended {line : Bytes} (nonempty : line ≠ []) (whole : 10 ∉ line) : Lined line [line]
  | ended {line ending rest : Bytes} {lines : List Bytes} (whole : 10 ∉ line)
      (ending_eq : ending = [10] ∨ ending = [13, 10]) (others : Lined rest lines) :
      Lined (line ++ ending ++ rest) (line :: lines)

/-- All bytes can be taken for lines. -/
theorem exists_lined (contents : Bytes) : ∃ lines, Lined contents lines := by
  -- the first newline leaves fewer bytes behind it
  induction hlength : contents.length using Nat.strongRecOn generalizing contents with
  | _ length ih =>
      by_cases hnewline : 10 ∈ contents
      · obtain ⟨line, rest, rfl, hline⟩ := List.eq_append_cons_of_mem hnewline
        rw [List.length_append, List.length_cons] at hlength
        obtain ⟨lines, hlines⟩ := ih rest.length (by omega) rest rfl
        have hended := Lined.ended hline (Or.inl rfl) hlines
        rw [List.append_assoc, List.singleton_append] at hended
        exact ⟨line :: lines, hended⟩
      · by_cases hempty : contents = []
        · exact ⟨[], hempty ▸ .nothing⟩
        · exact ⟨[contents], .unended hempty hnewline⟩

-- ================================================================ one line

/-- What a line says: nothing, or a name and its value. -/
inductive Says : Bytes → Option (String × String) → Prop
  | nothing {text : String} {core : List Char} (trims : Trims text.toList core)
      (silent : core = [] ∨ core.head? = some '#') : Says (Bytes.ofText text) none
  | binding {text name value : String} (trims : Trims text.toList (name ++ "=" ++ value).toList)
      (unmarked : name.toList.head? ≠ some '#') (first : '=' ∉ name.toList) :
      Says (Bytes.ofText text) (some (name, value))

/-- The line is one for which the file at the path is refused, with this error. -/
inductive Offends (path : String) : Bytes → SourceError → Prop
  | unreadable {line : Bytes} (unreadable : ∀ text, line ≠ Bytes.ofText text) :
      Offends path line (.unreadable path .invalidText)
  | noEquals {text core : String} (trims : Trims text.toList core.toList) (nonempty : core ≠ "")
      (unmarked : core.toList.head? ≠ some '#') (noEquals : '=' ∉ core.toList) :
      Offends path (Bytes.ofText text) (.noEquals path core)

/-- A line is split at its first equals sign. -/
theorem splitAtEquals_append {name : List Char} (hname : '=' ∉ name) (value : List Char) :
    splitAtEquals (name ++ '=' :: value) = some (String.ofList name, String.ofList value) := by
  have hbefore : ∀ c ∈ name, decide (c ≠ '=') = true := by
    intro c hc
    apply decide_eq_true
    intro hequals
    rw [hequals] at hc
    exact hname hc
  have hbehind : ∀ c ∈ ('=' :: value).head?, decide (c ≠ '=') = false := by simp
  obtain ⟨htake, hdrop⟩ := span_append hbefore hbehind
  rw [splitAtEquals, hdrop, htake]
  rfl

/-- A line without an equals sign is not split. -/
theorem splitAtEquals_eq_none {cs : List Char} (hcs : '=' ∉ cs) : splitAtEquals cs = none := by
  have hall : cs.dropWhile (· ≠ '=') = [] := by
    rw [List.dropWhile_eq_nil_iff]
    intro c hc
    apply decide_eq_true
    intro hequals
    rw [hequals] at hc
    exact hcs hc
  rw [splitAtEquals, hall]

section

variable {path : String} {line : Bytes}

/-- Reading a line that is text, by what trimming leaves of it. -/
theorem readLine_ofText (path : String) {text : String} {core : List Char}
    (htrims : Trims text.toList core) :
    readLine path (Bytes.ofText text)
      = if core = [] ∨ core.head? = some '#' then .ok none
        else (splitAtEquals core).elim (.error (.noEquals path (String.ofList core)))
          fun binding => .ok (some binding) := by
  simp only [readLine, Bytes.text?_eq_some_iff.mpr rfl, htrims.trimBlank_eq]
  cases splitAtEquals core with
  | none => rfl
  | some binding => rfl

/-- A line is read as what it says. -/
theorem Says.readLine_eq {said : Option (String × String)} (h : Says line said) (path : String) :
    readLine path line = .ok said := by
  cases h with
  | nothing htrims hsilent => rw [readLine_ofText path htrims, if_pos hsilent]
  | @binding text name value htrims hunmarked hfirst =>
      have hcore : (name ++ "=" ++ value).toList = name.toList ++ '=' :: value.toList := by simp
      have hname : ∀ c ∈ name.toList.head?, c ≠ '#' := by
        intro c hc hmark
        rw [hmark] at hc
        exact hunmarked hc
      have hmarks : ∀ c ∈ (name.toList ++ '=' :: value.toList).head?, c ≠ '#' :=
        forall_mem_head?_around hname (by decide) _
      have hmeans : ¬ (name.toList ++ '=' :: value.toList = []
          ∨ (name.toList ++ '=' :: value.toList).head? = some '#') := by
        rw [not_or]
        exact ⟨by simp, fun hmark => hmarks _ hmark rfl⟩
      rw [hcore] at htrims
      rw [readLine_ofText path htrims, if_neg hmeans, splitAtEquals_append hfirst]
      simp

/-- A line that offends is an error. -/
theorem Offends.readLine_eq {e : SourceError} (h : Offends path line e) :
    readLine path line = .error e := by
  cases h with
  | unreadable hunreadable => rw [readLine, Bytes.text?_eq_none_iff.mpr hunreadable]
  | @noEquals text core htrims hsome hunmarked hequals =>
      have hmeans : ¬ (core.toList = [] ∨ core.toList.head? = some '#') := by
        simp [hsome, hunmarked]
      rw [readLine_ofText path htrims, if_neg hmeans, splitAtEquals_eq_none hequals]
      simp

/-- A line says something or nothing, or it is an offence. -/
theorem says_or_offends (path : String) (line : Bytes) :
    (∃ said, Says line said) ∨ ∃ e, Offends path line e := by
  by_cases htext : ∃ text, line = Bytes.ofText text
  · obtain ⟨text, rfl⟩ := htext
    have htrims := trims_trimBlank text.toList
    generalize trimBlank text.toList = core at htrims
    by_cases hsilent : core = [] ∨ core.head? = some '#'
    · exact Or.inl ⟨none, .nothing htrims hsilent⟩
    · rw [not_or] at hsilent
      by_cases hequals : '=' ∈ core
      · obtain ⟨name, value, rfl, hfirst⟩ := List.eq_append_cons_of_mem hequals
        refine Or.inl ⟨some (String.ofList name, String.ofList value), .binding ?_ ?_ ?_⟩
        · simpa using htrims
        · intro hmark
          rw [String.toList_ofList] at hmark
          exact hsilent.2 (by rw [List.head?_append, hmark]; rfl)
        · simpa using hfirst
      · have hcore : core = (String.ofList core).toList := String.toList_ofList.symm
        rw [hcore] at htrims hsilent hequals
        refine Or.inr ⟨_, .noEquals htrims ?_ hsilent.2 hequals⟩
        intro hempty
        exact hsilent.1 (by rw [hempty]; rfl)
  · exact Or.inr ⟨_, .unreadable fun text h => htext ⟨text, h⟩⟩

/-- What is read of a line is exactly what it says. -/
theorem readLine_eq_ok_iff (path : String) {said : Option (String × String)} :
    readLine path line = .ok said ↔ Says line said := by
  apply Iff.intro
  · intro h
    rcases says_or_offends path line with ⟨said', hmeans⟩ | ⟨e, hoffends⟩
    · have hsame := h.symm.trans (hmeans.readLine_eq path)
      rw [Except.ok.inj hsame]
      exact hmeans
    · rw [hoffends.readLine_eq] at h
      cases h
  · intro h
    exact h.readLine_eq path

/-- The reading of a line fails exactly if the line offends. -/
theorem readLine_eq_error_iff {e : SourceError} :
    readLine path line = .error e ↔ Offends path line e := by
  apply Iff.intro
  · intro h
    rcases says_or_offends path line with ⟨said, hmeans⟩ | ⟨e', hoffends⟩
    · rw [hmeans.readLine_eq path] at h
      cases h
    · have hsame := h.symm.trans hoffends.readLine_eq
      rw [Except.error.inj hsame]
      exact hoffends
  · exact Offends.readLine_eq

/-- A line says something, or nothing, exactly if it does not offend. -/
theorem says_iff_forall_not_offends (path : String) :
    (∃ said, Says line said) ↔ ∀ e, ¬ Offends path line e := by
  apply Iff.intro
  · intro ⟨said, hmeans⟩ e hoffends
    have hsame := (hmeans.readLine_eq path).symm.trans hoffends.readLine_eq
    cases hsame
  · intro hnone
    exact (says_or_offends path line).resolve_right fun ⟨e, he⟩ => hnone e he

/-- A carriage return at the end of a line makes no difference. -/
theorem readLine_carriageReturn (path : String) (line : Bytes) :
    readLine path (line ++ [13]) = readLine path line := by
  have hreturn : Bytes.ofText "\r" = [13] := by decide
  by_cases htext : ∃ text, line = Bytes.ofText text
  · obtain ⟨text, rfl⟩ := htext
    have htrims := trims_trimBlank text.toList
    have hlonger : Trims (text ++ "\r").toList (trimBlank text.toList) := by
      obtain ⟨⟨front, back, hcs, hfront, hback⟩, hstart, hfinish⟩ := htrims
      refine ⟨⟨front, back ++ ['\r'], ?_, hfront, fun c hc => ?_⟩, hstart, hfinish⟩
      · rw [String.toList_append, ← List.append_assoc, ← hcs]
        rfl
      · rcases List.mem_append.mp hc with hc | hc
        · exact hback c hc
        · rw [List.mem_singleton.mp hc]
          decide
    rw [← hreturn, ← Bytes.ofText_append, readLine_ofText path hlonger,
      readLine_ofText path htrims]
  · have hline : ∀ text, line ≠ Bytes.ofText text := fun text h => htext ⟨text, h⟩
    have hlonger : ∀ text, line ++ [13] ≠ Bytes.ofText text := by
      intro text h
      obtain ⟨⟨front, hfront⟩, -⟩ := Bytes.text_of_append_cons (by decide) h
      exact hline front hfront
    rw [(Offends.unreadable hlonger).readLine_eq, (Offends.unreadable hline).readLine_eq]

end

-- =================================================================== files

section

variable {path : String} {lines : List Bytes} {bindings : Bindings}

/-- However the bytes are taken for lines, the file is read as these lines. -/
theorem read_of_lined {contents : Bytes} (hlines : Lined contents lines) :
    read path contents = readLines path lines := by
  rw [read]
  induction hlines with
  | nothing => rfl
  | unended hsome hwhole =>
      rw [piecesEndedBy_of_notMem hwhole hsome]
  | @ended line ending rest lines hwhole hending _ ih =>
      have hread : ∃ cut, piecesEndedBy 10 (line ++ ending ++ rest)
          = cut :: piecesEndedBy 10 rest
          ∧ readLine path cut = readLine path line := by
        rcases hending with rfl | rfl
        · refine ⟨line, ?_, rfl⟩
          rw [List.append_assoc, List.singleton_append, piecesEndedBy_append_cons,
            List.splitOn_eq_singleton hwhole, List.singleton_append]
        · refine ⟨line ++ [13], ?_, readLine_carriageReturn path line⟩
          have hlonger : 10 ∉ line ++ [13] := by simp [hwhole]
          have hbytes : line ++ [13, 10] ++ rest = (line ++ [13]) ++ 10 :: rest := by simp
          rw [hbytes, piecesEndedBy_append_cons, List.splitOn_eq_singleton hlonger,
            List.singleton_append]
      obtain ⟨cut, hcut, hsame⟩ := hread
      rw [hcut, readLines, readLines, hsame, ih]

/-- Lines are read as what the first one says and then what the others say. -/
theorem readLines_cons_eq_ok_iff {line : Bytes} :
    readLines path (line :: lines) = .ok bindings
      ↔ ∃ said more, Says line said ∧ readLines path lines = .ok more
        ∧ bindings = said.toList ++ more := by
  simp only [readLines, ← readLine_eq_ok_iff path]
  cases readLine path line with
  | error e => simp
  | ok said =>
      cases readLines path lines with
      | error e => simp
      | ok more => simp [eq_comm]

/-- A file is read exactly if no line is an offence. -/
theorem exists_readLines_eq_ok_iff :
    (∃ bindings, readLines path lines = .ok bindings)
      ↔ ∀ line ∈ lines, ∀ e, ¬ Offends path line e := by
  induction lines with
  | nil => simp [readLines]
  | cons line lines ih =>
      rw [List.forall_mem_cons, ← ih, ← says_iff_forall_not_offends]
      simp [readLines_cons_eq_ok_iff]

/-- It is refused exactly for its first offence. -/
theorem readLines_eq_error_iff {e : SourceError} :
    readLines path lines = .error e
      ↔ ∃ before line after, lines = before ++ line :: after
        ∧ (∀ other ∈ before, ∀ e', ¬ Offends path other e') ∧ Offends path line e := by
  induction lines with
  | nil => simp [readLines]
  | cons line lines ih =>
      rw [exists_split_cons_iff, readLines]
      simp only [List.forall_mem_cons]
      rcases says_or_offends path line with ⟨said, hmeans⟩ | ⟨e', hoffends⟩
      · have hfine := (says_iff_forall_not_offends path).mp ⟨said, hmeans⟩
        simp only [hmeans.readLine_eq path, hfine, not_false_eq_true, implies_true, true_and,
          and_false, false_or, ← ih]
        cases readLines path lines with
        | error e' => simp
        | ok bindings => simp
      · have hbad : ¬ ∀ e, ¬ Offends path line e := fun hfine => hfine e' hoffends
        have hwhy : e' = e ↔ Offends path line e := by
          rw [← readLine_eq_error_iff, hoffends.readLine_eq, Except.error.injEq]
        simp [hoffends.readLine_eq, hbad, hwhy]

-- ================================================================ bindings

/-- What a line says gives a name a value exactly if the line says the name with that value. -/
theorem value?_of_said {line : Bytes} {said : Option (String × String)} (hmeans : Says line said)
    {name value : String} :
    Bindings.value? said.toList name = some value ↔ Says line (some (name, value)) := by
  have hone : ∀ {other}, Says line other → said = other := fun hother =>
    Except.ok.inj ((hmeans.readLine_eq "").symm.trans (hother.readLine_eq ""))
  apply Iff.intro
  · intro hvalue
    cases said with
    | none => cases hvalue
    | some binding =>
        by_cases hname : binding.1 = name
        · have hsaid : binding = (name, value) := by
            simp [Bindings.value?, hname] at hvalue
            rw [← hname, ← hvalue]
          rw [← hsaid]
          exact hmeans
        · simp [Bindings.value?, hname] at hvalue
  · intro hother
    rw [hone hother]
    simp [Bindings.value?]

/-- The bindings of lines have no value for the names that no line says. -/
theorem value?_eq_none_iff_unsaid (hread : readLines path lines = .ok bindings) {name : String} :
    bindings.value? name = none
      ↔ ∀ line ∈ lines, ∀ value, ¬ Says line (some (name, value)) := by
  induction lines generalizing bindings with
  | nil =>
      cases hread
      simp [Bindings.value?]
  | cons line lines ih =>
      obtain ⟨said, more, hmeans, hrest, rfl⟩ := readLines_cons_eq_ok_iff.mp hread
      rw [Bindings.value?_append, Option.or_eq_none_iff, ih hrest, List.forall_mem_cons, and_comm]
      refine and_congr_left fun _ => ?_
      rw [Option.eq_none_iff_forall_ne_some]
      exact forall_congr' fun value => not_congr (value?_of_said hmeans)

/-- They have for a name the value that the last line says which says the name. -/
theorem value?_eq_some_iff_last (hread : readLines path lines = .ok bindings)
    {name value : String} :
    bindings.value? name = some value
      ↔ ∃ before line after, lines = before ++ line :: after
        ∧ Says line (some (name, value))
        ∧ ∀ later ∈ after, ∀ other, ¬ Says later (some (name, other)) := by
  induction lines generalizing bindings with
  | nil =>
      cases hread
      simp [Bindings.value?]
  | cons line lines ih =>
      obtain ⟨said, more, hmeans, hrest, rfl⟩ := readLines_cons_eq_ok_iff.mp hread
      -- a later line says the name, or else it is the first line's
      rw [Bindings.value?_append, Option.or_eq_some_iff, ih hrest, value?_of_said hmeans,
        value?_eq_none_iff_unsaid hrest, exists_split_cons_iff, or_comm, and_comm]

/-- The names of a file are those that its lines say. -/
theorem mem_names_iff_said (hread : readLines path lines = .ok bindings) {name : String} :
    name ∈ bindings.map Prod.fst ↔ ∃ line ∈ lines, ∃ value, Says line (some (name, value)) := by
  rw [← not_iff_not, ← Bindings.value?_eq_none_iff, value?_eq_none_iff_unsaid hread]
  simp

end

end EnvSettings.Source.EnvFile

namespace EnvSettings

open EnvSettings.Source EnvSettings.Source.EnvFile EnvSettings.Text

/-- What a file with variables is as a source, by its lines, in whichever way its bytes are taken
for lines. It is one exactly if no line is an offence, and otherwise the first offence is the error.
As a source it has for a name the value from the last line that says the name, and it lists the
names that lines say in ascending order, each once. -/
theorem env_file_by_lines (path : String) (contents : Bytes) :
    (∃ lines, Lined contents lines)
      ∧ ∀ lines, Lined contents lines →
        ((∃ source, EnvFile.toSource path (.ok contents) = .ok source)
          ↔ ∀ line ∈ lines, ∀ e, ¬ Offends path line e)
        ∧ (∀ e, EnvFile.toSource path (.ok contents) = .error e
          ↔ ∃ before line after, lines = before ++ line :: after
            ∧ (∀ other ∈ before, ∀ e', ¬ Offends path other e') ∧ Offends path line e)
        ∧ ∀ source, EnvFile.toSource path (.ok contents) = .ok source →
          (∀ name value, source.get name = some value
            ↔ ∃ before line after, lines = before ++ line :: after
              ∧ Says line (some (name, value))
              ∧ ∀ later ∈ after, ∀ other, ¬ Says later (some (name, other)))
          ∧ (∀ name, source.get name = none
            ↔ ∀ line ∈ lines, ∀ value, ¬ Says line (some (name, value)))
          ∧ source.list.Pairwise (· < ·)
          ∧ ∀ name, name ∈ source.list
            ↔ ∃ line ∈ lines, ∃ value, Says line (some (name, value)) := by
  refine ⟨exists_lined contents, fun lines hlines => ⟨?_, fun e => ?_, fun source hsource => ?_⟩⟩
  · rw [← exists_readLines_eq_ok_iff, ← read_of_lined hlines]
    simp only [EnvFile.toSource_eq_ok_iff]
    apply Iff.intro
    · intro ⟨source, bindings, hread, _⟩
      exact ⟨bindings, hread⟩
    · intro ⟨bindings, hread⟩
      exact ⟨_, bindings, hread, rfl⟩
  · rw [EnvFile.toSource_eq_error_iff, read_of_lined hlines]
    exact readLines_eq_error_iff
  · obtain ⟨bindings, hread, rfl⟩ := EnvFile.toSource_eq_ok_iff.mp hsource
    rw [read_of_lined hlines] at hread
    refine ⟨fun name value => value?_eq_some_iff_last hread,
      fun name => value?_eq_none_iff_unsaid hread, pairwise_ascending _, fun name => ?_⟩
    exact mem_ascending.trans (mem_names_iff_said hread)

/-- The last of two lines with a name counts, and a comment line says nothing. -/
theorem env_file_by_lines_two_values :
    ∃ source, EnvFile.toSource "app.env" (.ok (Bytes.ofText "A=1\r\nA= x=y \n# A=9")) = .ok source
      ∧ source.get "A" = some " x=y" := by
  have hfirst : Says (Bytes.ofText "A=1") (some ("A", "1")) :=
    .binding (trimBlank_eq_iff.mp (by decide)) (by decide) (by decide)
  have hsecond : Says (Bytes.ofText "A= x=y ") (some ("A", " x=y")) :=
    .binding (trimBlank_eq_iff.mp (by decide)) (by decide) (by decide)
  have hthird : Says (Bytes.ofText "# A=9") none :=
    .nothing (trimBlank_eq_iff.mp rfl) (Or.inr (by decide))
  have hbytes : Bytes.ofText "A=1\r\nA= x=y \n# A=9"
      = Bytes.ofText "A=1" ++ [13, 10]
        ++ (Bytes.ofText "A= x=y " ++ [10] ++ Bytes.ofText "# A=9") := by decide
  have hlined : Lined (Bytes.ofText "A=1\r\nA= x=y \n# A=9")
      [Bytes.ofText "A=1", Bytes.ofText "A= x=y ", Bytes.ofText "# A=9"] := by
    rw [hbytes]
    exact .ended (by decide) (Or.inr rfl) (.ended (by decide) (Or.inl rfl)
      (.unended (by decide) (by decide)))
  obtain ⟨hsource, -, hvalues⟩ := (env_file_by_lines "app.env" _).2 _ hlined
  obtain ⟨source, hread⟩ := hsource.mpr <| by
    simp only [List.forall_mem_cons, ← says_iff_forall_not_offends]
    exact ⟨⟨_, hfirst⟩, ⟨_, hsecond⟩, ⟨_, hthird⟩, by simp⟩
  refine ⟨source, hread, ((hvalues source hread).1 "A" " x=y").mpr ?_⟩
  refine ⟨[Bytes.ofText "A=1"], _, [Bytes.ofText "# A=9"], rfl, hsecond, ?_⟩
  intro later hlater other hother
  rw [List.mem_singleton.mp hlater] at hother
  have hsame := (hthird.readLine_eq "").symm.trans (hother.readLine_eq "")
  cases hsame

end EnvSettings
