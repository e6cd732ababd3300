/-
Entries written into a file come back when the file is read.

A file may be laid out in many ways: its entries stand in any order on lines of their own, with
white space around each, and with blank lines and comments between them (`Layout`). Reading takes
the white space off the ends of a line before it looks for the equals sign. So a name must not start
with white space, and a value must not end with any; nor may a name start with the sign of a comment
or have an equals sign in it, and neither may run over the end of a line (`Storable`). Nothing else
is asked of them: the inner end of a name and the inner end of a value stand next to the equals sign
and are kept as they are, and both may be empty.
-/
import EnvSettings.Proofs.Source.EnvFile

namespace EnvSettings.Source.EnvFile

open EnvSettings.Text

-- ================================================================= layouts

/-- White space within a line. -/
def Spacing (s : String) : Prop := ∀ c ∈ s.toList, isBlank c = true ∧ c ≠ '\n'

instance (s : String) : Decidable (Spacing s) :=
  decidable_of_iff (s.toList.all fun c => isBlank c && c != '\n') (by simp [Spacing])

/-- A line of a file that says an entry, or nothing. -/
inductive Writes : String → Option (String × String) → Prop
  | entry {before behind : String} (name value : String) (spaced : Spacing before)
      (spaced' : Spacing behind) :
      Writes (before ++ name ++ "=" ++ value ++ behind) (some (name, value))
  | blank {space : String} (spaced : Spacing space) : Writes space none
  | comment {before text : String} (spaced : Spacing before) (whole : '\n' ∉ text.toList) :
      Writes (before ++ "#" ++ text) none

/-- A file with entries on lines of their own. Lines are ended in either way, each in its own. The
last one may be left without an ending. -/
inductive Layout : String → Bindings → Prop
  | nothing : Layout "" []
  | unended {line : String} {said : Option (String × String)} (nonempty : line ≠ "")
      (writes : Writes line said) : Layout line said.toList
  | ended {line ending rest : String} {said : Option (String × String)} {entries : Bindings}
      (writes : Writes line said) (ending_eq : ending = "\n" ∨ ending = "\r\n")
      (others : Layout rest entries) : Layout (line ++ ending ++ rest) (said.toList ++ entries)

/-- An entry that a file can hold. -/
@[mk_iff]
structure Storable (entry : String × String) : Prop where
  name_equals : '=' ∉ entry.1.toList
  name_newline : '\n' ∉ entry.1.toList
  name_start : ∀ c ∈ entry.1.toList.head?, isBlank c = false ∧ c ≠ '#'
  value_newline : '\n' ∉ entry.2.toList
  value_end : ∀ c ∈ entry.2.toList.getLast?, isBlank c = false

instance (entry : String × String) : Decidable (Storable entry) :=
  decidable_of_iff
    ('=' ∉ entry.1.toList ∧ '\n' ∉ entry.1.toList
      ∧ (entry.1.toList.head?.all fun c => !isBlank c && c != '#') = true
      ∧ '\n' ∉ entry.2.toList ∧ (entry.2.toList.getLast?.all fun c => !isBlank c) = true)
    (by simp [storable_iff, Option.all_eq_true])

-- =================================================================== lines

section

variable {line : String} {said : Option (String × String)}

/-- A line says what is written on it. -/
theorem Writes.toSays (h : Writes line said) (hsaid : ∀ entry ∈ said, Storable entry) :
    Says (Bytes.ofText line) said := by
  cases h with
  | @entry before behind name value hbefore hbehind =>
      obtain ⟨hequals, -, hstart, -, hend⟩ := hsaid _ rfl
      have hequalsign : isBlank '=' = false := by decide
      have hcore : (name ++ "=" ++ value).toList = name.toList ++ '=' :: value.toList := by simp
      have htrims : Trims (before ++ name ++ "=" ++ value ++ behind).toList
          (name ++ "=" ++ value).toList := by
        refine ⟨⟨before.toList, behind.toList, by simp, fun c hc => (hbefore c hc).1,
          fun c hc => (hbehind c hc).1⟩, ?_, ?_⟩
        · rw [hcore]
          exact forall_mem_head?_around (fun c hc => (hstart c hc).1) hequalsign _
        · rw [hcore]
          exact forall_mem_getLast?_around _ hequalsign hend
      exact .binding htrims (fun hmark => (hstart _ hmark).2 rfl) hequals
  | blank hspace =>
      have hnothing : Trims line.toList [] :=
        ⟨⟨line.toList, [], by simp, fun c hc => (hspace c hc).1, by simp⟩, by simp, by simp⟩
      exact .nothing hnothing (Or.inl rfl)
  | @comment before text hbefore hwhole =>
      have hblank : ∀ c ∈ before.toList, isBlank c = true := fun c hc => (hbefore c hc).1
      have hmark : isBlank '#' = false := by decide
      obtain ⟨core, hcore⟩ := exists_trims_cons hblank hmark text.toList
      have hcomment : Trims (before ++ "#" ++ text).toList ('#' :: core) := by simpa using hcore
      exact .nothing hcomment (Or.inr rfl)

/-- It is one line. -/
theorem Writes.newline_notMem (h : Writes line said) (hsaid : ∀ entry ∈ said, Storable entry) :
    10 ∉ Bytes.ofText line := by
  have hnewline : 10 ∈ Bytes.ofText line ↔ '\n' ∈ line.toList :=
    Bytes.mem_ofText_iff (by decide) (by decide)
  have hspacing : ∀ {s : String}, Spacing s → '\n' ∉ s.toList := fun hs hmem => (hs _ hmem).2 rfl
  rw [hnewline]
  cases h with
  | @entry before behind name value hbefore hbehind =>
      obtain ⟨-, hname, -, hvalue, -⟩ := hsaid _ rfl
      simp [hspacing hbefore, hspacing hbehind, hname, hvalue]
  | blank hspace => exact hspacing hspace
  | comment hbefore hwhole => simp [hspacing hbefore, hwhole]

end

-- =================================================================== files

/-- A file with entries that it can hold is read as these entries, in their order. -/
theorem read_layout (path : String) {text : String} {entries : Bindings}
    (hlayout : Layout text entries) (hentries : ∀ entry ∈ entries, Storable entry) :
    ∃ lines, Lined (Bytes.ofText text) lines ∧ readLines path lines = .ok entries := by
  induction hlayout with
  | nothing => exact ⟨[], .nothing, rfl⟩
  | @unended line said hsome hwrites =>
      have hsaid : ∀ entry ∈ said, Storable entry := by simpa using hentries
      have hwhole := hwrites.newline_notMem hsaid
      have hbytes : Bytes.ofText line ≠ [] := fun hempty =>
        hsome (Bytes.ofText_injective hempty)
      refine ⟨[Bytes.ofText line], .unended hbytes hwhole, ?_⟩
      exact readLines_cons_eq_ok_iff.mpr
        ⟨said, [], hwrites.toSays hsaid, rfl, (List.append_nil _).symm⟩
  | @ended line ending rest said entries hwrites hending _ ih =>
      have hsaid : ∀ entry ∈ said, Storable entry := fun entry h =>
        hentries entry (List.mem_append_left _ (by simpa using h))
      obtain ⟨lines, hlines, hread⟩ := ih fun entry h =>
        hentries entry (List.mem_append_right _ h)
      have hwhole := hwrites.newline_notMem hsaid
      refine ⟨Bytes.ofText line :: lines, ?_, ?_⟩
      · rw [Bytes.ofText_append, Bytes.ofText_append]
        refine .ended hwhole ?_ hlines
        rcases hending with rfl | rfl
        · exact Or.inl (by decide)
        · exact Or.inr (by decide)
      · exact readLines_cons_eq_ok_iff.mpr ⟨said, entries, hwrites.toSays hsaid, hread, rfl⟩

end EnvSettings.Source.EnvFile

namespace EnvSettings

open EnvSettings.Source EnvSettings.Source.EnvFile

/-- Entries with distinct names that a file can hold are what is read of the file, in whichever
order they stand in it and however it is laid out: as a source it has for the name of each entry the
value of this entry, as it was written, and it has nothing else. -/
theorem env_file_gives_back_entries (path : String) {entries order : Bindings} {text : String}
    (hnames : (entries.map Prod.fst).Nodup) (hentries : ∀ entry ∈ entries, Storable entry)
    (horder : order.Perm entries) (hlayout : Layout text order) :
    EnvFile.toSource path (.ok (Bytes.ofText text)) = .ok (ofBindings entries)
      ∧ (∀ name value, (ofBindings entries).get name = some value ↔ (name, value) ∈ entries)
      ∧ (ofBindings entries).list.Pairwise (· < ·)
      ∧ ∀ name, name ∈ (ofBindings entries).list ↔ name ∈ entries.map Prod.fst := by
  refine ⟨?_, fun name value => Bindings.value?_eq_some_iff_mem hnames, pairwise_ascending _,
    fun name => mem_ascending⟩
  obtain ⟨lines, hlines, hread⟩ := read_layout path hlayout fun entry hentry =>
    hentries entry (horder.mem_iff.mp hentry)
  rw [← read_of_lined hlines] at hread
  rw [EnvFile.toSource_eq_ok_iff]
  exact ⟨order, hread, (ofBindings_of_perm hnames horder).symm⟩

/-- Quotes, signs of comments and equals signs in values, and an empty name with an empty value. The
file has white space around entries, a comment, a blank line and a last line without an ending. -/
theorem env_file_gives_back_entries_mixed :
    let entries : Bindings := [("A", "'$B'  #!"), ("", ""), ("export B", "\"x # y\" =")]
    let order : Bindings := [("", ""), ("export B", "\"x # y\" ="), ("A", "'$B'  #!")]
    let text := "\t= \r\n# export B=1\r\nexport B=\"x # y\" = \n \nA='$B'  #!"
    (entries.map Prod.fst).Nodup ∧ (∀ entry ∈ entries, Storable entry) ∧ order.Perm entries
      ∧ Layout text order
      ∧ EnvFile.toSource "app.env" (.ok (Bytes.ofText text)) = .ok (ofBindings entries) := by
  intro entries order text
  have hnames : (entries.map Prod.fst).Nodup := by decide
  have hentries : ∀ entry ∈ entries, Storable entry := by
    simp only [entries, List.forall_mem_cons]
    exact ⟨by decide, by decide, by decide, by simp⟩
  have horder : order.Perm entries := by decide
  have htab : Spacing "\t" := by decide
  have hspace : Spacing " " := by decide
  have hnone : Spacing "" := by decide
  have hcomment : '\n' ∉ " export B=1".toList := by decide
  have hlayout : Layout text order :=
    .ended (.entry "" "" htab hspace) (Or.inr rfl)
      (.ended (.comment hnone hcomment) (Or.inr rfl)
        (.ended (.entry "export B" "\"x # y\" =" hnone hspace) (Or.inl rfl)
          (.ended (.blank hspace) (Or.inl rfl)
            (.unended (by decide) (.entry "A" "'$B'  #!" hnone hnone)))))
  exact ⟨hnames, hentries, horder, hlayout,
    (env_file_gives_back_entries "app.env" hnames hentries horder hlayout).1⟩

end EnvSettings
