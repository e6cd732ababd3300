/-
The table of the variables in a document, and when it is one.

A table is read line by line, and a line is cut at its bars into cells. A bar that belongs to a
cell has to be escaped with a backslash, and the end of a line has no place in a cell at all.
The texts of a documentation are written down as they are. So each field has its line with its five
cells if its texts keep to this, and does not have it otherwise (`table_is_table_iff`): one bar in
one default moves the columns of its line.

Both cuts are made behind what was cut last and know nothing of what lies before it. So the lines of
the table are those of its fields one after the other (`lines_table`), the cells of a line are those
of its texts (`cells_barred`), and a text in which nothing is cut counts for one. As nothing counts
for less, a table with as many lines as fields has one for each.
-/
import EnvSettings.Docs
import EnvSettings.Proofs.Lists
import EnvSettings.Proofs.Text.Control
import EnvSettings.Sample.Types
import Mathlib.Data.List.Forall2
import Mathlib.Tactic.MkIffOfInductiveProp

namespace EnvSettings.Text

-- =================================================================== cells

/-- Cuts characters at every bar that is not escaped. A backslash escapes the character behind it,
unless it is itself escaped; `cell` holds what has been seen of the current cell. -/
def cutAtBars (escaped : Bool) (cell : List Char) : List Char → List (List Char)
  | [] => [cell]
  | c :: rest =>
    if c = '|' ∧ escaped = false then cell :: cutAtBars false [] rest
    else cutAtBars (!escaped && c = '\\') (cell ++ [c]) rest

/-- The parts of a line between its bars. -/
def cells (line : String) : List String := (cutAtBars false [] line.toList).map String.ofList

/-- How many bars are not escaped. -/
def openBars (escaped : Bool) : List Char → Nat
  | [] => 0
  | c :: rest =>
    if c = '|' ∧ escaped = false then openBars false rest + 1
    else openBars (!escaped && c = '\\') rest

/-- There is one cell more than there are bars that cut. -/
theorem length_cutAtBars (escaped : Bool) (cell cs : List Char) :
    (cutAtBars escaped cell cs).length = openBars escaped cs + 1 := by
  induction cs generalizing escaped cell with
  | nil => rfl
  | cons c cs ih =>
      unfold cutAtBars openBars
      split
      · rw [List.length_cons, ih]
      · exact ih _ _

/-- Where there is nothing to cut there is one cell. -/
theorem cutAtBars_of_openBars_eq_zero {escaped : Bool} {cs : List Char}
    (hcs : openBars escaped cs = 0) (cell : List Char) :
    cutAtBars escaped cell cs = [cell ++ cs] := by
  induction cs generalizing escaped cell with
  | nil => rw [cutAtBars, List.append_nil]
  | cons c cs ih =>
      rw [openBars] at hcs
      rw [cutAtBars]
      split at hcs
      · cases hcs
      · next hbar => rw [if_neg hbar, ih hcs, List.append_assoc, List.singleton_append]

/-- A character that means nothing here adds nothing in front of others nor behind them. -/
theorem openBars_around {d : Char} (hbar : d ≠ '|') (hbackslash : d ≠ '\\') (cs : List Char) :
    openBars false (d :: cs ++ [d]) = openBars false cs := by
  have hbehind : ∀ escaped, openBars escaped (cs ++ [d]) = openBars escaped cs := by
    intro escaped
    induction cs generalizing escaped with
    | nil => simp [openBars, hbar]
    | cons c cs ih =>
        rw [List.cons_append, openBars, openBars]
        split
        · rw [ih]
        · exact ih _
  rw [List.cons_append, openBars, if_neg fun h => hbar h.1, hbehind, decide_eq_false hbackslash]
  rfl

/-- What lies behind a space and a bar is cut for itself. -/
theorem cutAtBars_append (escaped : Bool) (cell cs rest : List Char) :
    cutAtBars escaped cell (cs ++ ' ' :: '|' :: rest)
      = cutAtBars escaped cell (cs ++ [' ']) ++ cutAtBars false [] rest := by
  induction cs generalizing escaped cell with
  | nil => simp [cutAtBars]
  | cons c cs ih =>
      rw [List.cons_append, List.cons_append, cutAtBars, cutAtBars]
      split
      · rw [ih, List.cons_append]
      · exact ih _ _

/-- A cell in front of a row is cut off at its bar. -/
theorem cells_append (s rest : String) :
    cells (" " ++ s ++ " |" ++ rest) = cells (" " ++ s ++ " ") ++ cells rest := by
  have hs : (" " ++ s ++ " ").toList = ' ' :: s.toList ++ [' '] := by simp
  have hrest : (" " ++ s ++ " |" ++ rest).toList
      = ' ' :: s.toList ++ ' ' :: '|' :: rest.toList := by simp
  rw [cells, cells, cells, hs, hrest, cutAtBars_append, List.map_append]

theorem length_cells (s : String) : (cells s).length = openBars false s.toList + 1 := by
  rw [cells, List.length_map, length_cutAtBars]

/-- A text is one cell exactly if no bar in it cuts. -/
theorem cells_eq_singleton_iff {s : String} : cells s = [s] ↔ openBars false s.toList = 0 := by
  constructor
  · intro hcells
    have hlength := length_cells s
    rw [hcells, List.length_singleton] at hlength
    omega
  · intro hbars
    rw [cells, cutAtBars_of_openBars_eq_zero hbars, List.nil_append, List.map_singleton,
      String.ofList_toList]

/-- Texts between bars, with a space on either side of each. -/
def barred (texts : List String) : String :=
  "|" ++ String.join (texts.map fun s => " " ++ s ++ " |")

/-- The bars around a text cut nothing of it and nothing of the others. -/
theorem cells_barred (texts : List String) :
    cells (barred texts) = "" :: (texts.flatMap fun s => cells (" " ++ s ++ " ")) ++ [""] := by
  have hfirst : ∀ rest, cells ("|" ++ rest) = "" :: cells rest := by
    intro rest
    have hrest : ("|" ++ rest).toList = '|' :: rest.toList := by simp
    rw [cells, hrest]
    rfl
  rw [barred, hfirst, List.cons_append]
  congr 1
  induction texts with
  | nil => rfl
  | cons s texts ih =>
      rw [List.map_cons, String.join_cons, cells_append, ih, List.flatMap_cons, List.append_assoc]

/-- Texts between bars are the cells exactly if nothing is cut in any of them. -/
theorem cells_barred_eq_iff {texts : List String} :
    cells (barred texts) = "" :: (texts.map fun s => " " ++ s ++ " ") ++ [""]
      ↔ ∀ s ∈ texts, cells s = [s] := by
  have hpadded : ∀ s : String, openBars false (" " ++ s ++ " ").toList
      = openBars false s.toList := by
    intro s
    have hs : (" " ++ s ++ " ").toList = ' ' :: s.toList ++ [' '] := by simp
    rw [hs, openBars_around (by decide) (by decide)]
  have hsome : ∀ s ∈ texts, cells (" " ++ s ++ " ") ≠ [] := by
    intro s _ hnil
    have hlength := length_cells (" " ++ s ++ " ")
    rw [hnil] at hlength
    cases hlength
  rw [cells_barred, List.cons_append, List.cons_append, List.cons.injEq, and_iff_right rfl,
    List.append_cancel_right_eq]
  constructor
  · intro hcells s hs
    have hlength : (texts.flatMap fun s => cells (" " ++ s ++ " ")).length = texts.length := by
      rw [hcells, List.length_map]
    have hone := (length_flatMap_eq_length_iff hsome).mp hlength s hs
    rw [length_cells, hpadded] at hone
    exact cells_eq_singleton_iff.mpr (by omega)
  · intro hcells
    rw [List.map_eq_flatMap]
    refine List.flatMap_congr fun s hs => cells_eq_singleton_iff.mpr ?_
    rw [hpadded]
    exact cells_eq_singleton_iff.mp (hcells s hs)

/-- A row is on one line exactly if all its texts are. -/
theorem newline_notMem_barred_iff {texts : List String} :
    '\n' ∉ (barred texts).toList ↔ ∀ s ∈ texts, '\n' ∉ s.toList := by
  simp [barred]

/-- A text that a cell of a table can hold: no line ends in it, and every bar in it is escaped. -/
@[mk_iff]
structure FitsCell (s : String) : Prop where
  one_line : '\n' ∉ s.toList
  one_cell : cells s = [s]

instance (s : String) : Decidable (FitsCell s) := decidable_of_iff _ (fitsCell_iff s).symm

theorem fitsCell_backquoted {s : String} : FitsCell ("`" ++ s ++ "`") ↔ FitsCell s := by
  have hs : ("`" ++ s ++ "`").toList = '`' :: s.toList ++ ['`'] := by simp
  rw [fitsCell_iff, fitsCell_iff, cells_eq_singleton_iff, cells_eq_singleton_iff, hs,
    openBars_around (by decide) (by decide)]
  simp

end EnvSettings.Text

namespace EnvSettings

open EnvSettings.Text

-- ================================================================== fields

namespace FieldInfo

/-- The texts of a field. -/
def texts (info : FieldInfo) : List String :=
  [info.key, info.typeName, info.doc] ++ info.default?.toList

/-- What the cells of a field should hold. -/
def columns (info : FieldInfo) : List String :=
  [info.key, "`" ++ info.typeName ++ "`", if info.required then "Yes" else "No",
    if info.doc = "" then "-" else info.doc, info.default?.getD "-"]

/-- The line has the cells of the field, each between two bars. -/
def IsRow (info : FieldInfo) (line : String) : Prop :=
  cells line = "" :: (info.columns.map fun s => " " ++ s ++ " ") ++ [""]

/-- The columns of a field fit into cells exactly if its texts do. -/
theorem fits_columns_iff {info : FieldInfo} :
    (∀ s ∈ info.columns, FitsCell s) ↔ ∀ s ∈ info.texts, FitsCell s := by
  have hrequired : FitsCell (if info.required then "Yes" else "No") := by
    split
    · decide
    · decide
  have hdoc : FitsCell (if info.doc = "" then "-" else info.doc) ↔ FitsCell info.doc := by
    by_cases hempty : info.doc = ""
    · rw [if_pos hempty, hempty]
      decide
    · rw [if_neg hempty]
  have hdefault : FitsCell (info.default?.getD "-") ↔ ∀ s ∈ info.default?.toList, FitsCell s := by
    cases info.default? with
    | none => simpa using (by decide : FitsCell "-")
    | some text => simp
  unfold columns texts
  rw [List.forall_mem_append]
  simp only [List.forall_mem_cons, fitsCell_backquoted, hdoc, hdefault, hrequired]
  tauto

/-- The line for a field is what its cells should hold, between bars. -/
theorem tableRow_eq (info : FieldInfo) : Docs.tableRow info = barred info.columns ++ "\n" := by
  unfold Docs.tableRow barred columns
  apply String.toList_injective
  generalize (if info.required then "Yes" else "No") = required
  generalize (if info.doc = "" then "-" else info.doc) = doc
  generalize info.default?.getD "-" = default
  simp [toString]

/-- A field has one line with its cells exactly if its texts fit into cells. -/
theorem exists_isRow_iff {info : FieldInfo} :
    (∃ line, lines (Docs.tableRow info) = [line] ∧ info.IsRow line)
      ↔ ∀ s ∈ info.texts, FitsCell s := by
  have hfits : (∀ s ∈ info.columns, FitsCell s)
      ↔ '\n' ∉ (barred info.columns).toList ∧ info.IsRow (barred info.columns) := by
    unfold IsRow
    rw [newline_notMem_barred_iff, cells_barred_eq_iff, ← forall₂_and]
    simp only [fitsCell_iff]
  rw [← fits_columns_iff, hfits, tableRow_eq]
  constructor
  · intro ⟨line, hline, hrow⟩
    obtain ⟨hwhole, heq⟩ := lines_eq_singleton_iff.mp hline
    rw [heq] at hrow
    exact ⟨hwhole, hrow⟩
  · intro ⟨hwhole, hrow⟩
    exact ⟨_, lines_eq_singleton_iff.mpr ⟨hwhole, rfl⟩, hrow⟩

end FieldInfo

-- =================================================================== table

/-- The heading of the table and the two lines under it. -/
def tableHeading : List String :=
  ["## Environment Variables Summary", "",
    "| Variable | Type | Required | Description | Default |",
    "|----------|------|----------|-------------|---------|"]

/-- The text is a table of the fields: the heading, and a line for each field in their order, with
its cells and no others. -/
def IsTable (text : String) (infos : List FieldInfo) : Prop :=
  ∃ rows, lines text = tableHeading ++ rows ∧ List.Forall₂ FieldInfo.IsRow infos rows

/-- Behind the heading stand the lines of the fields, one field after the other. -/
theorem lines_table (infos : List FieldInfo) :
    lines (Docs.table infos)
      = tableHeading ++ infos.flatMap fun info => lines (Docs.tableRow info) := by
  have hhead : Docs.tableHead = String.join (tableHeading.map (· ++ "\n")) := rfl
  have hrows : infos.map Docs.tableRow
      = (infos.map fun info => barred info.columns).map (· ++ "\n") := by
    rw [List.map_map]
    exact List.map_congr_left fun info _ => info.tableRow_eq
  have hlines : tableHeading.flatMap (fun s => lines (s ++ "\n")) = tableHeading := by
    decide +kernel
  have hrest := lines_join_append (infos.map fun info => barred info.columns) ""
  have hnothing : lines "" = [] := rfl
  rw [String.append_empty, ← hrows, hnothing, List.append_nil, List.flatMap_map] at hrest
  rw [Docs.table, hhead, lines_join_append, hlines, hrest]
  simp only [FieldInfo.tableRow_eq]

/-- What is written is a table of the fields exactly if all their texts fit into cells. -/
theorem isTable_table_iff {infos : List FieldInfo} :
    IsTable (Docs.table infos) infos ↔ ∀ info ∈ infos, ∀ s ∈ info.texts, FitsCell s := by
  have hsome : ∀ info ∈ infos, lines (Docs.tableRow info) ≠ [] := by
    intro info _ hnil
    have hlength := length_lines (barred info.columns)
    rw [← info.tableRow_eq, hnil] at hlength
    cases hlength
  have hrows : IsTable (Docs.table infos) infos
      ↔ List.Forall₂ FieldInfo.IsRow infos
        (infos.flatMap fun info => lines (Docs.tableRow info)) := by
    unfold IsTable
    rw [lines_table]
    constructor
    · intro ⟨rows, hlines, hrows⟩
      rw [List.append_cancel_left hlines]
      exact hrows
    · intro hrows
      exact ⟨_, rfl, hrows⟩
  rw [hrows, forall₂_flatMap_iff hsome]
  simp only [FieldInfo.exists_isRow_iff]

/-- What is written for fields is a table of them exactly if all their texts fit into cells.
Whatever the texts are, the heading is followed by the lines of the fields, one field after the
other, and a field has one line with its cells exactly if its own texts fit. -/
theorem table_is_table_iff (infos : List FieldInfo) :
    lines (Docs.table infos)
        = tableHeading ++ infos.flatMap (fun info => lines (Docs.tableRow info))
      ∧ (∀ info : FieldInfo, (∃ line, lines (Docs.tableRow info) = [line] ∧ info.IsRow line)
        ↔ ∀ s ∈ info.texts, FitsCell s)
      ∧ (IsTable (Docs.table infos) infos ↔ ∀ info ∈ infos, ∀ s ∈ info.texts, FitsCell s) :=
  ⟨lines_table infos, fun _ => FieldInfo.exists_isRow_iff, isTable_table_iff⟩

/-- A bar in a default cuts the last cell of its line in two. -/
theorem bar_in_default_cuts_cell :
    let s : Schema Sample.AppCode :=
      .value "sep" (.scalar .string) false ⟨false, some "a|b", ""⟩ .done
    let info : FieldInfo := ⟨"SEP", false, some "a|b", "", "String"⟩
    let line := "| SEP | `String` | No | - | a|b |"
    s.describe "" .builtins = .ok [info] ∧ lines (Docs.table [info]) = tableHeading ++ [line]
      ∧ cells line = ["", " SEP ", " `String` ", " No ", " - ", " a", "b ", ""]
      ∧ ¬ IsTable (Docs.table [info]) [info] := by
  intro s info line
  have hline : info.columns = ["SEP", "`String`", "No", "-", "a|b"] := by decide +kernel
  have hrow : lines (Docs.tableRow info) = [line] := by
    rw [info.tableRow_eq, lines_eq_singleton_iff, hline]
    decide +kernel
  refine ⟨by decide +kernel, ?_, by decide +kernel, ?_⟩
  · rw [lines_table, List.flatMap_singleton, hrow]
  · rw [isTable_table_iff]
    decide +kernel

end EnvSettings
