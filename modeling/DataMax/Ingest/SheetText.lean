import DataMax.Ingest.Cells
import DataMax.Ingest.SheetFormat
import DataMax.Ingest.Spacing
import Mathlib.Data.List.Forall2

/-! The text of a sheet: a line for each row that is not empty, with tabs between the cells. -/

namespace DataMax.Ingest

open Domain Library

def sheetRows (xml : String) (sharedStrings : List String) : List (List String) :=
  ((splitXmlSegments xml "row").map (extractSheetRowCells · sharedStrings)).filter (· ≠ [])

/-- The rows as they are shown: headings as they are, other cells by their heading. -/
def displayedRows (rawRows : List (List String)) : List (List String) :=
  let headerRowCount := sheetHeaderRowCount rawRows
  let columnHints := sheetColumnHints rawRows headerRowCount
  rawRows.zipIdx.map fun (cells, rowIndex) => cells.zipIdx.map fun (value, columnIndex) =>
    if rowIndex < headerRowCount then value else formatSheetCellText value columnHints[columnIndex]?

def extractSheetText (xml : String) (sharedStrings : List String) : Option String :=
  normalizeExtractedText (joinLines ((displayedRows (sheetRows xml sharedStrings)).map ("\t".intercalate ·)))

section Format

variable {text other value : String} {serial : UInt64} {shown : String}

/-- Characters that are seen, and none that is taken out. -/
def Drawn (text : String) : Prop := ∀ char ∈ text.toList, isWhitespace char = false ∧ char ≠ '\x00'

theorem drawn_of_all (seen : text.toList.all (fun char => !(isWhitespace char) && char != '\x00') = true) :
    Drawn text := by
  intro char inside
  simpa using List.all_eq_true.mp seen char inside

theorem Drawn.append (first : Drawn text) (second : Drawn other) : Drawn (text ++ other) := by
  intro char inside
  rw [String.toList_append] at inside
  rcases List.mem_append.mp inside with before | after
  · exact first char before
  · exact second char after

theorem drawn_digits (number : Nat) : Drawn (toString number) := by
  intro char inside
  rw [Nat.toString_eq_repr, Nat.repr_eq_ofList_toDigits, String.toList_ofList] at inside
  have digit := @Nat.isDigit_of_mem_toDigits 10 number char (by decide) (by decide) inside
  have code := alphanum_code (show char.isAlphanum = true by simp [Char.isAlphanum, digit])
  constructor
  · simp [isWhitespace]
    omega
  · rintro rfl
    exact absurd digit (by decide)

theorem drawn_twoDigits (number : Nat) : Drawn (twoDigits number) := by
  have zero : Drawn "0" := drawn_of_all (by decide)
  rw [twoDigits]
  split
  · exact zero.append (drawn_digits number)
  · exact drawn_digits number

theorem drawn_trimEnd {mark : Char} (drawn : Drawn text) : Drawn (trimEndMatches mark text) := by
  intro char inside
  rw [trimEndMatches, String.toList_ofList] at inside
  exact drawn char ((List.rdropWhile_prefix _ _).subset inside)

theorem append_ne_empty (nonempty : other ≠ "") : text ++ other ≠ "" := by simp [nonempty]

theorem twoDigits_ne_empty (number : Nat) : twoDigits number ≠ "" := by
  have digits : toString number ≠ "" := Nat.repr_ne_empty
  rw [twoDigits]
  split
  · exact append_ne_empty digits
  · exact digits

theorem drawn_date (formatted : formatExcelSerialDate serial = some shown) : Drawn shown ∧ shown ≠ "" := by
  have dash : Drawn "-" := drawn_of_all (by decide)
  rw [formatExcelSerialDate] at formatted
  split at formatted
  · obtain rfl := Option.some.inj formatted
    exact ⟨((((drawn_digits _).append dash).append (drawn_twoDigits _)).append dash).append (drawn_twoDigits _),
      append_ne_empty (twoDigits_ne_empty _)⟩
  · cases formatted

theorem drawn_clock (formatted : formatExcelSerialClockTime serial = some shown) : Drawn shown ∧ shown ≠ "" := by
  have colon : Drawn ":" := drawn_of_all (by decide)
  rw [formatExcelSerialClockTime] at formatted
  split at formatted
  · obtain rfl := Option.some.inj formatted
    exact ⟨drawn_of_all (by decide), by decide⟩
  · split at formatted
    · obtain rfl := Option.some.inj formatted
      exact ⟨((drawn_twoDigits _).append colon).append (drawn_twoDigits _), append_ne_empty (twoDigits_ne_empty _)⟩
    · cases formatted

theorem drawn_hours (serial : UInt64) : Drawn (formatDecimalHours serial) := by
  have point : Drawn "." := drawn_of_all (by decide)
  have sign : Drawn (if isNegative serial then "-" else "") := by
    split <;> exact drawn_of_all (by decide)
  exact drawn_trimEnd (drawn_trimEnd (((sign.append (drawn_digits _)).append point).append (drawn_twoDigits _)))

/-- What is shown is settled too, and empty only for an empty cell. -/
theorem format_settled {value : String} (settled : Settled value) (headerHint : Option String) :
    Settled (formatSheetCellText value headerHint) ∧ (formatSheetCellText value headerHint = "" ↔ value = "") := by
  have kept : Settled value ∧ (value = "" ↔ value = "") := ⟨settled, Iff.rfl⟩
  rw [formatSheetCellText, settled.trim]
  dsimp only
  split
  · rename_i empty
    exact ⟨settled_plain (by simp), by simp [empty]⟩
  · rename_i nonempty
    have drawn : ∀ formatted : Option String, (∀ shown, formatted = some shown → Drawn shown ∧ shown ≠ "") →
        Settled (formatted.getD value) ∧ (formatted.getD value = "" ↔ value = "") := by
      intro formatted each
      cases formatted with
      | none => exact kept
      | some shown =>
        obtain ⟨seen, shownNonempty⟩ := each shown rfl
        exact ⟨settled_plain seen, iff_of_false shownNonempty nonempty⟩
    split
    · exact kept
    · rename_i number _
      split
      · exact drawn _ fun shown => drawn_clock
      · split
        · exact drawn _ fun shown => drawn_date
        · split
          · have unit : Drawn "小时" := drawn_of_all (by decide)
            exact ⟨settled_plain ((drawn_hours number).append unit), iff_of_false (append_ne_empty (by decide)) nonempty⟩
          · exact kept

end Format

section Table

variable {xml sharedXml text : String} {cells row : List String} {rows : List (List String)}

/-- The cells of each line. -/
def tableOf (text : Option String) : List (List String) := (text.map fun text => (lines text).map (splitAt '\t')).getD []

/-- A row whose cells are in order, the last of which has a text. -/
structure Placed (cells : List String) : Prop where
  settled : ∀ cell ∈ cells, Settled cell
  ended : ∃ last ∈ cells.getLast?, last ≠ ""

theorem Placed.nonempty (placed : Placed cells) : cells ≠ [] := by
  rintro rfl
  obtain ⟨last, ends, -⟩ := placed.ended
  cases ends

/-- A text of a cell is empty or normalized. -/
theorem mem_row_cells {rowXml cell : String} (listed : cell ∈ extractSheetRowCells rowXml (extractSharedStrings sharedXml)) :
    cell = "" ∨ ∃ raw, normalizeExtractedText raw = some cell := by
  have inside := (List.rdropWhile_prefix _ _).subset listed
  let placement := fun found : String × Nat =>
    (cellPlace found.1 found.2, (extractCellText found.1 (extractSharedStrings sharedXml)).getD "")
  rw [← @List.foldl_map _ _ _ placement fun cells placement => placeCell cells placement.1 placement.2] at inside
  rcases mem_placed cell inside with empty | ⟨placed, found, rfl⟩
  · exact .inl empty
  obtain ⟨⟨cellXml, position⟩, -, rfl⟩ := List.mem_map.mp found
  have shown : (placement (cellXml, position)).2 = (extractCellText cellXml (extractSharedStrings sharedXml)).getD "" := rfl
  rw [shown]
  cases read : extractCellText cellXml (extractSharedStrings sharedXml) with
  | none => exact .inl rfl
  | some text => exact .inr (normalized_cellText read)

theorem placed_row {rowXml : String} (plain : ∀ cell ∈ extractSheetRowCells rowXml (extractSharedStrings sharedXml),
    '\t' ∉ cell.toList ∧ '\n' ∉ cell.toList)
    (nonempty : extractSheetRowCells rowXml (extractSharedStrings sharedXml) ≠ []) :
    Placed (extractSheetRowCells rowXml (extractSharedStrings sharedXml)) := by
  constructor
  · intro cell listed
    rcases mem_row_cells listed with rfl | ⟨raw, normalized⟩
    · exact settled_plain (by simp)
    · exact settled_of_normalized normalized (plain cell listed).1 (plain cell listed).2
  · have last := List.getLast?_eq_some_getLast nonempty
    refine ⟨_, last, ?_⟩
    have shown := last_dropEmptyCells _ _ last
    intro empty
    rw [empty] at shown
    exact shown (by decide)

/-- Showing a row keeps its places. -/
theorem placed_shown {showCell : String × Nat → String} (placed : Placed cells)
    (each : ∀ cell, Settled cell → ∀ index, Settled (showCell (cell, index)) ∧ (showCell (cell, index) = "" ↔ cell = "")) :
    Placed (cells.zipIdx.map showCell) ∧ ((cells.zipIdx.map showCell).head? = some "" ↔ cells.head? = some "") := by
  refine ⟨⟨fun shown listed => ?_, ?_⟩, ?_⟩
  · obtain ⟨⟨cell, index⟩, inside, rfl⟩ := List.mem_map.mp listed
    exact (each cell (placed.settled cell (List.fst_mem_of_mem_zipIdx inside)) index).1
  · obtain ⟨last, ends, nonempty⟩ := placed.ended
    obtain ⟨earlier, rfl⟩ := List.getLast?_eq_some_iff.mp ends
    have settled := placed.settled last (by simp)
    refine ⟨_, ?_, (each last settled earlier.length).2.not.mpr nonempty⟩
    simp [List.zipIdx_append]
  · cases cells with
    | nil => simp
    | cons first others => simpa using (each first (placed.settled first List.mem_cons_self) 0).2

theorem getLast?_joined (earlier : List (List Char)) {last : List Char} (nonempty : last ≠ []) :
    (['\t'].intercalate (earlier ++ [last])).getLast? = last.getLast? := by
  induction earlier with
  | nil => simp
  | cons first others ih =>
    obtain ⟨next, rest, shape⟩ := List.exists_cons_of_ne_nil (List.append_ne_nil_of_right_ne_nil others (by simp : [last] ≠ []))
    rw [List.cons_append, shape, List.intercalate_cons_cons, ← shape]
    have more : ['\t'].intercalate (others ++ [last]) ≠ [] := by
      intro empty
      rw [empty] at ih
      exact nonempty (List.getLast?_eq_none_iff.mp ih.symm)
    rw [List.getLast?_append_of_ne_nil _ more, ih]

/-- Only the tabs before the first text are taken away. -/
theorem trim_row_iff (placed : Placed cells) :
    trim ("\t".intercalate cells) = "\t".intercalate cells ↔ cells.head? ≠ some "" := by
  have ends : ∀ char ∈ ("\t".intercalate cells).toList.getLast?, isWhitespace char = false := by
    obtain ⟨last, lastOf, nonempty⟩ := placed.ended
    obtain ⟨earlier, rfl⟩ := List.getLast?_eq_some_iff.mp lastOf
    have trimmed := (trim_eq_self_iff.mp (placed.settled last (by simp)).trim).2
    rw [String.toList_intercalate, List.map_append, List.map_singleton]
    rwa [← getLast?_joined (earlier.map String.toList) (by simpa using nonempty)] at trimmed
  rw [trim_eq_self_iff, and_iff_left ends]
  obtain ⟨first, others, rfl⟩ := List.exists_cons_of_ne_nil placed.nonempty
  have settled := placed.settled first List.mem_cons_self
  rw [String.toList_intercalate]
  cases others with
  | nil =>
    obtain ⟨last, lastOf, nonempty⟩ := placed.ended
    obtain rfl : last = first := by simpa using lastOf.symm
    simpa [nonempty] using (trim_eq_self_iff.mp settled.trim).1
  | cons next rest =>
    by_cases empty : first = ""
    · subst empty
      have space : isWhitespace '\t' = true := by decide
      simp [space]
    · have starts : first.toList ≠ [] := by simpa using empty
      rw [List.map_cons, List.map_cons, List.intercalate_cons_cons, List.append_assoc,
        List.head?_append_of_ne_nil _ starts]
      simpa [empty] using (trim_eq_self_iff.mp settled.trim).1

/-- Where a row starts with a text, and only there, its line has its cells. -/
theorem split_line_iff (placed : Placed cells) :
    splitAt '\t' (collapseLineSpacesPreservingTabs ("\t".intercalate cells)) = cells ↔ cells.head? ≠ some "" := by
  rw [collapse_tabbed placed.settled placed.nonempty, ← trim_row_iff placed]
  constructor
  · intro same
    have joined : "\t".intercalate (splitAt '\t' (trim ("\t".intercalate cells))) = trim ("\t".intercalate cells) := by
      rw [← String.toList_inj, String.toList_intercalate, splitAt, List.map_map]
      simp [Function.comp_def, List.intercalate_splitOn]
    rwa [same, eq_comm] at joined
  · intro trimmed
    rw [trimmed]
    exact splitAt_tabbed placed.settled placed.nonempty

theorem mem_row_text {char : Char} (placed : Placed cells) (inside : char ∈ ("\t".intercalate cells).toList) :
    char = '\t' ∨ char ≠ '\x00' ∧ char ≠ '\n' ∧ char ≠ '\r' := by
  rw [String.toList_intercalate] at inside
  refine (mem_intercalate inside).imp_right ?_
  rintro ⟨chars, listed, within⟩
  obtain ⟨cell, found, rfl⟩ := List.mem_map.mp listed
  have settled := placed.settled cell found
  refine ⟨?_, ?_, ?_⟩
  · rintro rfl
    exact settled.noNul within
  · rintro rfl
    exact settled.not_mem (by decide) (by decide) within
  · rintro rfl
    exact settled.not_mem (by decide) (by decide) within

theorem collapse_ne_empty (placed : Placed cells) : collapseLineSpacesPreservingTabs ("\t".intercalate cells) ≠ "" := by
  rw [collapse_tabbed placed.settled placed.nonempty]
  obtain ⟨last, ends, nonempty⟩ := placed.ended
  have listed := List.mem_of_getLast? ends
  obtain ⟨char, inside, visible⟩ := (placed.settled last listed).visible_char nonempty
  refine trim_ne_empty ?_ visible
  have noTab : char ≠ '\t' := by
    rintro rfl
    exact absurd visible (by decide)
  rw [String.toList_intercalate]
  exact (mem_intercalate_iff noTab).mpr ⟨last.toList, List.mem_map_of_mem listed, inside⟩

/-- The lines of the normalized text are the normalized lines. -/
theorem tableOf_normalized (placed : ∀ cells ∈ rows, Placed cells) :
    tableOf (normalizeExtractedText (joinLines (rows.map ("\t".intercalate ·)))) =
      rows.map fun cells => splitAt '\t' (collapseLineSpacesPreservingTabs ("\t".intercalate cells)) := by
  have bare : ∀ cells ∈ rows, ∀ char, char ≠ '\t' → char = '\x00' ∨ char = '\n' ∨ char = '\r' →
      char ∉ ("\t".intercalate cells).toList := by
    intro cells listed char noTab control inside
    have plain := (mem_row_text (placed cells listed) inside).resolve_left noTab
    tauto
  by_cases none : rows = []
  · subst none
    decide
  · have kept : ∀ row ∈ rows.map ("\t".intercalate ·), '\x00' ∉ row.toList ∧ '\n' ∉ row.toList ∧ '\r' ∉ row.toList ∧
        collapseLineSpacesPreservingTabs row ≠ "" := by
      intro row listed
      obtain ⟨cells, inside, rfl⟩ := List.mem_map.mp listed
      exact ⟨bare cells inside _ (by decide) (.inl rfl), bare cells inside _ (by decide) (.inr (.inl rfl)),
        bare cells inside _ (by decide) (.inr (.inr rfl)), collapse_ne_empty (placed cells inside)⟩
    have still : ∀ line ∈ (rows.map ("\t".intercalate ·)).map collapseLineSpacesPreservingTabs,
        line ≠ "" ∧ '\n' ∉ line.toList ∧ '\r' ∉ line.toList := by
      intro line listed
      rw [List.map_map] at listed
      obtain ⟨cells, inside, rfl⟩ := List.mem_map.mp listed
      have fewer := collapse_tabbed (placed cells inside).settled (placed cells inside).nonempty
      refine ⟨collapse_ne_empty (placed cells inside), ?_, ?_⟩
      · intro broken
        rw [Function.comp_apply, fewer] at broken
        exact bare cells inside _ (by decide) (.inr (.inl rfl)) (mem_trim broken)
      · intro broken
        rw [Function.comp_apply, fewer] at broken
        exact bare cells inside _ (by decide) (.inr (.inr rfl)) (mem_trim broken)
    rw [normalize_lines kept (by simpa using none), tableOf, Option.map_some, Option.getD_some, lines_joinLines still]
    simp only [List.map_map, Function.comp_def]

theorem displayed_rows (placed : ∀ row ∈ rows, Placed row) : (∀ row ∈ displayedRows rows, Placed row) ∧
    ((∀ row ∈ displayedRows rows, row.head? ≠ some "") ↔ ∀ row ∈ rows, row.head? ≠ some "") := by
  rw [displayedRows]
  dsimp only
  generalize sheetHeaderRowCount rows = headerRowCount
  generalize sheetColumnHints rows headerRowCount = columnHints
  have each : ∀ (rowIndex : Nat) (cell : String), Settled cell → ∀ columnIndex : Nat,
      Settled (if rowIndex < headerRowCount then cell else formatSheetCellText cell columnHints[columnIndex]?) ∧
        ((if rowIndex < headerRowCount then cell else formatSheetCellText cell columnHints[columnIndex]?) = "" ↔
          cell = "") := by
    intro rowIndex cell settled columnIndex
    split
    · exact ⟨settled, Iff.rfl⟩
    · exact format_settled settled _
  have inside : ∀ numbered ∈ rows.zipIdx, Placed numbered.1 := fun numbered listed =>
    placed _ (List.fst_mem_of_mem_zipIdx listed)
  have plain : rows = rows.zipIdx.map Prod.fst := (List.zipIdx_map_fst ..).symm
  have shown (numbered : List String × Nat) (listed : numbered ∈ rows.zipIdx) :=
    @placed_shown numbered.1 (fun (value, columnIndex) =>
      if numbered.2 < headerRowCount then value else formatSheetCellText value columnHints[columnIndex]?)
      (inside numbered listed) (each numbered.2)
  rw [List.forall_mem_map]
  refine ⟨fun numbered listed => (shown numbered listed).1, ?_⟩
  conv_rhs => rw [plain, List.forall_mem_map]
  rw [List.forall_mem_map]
  exact forall₂_congr fun numbered listed => not_congr (shown numbered listed).2

/-- The lines of the sheet have the shown cells of its rows, where every row has a text in the first
column, and otherwise not. -/
theorem sheet_text_shape_iff (xml sharedXml : String)
    (plain : ∀ row ∈ sheetRows xml (extractSharedStrings sharedXml), ∀ cell ∈ row,
      '\t' ∉ cell.toList ∧ '\n' ∉ cell.toList) :
    tableOf (extractSheetText xml (extractSharedStrings sharedXml)) =
      displayedRows (sheetRows xml (extractSharedStrings sharedXml)) ↔
      ∀ row ∈ sheetRows xml (extractSharedStrings sharedXml), row.head? ≠ some "" := by
  have placed : ∀ row ∈ sheetRows xml (extractSharedStrings sharedXml), Placed row := by
    intro row listed
    have own := plain row listed
    obtain ⟨found, nonempty⟩ := List.mem_filter.mp listed
    obtain ⟨rowXml, -, rfl⟩ := List.mem_map.mp found
    exact placed_row own (of_decide_eq_true nonempty)
  obtain ⟨shown, heads⟩ := displayed_rows placed
  rw [extractSheetText, tableOf_normalized shown, ← heads]
  constructor
  · intro same row listed
    rw [← split_line_iff (shown row listed)]
    exact List.map_inj_left.mp (same.trans (List.map_id _).symm) row listed
  · intro first
    exact (List.map_congr_left fun row listed => (split_line_iff (shown row listed)).mpr (first row listed)).trans
      (List.map_id _)

def indentedSheet : String := "<row><c r=\"B1\"><v>5</v></c></row>"

/-- A row that starts at the second column loses its place. -/
theorem sheet_text_shape_indented : ¬ ∀ xml sharedXml : String,
    (∀ row ∈ sheetRows xml (extractSharedStrings sharedXml), ∀ cell ∈ row, '\t' ∉ cell.toList ∧ '\n' ∉ cell.toList) →
      tableOf (extractSheetText xml (extractSharedStrings sharedXml)) =
        displayedRows (sheetRows xml (extractSharedStrings sharedXml)) := by
  intro always
  have rows : sheetRows indentedSheet (extractSharedStrings "") = [["", "5"]] := by decide +kernel
  have same := always indentedSheet "" (by rw [rows]; decide)
  rw [extractSheetText, rows] at same
  exact absurd same (by decide)

def firstColumnSheet : String := "<row><c r=\"A1\"><v>5</v></c></row>"

theorem sheet_text_shape_first_column :
    tableOf (extractSheetText firstColumnSheet (extractSharedStrings "")) =
      displayedRows (sheetRows firstColumnSheet (extractSharedStrings "")) := by
  have rows : sheetRows firstColumnSheet (extractSharedStrings "") = [["5"]] := by decide +kernel
  exact (sheet_text_shape_iff firstColumnSheet "" (by rw [rows]; decide)).mpr (by rw [rows]; decide)

end Table

end DataMax.Ingest
