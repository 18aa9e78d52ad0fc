import DataMax.Ingest.Rows
import Mathlib.Data.List.Chain
import Mathlib.Data.List.Nodup

/-! When the cells of a row come out at their columns. -/

namespace DataMax.Ingest

open Domain Library

section Columns

variable {quote : Char} {skipped cells : List Spaced} {sharedStrings : List String} {row : SheetRow}
variable {run other : List Spaced × SheetCell} {kept : Spaced → Prop}

/-- The cell after one without a closing tag has no text. -/
def Unswallowed (quote : Char) (sharedStrings : List String) (spaced next : Spaced) : Prop :=
  spaced.1.content = none → next.1.text quote sharedStrings = ""

theorem mem_runs (unclosed : ∀ spaced ∈ skipped, kept spaced ∧ spaced.1.content = none)
    (all : ∀ spaced ∈ cells, kept spaced) : ∀ run ∈ runsFrom skipped cells,
      (∀ spaced ∈ run.1, kept spaced ∧ spaced.1.content = none) ∧
        ∃ spaced, kept spaced ∧ spaced.1 = run.2 ∧ spaced.1.content ≠ none := by
  induction cells generalizing skipped with
  | nil => simp [runsFrom]
  | cons first rest ih =>
    obtain ⟨here, later⟩ := List.forall_mem_cons.mp all
    rw [runsFrom]
    cases known : first.1.content with
    | none =>
      refine ih (List.forall_mem_append.mpr ⟨unclosed, ?_⟩) later
      exact List.forall_mem_singleton.mpr ⟨here, known⟩
    | some content =>
      refine List.forall_mem_cons.mpr ⟨⟨unclosed, first, here, rfl, by simp [known]⟩, ?_⟩
      exact ih (List.forall_mem_nil _) later

theorem run_of_mem {spaced : Spaced} (listed : spaced ∈ cells) (closed : spaced.1.content ≠ none) :
    ∃ run ∈ runsFrom skipped cells, run.2 = spaced.1 := by
  induction cells generalizing skipped with
  | nil => simp at listed
  | cons first rest ih =>
    rw [runsFrom]
    cases known : first.1.content with
    | none =>
      rcases List.mem_cons.mp listed with rfl | later
      · exact absurd known closed
      · exact ih later
    | some content =>
      rcases List.mem_cons.mp listed with rfl | later
      · exact ⟨_, List.mem_cons_self, rfl⟩
      · obtain ⟨run, inside, same⟩ := @ih [] later
        exact ⟨run, List.mem_cons_of_mem _ inside, same⟩

/-- Every run is closed by a cell of its own. -/
theorem runs_sublist (skipped cells : List Spaced) :
    ((runsFrom skipped cells).map (·.2)).Sublist (cells.map (·.1)) := by
  induction cells generalizing skipped with
  | nil => simp [runsFrom]
  | cons first rest ih =>
    rw [runsFrom]
    cases first.1.content with
    | none => exact (ih _).cons _
    | some content => exact (ih _).cons_cons _

theorem unswallowed_unclosed (unclosed : ∀ spaced ∈ skipped, spaced.1.WellFormed quote ∧ spaced.1.content = none) :
    skipped.IsChain (Unswallowed quote sharedStrings) := by
  apply List.Pairwise.isChain
  refine List.pairwise_of_forall_mem_list fun spaced _ next listed _ => ?_
  exact text_selfClosing (unclosed next listed).1 (unclosed next listed).2

/-- Between the runs nothing is swallowed. -/
theorem runs_unswallowed_iff (wellFormed : ∀ spaced ∈ cells, spaced.1.WellFormed quote)
    (unclosed : ∀ spaced ∈ skipped, spaced.1.WellFormed quote ∧ spaced.1.content = none) :
    (∀ run ∈ runsFrom skipped cells, run.1 ≠ [] → run.2.text quote sharedStrings = "") ↔
      (skipped ++ cells).IsChain (Unswallowed quote sharedStrings) := by
  induction cells generalizing skipped with
  | nil =>
    rw [List.append_nil]
    exact iff_of_true (by simp [runsFrom]) (unswallowed_unclosed unclosed)
  | cons first rest ih =>
    obtain ⟨here, later⟩ := List.forall_mem_cons.mp wellFormed
    rw [runsFrom]
    cases known : first.1.content with
    | none =>
      have grown : ∀ spaced ∈ skipped ++ [first], spaced.1.WellFormed quote ∧ spaced.1.content = none :=
        List.forall_mem_append.mpr ⟨unclosed, List.forall_mem_singleton.mpr ⟨here, known⟩⟩
      have moved := ih later grown
      rw [List.append_assoc] at moved
      exact moved
    | some content =>
      have following := ih later (List.forall_mem_nil _)
      have free : ∀ next ∈ rest.head?, Unswallowed quote sharedStrings first next := by
        intro next _ unclosed
        rw [known] at unclosed
        cases unclosed
      have before : (∀ spaced ∈ skipped.getLast?, ∀ next ∈ (first :: rest).head?,
          Unswallowed quote sharedStrings spaced next) ↔ (skipped ≠ [] → first.1.text quote sharedStrings = "") := by
        cases skipped using List.reverseRecOn with
        | nil => simp
        | append_singleton earlier last =>
          have ends := (unclosed last (by simp)).2
          simp [Unswallowed, ends]
      rw [List.isChain_append, List.isChain_cons, before]
      change (∀ run ∈ (skipped, first.1) :: runsFrom [] rest, _) ↔ _
      rw [List.forall_mem_cons, following, List.nil_append]
      have chained := @unswallowed_unclosed quote skipped sharedStrings unclosed
      tauto

/-- What a run puts to its column. -/
def placement (quote : Char) (sharedStrings : List String) (run : List Spaced × SheetCell) : Nat × String :=
  ((headCell run).columnIndex, (extractCellText (.ofList (runXml quote run)) sharedStrings).getD "")

theorem columnIndex_reference {cell : SheetCell} (wellFormed : cell.WellFormed quote) :
    cellReferenceColumnIndex (.ofList cell.reference) = some cell.columnIndex := by
  obtain ⟨letters, digits, shape, nonempty, -, alphabetic, -⟩ := wellFormed.reference
  have first : cell.reference.takeWhile Char.isAlpha ≠ [] := by
    obtain ⟨letter, others, rfl⟩ := List.exists_cons_of_ne_nil nonempty
    have alpha := List.all_eq_true.mp alphabetic letter List.mem_cons_self
    rw [shape, List.cons_append, List.takeWhile_cons_of_pos alpha]
    exact List.cons_ne_nil _ _
  rw [SheetCell.columnIndex, cellReferenceColumnIndex, String.toList_ofList, if_neg first]
  rfl

theorem split_row (row : SheetRow) :
    splitXmlElements row.xml "c" = (runsFrom [] row.cells).map (.ofList <| runXml row.quote ·) := by
  have spaces : ∀ spaced ∈ row.cells, spaced.1.WellFormed row.quote ∧ ∀ char ∈ spaced.2, isWhitespace char = true :=
    fun spaced listed => ⟨row.wellFormed spaced listed, row.blank.2 spaced listed⟩
  have scanned := @scan_cells row.quote row.start row.rest [] row.cells row.blank.1 (List.forall_mem_nil _) spaces
    row.ended
  rw [List.flatMap_nil, List.nil_append] at scanned
  rw [splitXmlElements, SheetRow.xml, String.toList_ofList, scanned]

theorem mem_row_runs : ∀ run ∈ runsFrom [] row.cells, (∀ spaced ∈ run.1, spaced ∈ row.cells ∧ spaced.1.content = none) ∧
    ∃ spaced ∈ row.cells, spaced.1 = run.2 ∧ spaced.1.content ≠ none :=
  mem_runs (List.forall_mem_nil _) fun _ listed => listed

theorem head_mem (listed : run ∈ runsFrom [] row.cells) : ∃ spaced ∈ row.cells, spaced.1 = headCell run := by
  obtain ⟨unclosed, spaced, inside, same, -⟩ := mem_row_runs run listed
  obtain ⟨skipped, cell⟩ := run
  cases skipped with
  | nil => exact ⟨spaced, inside, same⟩
  | cons first others => exact ⟨first, (unclosed first List.mem_cons_self).1, rfl⟩

theorem run_within (listed : run ∈ runsFrom [] row.cells) :
    runXml row.quote run <:+: row.start ++ (row.cells.flatMap (spacedXml row.quote) ++ row.rest) := by
  have found : (.ofList <| runXml row.quote run) ∈ splitXmlElements row.xml "c" := by
    rw [split_row]
    exact List.mem_map_of_mem listed
  obtain ⟨element, inside, same⟩ := List.mem_map.mp found
  have place := infix_of_mem_scanAll (fun text found rest step => nextElement_within step) inside
  rw [SheetRow.xml, String.toList_ofList] at place
  rwa [← String.ofList_inj.mp same]

theorem cellPlace_run (listed : run ∈ runsFrom [] row.cells) (position : Nat) :
    cellPlace (.ofList (runXml row.quote run)) position = (headCell run).columnIndex := by
  obtain ⟨spaced, inside, same⟩ := head_mem listed
  have wellFormed : (headCell run).WellFormed row.quote := same ▸ row.wellFormed spaced inside
  have quoted : row.quote = '"' ∨ row.quote = '\'' ∧ ¬ ['r', '=', '"'] <:+: runXml row.quote run :=
    row.quoted.imp_right fun ⟨single, absent⟩ => ⟨single, fun spelled => absent (spelled.trans (run_within listed))⟩
  rw [cellPlace, reference_run wellFormed quoted, Option.bind_some, columnIndex_reference wellFormed]
  rfl

theorem row_cells_placed (row : SheetRow) (sharedStrings : List String) :
    extractSheetRowCells row.xml sharedStrings =
      dropEmptyCells (((runsFrom [] row.cells).map (placement row.quote sharedStrings)).foldl
        (fun cells placement => placeCell cells placement.1 placement.2) []) := by
  rw [extractSheetRowCells, split_row, List.zipIdx_map]
  refine congrArg dropEmptyCells ?_
  rw [List.foldl_map, List.foldl_map]
  refine foldl_zipIdx (fun run listed cells position => ?_) [] 0
  simp only [Prod.map_apply, id_eq, cellPlace_run listed]
  rfl

theorem column_inj {spaced other : Spaced} (listed : spaced ∈ row.cells) (also : other ∈ row.cells)
    (same : spaced.1.columnIndex = other.1.columnIndex) : spaced = other :=
  List.inj_on_of_nodup_map row.distinct listed also same

theorem textAt_cell {spaced : Spaced} (listed : spaced ∈ row.cells) :
    row.textAt sharedStrings spaced.1.columnIndex = spaced.1.text row.quote sharedStrings := by
  rw [SheetRow.textAt]
  cases found : row.cells.find? (·.1.columnIndex = spaced.1.columnIndex) with
  | none =>
    have nowhere := List.find?_eq_none.mp found spaced listed
    simp at nowhere
  | some other =>
    have same := List.find?_some found
    rw [column_inj (List.mem_of_find?_eq_some found) listed (of_decide_eq_true same)]
    rfl

theorem textAt_nowhere {columnIndex : Nat} (nowhere : ∀ spaced ∈ row.cells, spaced.1.columnIndex ≠ columnIndex) :
    row.textAt sharedStrings columnIndex = "" := by
  have missing : row.cells.find? (·.1.columnIndex = columnIndex) = none :=
    List.find?_eq_none.mpr fun spaced listed => by simpa using nowhere spaced listed
  rw [SheetRow.textAt, missing]
  rfl

/-- The list has the row's texts at their columns, and does not end with an empty one. -/
def SheetRow.ShownAs (row : SheetRow) (sharedStrings cells : List String) : Prop :=
  (∀ columnIndex : Nat, (cells[columnIndex]?).getD "" = row.textAt sharedStrings columnIndex) ∧
    ∀ last ∈ cells.getLast?, trim last ≠ ""

theorem shown_iff (row : SheetRow) (sharedXml : String) :
    row.ShownAs (extractSharedStrings sharedXml) (extractSheetRowCells row.xml (extractSharedStrings sharedXml)) ↔
      ∀ columnIndex : Nat, ((((runsFrom [] row.cells).map (placement row.quote (extractSharedStrings sharedXml))).foldl
        (fun cells placement => placeCell cells placement.1 placement.2) [])[columnIndex]?).getD "" =
          row.textAt (extractSharedStrings sharedXml) columnIndex := by
  have shown : ∀ cell ∈ ((runsFrom [] row.cells).map (placement row.quote (extractSharedStrings sharedXml))).foldl
      (fun cells placement => placeCell cells placement.1 placement.2) [], trim cell = "" → cell = "" := by
    intro cell listed blank
    rcases mem_placed cell listed with empty | ⟨placed, inside, rfl⟩
    · exact empty
    · obtain ⟨run, -, rfl⟩ := List.mem_map.mp inside
      cases read : extractCellText (.ofList (runXml row.quote run)) (extractSharedStrings sharedXml) with
      | none => rw [placement, read]; rfl
      | some text =>
        rw [placement, read, Option.getD_some] at blank
        exact absurd ((trim_cellText read).1.symm.trans blank) (trim_cellText read).2
  rw [SheetRow.ShownAs, row_cells_placed]
  simp only [getD_dropEmptyCells shown]
  exact and_iff_left (last_dropEmptyCells _)

theorem runs_inj (listed : run ∈ runsFrom [] row.cells) (also : other ∈ runsFrom [] row.cells)
    (same : run.2 = other.2) : run = other := by
  have columns : ((runsFrom [] row.cells).map (·.2.columnIndex)).Nodup := by
    have fewer := (runs_sublist [] row.cells).map SheetCell.columnIndex
    rw [List.map_map, List.map_map] at fewer
    exact row.distinct.sublist fewer
  exact List.inj_on_of_nodup_map columns listed also (congrArg SheetCell.columnIndex same)

/-- No run begins with a cell that another cell was skipped for. -/
theorem head_ne (listed : run ∈ runsFrom [] row.cells) (also : other ∈ runsFrom [] row.cells) (skips : run.1 ≠ []) :
    headCell other ≠ run.2 := by
  intro same
  obtain ⟨spaced, -, closes, closed⟩ := (mem_row_runs run listed).2
  have unclosed := (mem_row_runs other also).1
  cases shape : other.1 with
  | nil =>
    have alone : headCell other = other.2 := by rw [headCell, shape]; rfl
    have whole := runs_inj listed also (same.symm.trans alone)
    exact skips (whole ▸ shape)
  | cons first others =>
    have head : headCell other = first.1 := by rw [headCell, shape]; rfl
    have noContent := (unclosed first (shape ▸ List.mem_cons_self)).2
    rw [← head, same, ← closes] at noContent
    exact closed noContent

theorem text_none {cell : SheetCell} {sharedXml : String} (empty : cell.text quote (extractSharedStrings sharedXml) = "") :
    extractCellText (.ofList (cell.xml quote)) (extractSharedStrings sharedXml) = none := by
  cases read : extractCellText (.ofList (cell.xml quote)) (extractSharedStrings sharedXml) with
  | none => rfl
  | some text =>
    rw [SheetCell.text, read] at empty
    exact absurd empty (trim_cellText read).2

variable {sharedXml : String}

/-- Where no text is swallowed, a run puts the text of the cell that it begins with. -/
theorem text_placement (unswallowed : ∀ run ∈ runsFrom [] row.cells, run.1 ≠ [] →
    run.2.text row.quote (extractSharedStrings sharedXml) = "") (listed : run ∈ runsFrom [] row.cells) :
    (placement row.quote (extractSharedStrings sharedXml) run).2 =
      (headCell run).text row.quote (extractSharedStrings sharedXml) := by
  have empty := unswallowed run listed
  have unclosed := (mem_row_runs run listed).1
  obtain ⟨skipped, cell⟩ := run
  cases skipped with
  | nil => rfl
  | cons first others =>
    have skippable : ∀ spaced ∈ first :: others, Skippable row.quote spaced := by
      intro spaced inside
      obtain ⟨member, noContent⟩ := unclosed spaced inside
      exact ⟨row.wellFormed spaced member, noContent, row.blank.2 spaced member⟩
    have head := (skippable first List.mem_cons_self)
    have nothing := text_run_none skippable (text_none (empty (List.cons_ne_nil _ _)))
    rw [placement, nothing]
    exact (text_selfClosing head.wellFormed head.unclosed).symm

def styledRow : SheetRow where
  quote := '"'
  start := []
  cells := [(⟨[' '], "A1".toList, " s=\"1\"".toList, none⟩, []), (⟨[' '], "B1".toList, [], some "<v>5</v>".toList⟩, [])]
  rest := []
  wellFormed := by
    rw [List.forall_mem_cons, List.forall_mem_singleton]
    constructor
    · exact ⟨by decide, ⟨['A'], ['1'], by decide⟩, by decide, by simp⟩
    · refine ⟨by decide, ⟨['B'], ['1'], by decide⟩, by decide, fun content same => ?_⟩
      rw [← Option.some.inj same]
      decide
  blank := by simp
  ended := by decide
  distinct := by decide
  quoted := .inl rfl

end Columns

end DataMax.Ingest
