import DataMax.Ingest.Cells

/-! The rows of a sheet, and how the scan for their cells reads them: a cell without a closing tag
reaches to the end of the next cell that has one. -/

namespace DataMax.Ingest

open Domain Library

section Rows

/-- A `c` element: its attributes around the reference, and its content if it has a closing tag. -/
structure SheetCell where
  before : List Char
  reference : List Char
  after : List Char
  content : Option (List Char)

namespace SheetCell

variable (quote : Char) (cell : SheetCell)

def attributes : List Char := cell.before ++ (['r', '=', quote] ++ (cell.reference ++ (quote :: cell.after)))

def xml : List Char := match cell.content with
  | none => openingTag "c" (cell.attributes quote ++ ['/'])
  | some content => openingTag "c" (cell.attributes quote) ++ content ++ closeTag "c"

def columnIndex : Nat := (cellReferenceColumnIndex (.ofList cell.reference)).getD 0

/-- What the element itself has to read. -/
def text (sharedStrings : List String) : String :=
  (extractCellText (.ofList (cell.xml quote)) sharedStrings).getD ""

structure WellFormed : Prop where
  plain : '<' ∉ cell.attributes quote ∧ '>' ∉ cell.attributes quote
  reference : ∃ letters digits, cell.reference = letters ++ digits ∧ letters ≠ [] ∧ digits ≠ [] ∧
    letters.all Char.isAlpha ∧ digits.all Char.isDigit
  named : ¬ ['r', '=', quote] <:+: cell.before
  content : ∀ content, cell.content = some content → ¬ closeTag "c" <:+: content

end SheetCell

/-- A cell with the white space that is after it. -/
abbrev Spaced := SheetCell × List Char

def spacedXml (quote : Char) (spaced : Spaced) : List Char := spaced.1.xml quote ++ spaced.2

/-- A row whose attributes are in quotation marks of one kind. The reference is looked for in double
ones first, so in a row with single ones no text may spell it. -/
structure SheetRow where
  quote : Char
  start : List Char
  cells : List Spaced
  rest : List Char
  wellFormed : ∀ cell ∈ cells, cell.1.WellFormed quote
  blank : (∀ char ∈ start, isWhitespace char = true) ∧ ∀ cell ∈ cells, ∀ char ∈ cell.2, isWhitespace char = true
  ended : ¬ closeTag "c" <:+: rest
  distinct : (cells.map (·.1.columnIndex)).Nodup
  quoted : quote = '"' ∨ quote = '\'' ∧ ¬ ['r', '=', '"'] <:+: start ++ (cells.flatMap (spacedXml quote) ++ rest)

def SheetRow.xml (row : SheetRow) : String := .ofList (row.start ++ (row.cells.flatMap (spacedXml row.quote) ++ row.rest))

/-- The text that a column of the row has. -/
def SheetRow.textAt (row : SheetRow) (sharedStrings : List String) (columnIndex : Nat) : String :=
  ((row.cells.find? (·.1.columnIndex = columnIndex)).map (·.1.text row.quote sharedStrings)).getD ""

/-- Cells without a closing tag, up to one that has it: to the scan they are one element. -/
def runsFrom (skipped : List Spaced) : List Spaced → List (List Spaced × SheetCell)
  | [] => []
  | spaced :: rest =>
    if spaced.1.content.isNone then runsFrom (skipped ++ [spaced]) rest
    else (skipped, spaced.1) :: runsFrom [] rest

def runXml (quote : Char) (run : List Spaced × SheetCell) : List Char :=
  run.1.flatMap (spacedXml quote) ++ run.2.xml quote

end Rows

section Runs

variable {quote second : Char} {tail start rest : List Char} {cell : SheetCell} {spaced : Spaced}
variable {skipped cells : List Spaced} {run : List Spaced × SheetCell} {sharedStrings : List String}

theorem plain_c : PlainTag "c" := by
  constructor <;> decide

theorem not_mem_blank (blank : ∀ char ∈ start, isWhitespace char = true) : '<' ∉ start := by
  intro inside
  have space := blank '<' inside
  exact absurd space (by decide)

/-- A search for other tags reads over the opening tag of a cell. -/
theorem passes_opening (apart : second ≠ 'c') {attributes : List Char} (plain : '<' ∉ attributes) :
    Passes ('<' :: second :: tail) (openingTag "c" attributes) := by
  have shape : openingTag "c" attributes = ['<', 'c'] ++ (attributes ++ ['>']) := by
    simp [openingTag, openPrefix]
  rw [shape]
  exact (passes_pair apart (by decide)).append (passes_of_head (by simpa using plain))

theorem selfClosing_xml (unclosed : cell.content = none) :
    cell.xml quote = openingTag "c" (cell.attributes quote ++ ['/']) := by
  rw [SheetCell.xml, unclosed]

structure Skippable (quote : Char) (spaced : Spaced) : Prop where
  wellFormed : spaced.1.WellFormed quote
  unclosed : spaced.1.content = none
  blank : ∀ char ∈ spaced.2, isWhitespace char = true

theorem passes_skipped (apart : second ≠ 'c') (skippable : ∀ spaced ∈ skipped, Skippable quote spaced) :
    Passes ('<' :: second :: tail) (skipped.flatMap (spacedXml quote)) := by
  induction skipped with
  | nil => exact passes_nil _
  | cons spaced others ih =>
    obtain ⟨⟨wellFormed, unclosed, blank⟩, later⟩ := List.forall_mem_cons.mp skippable
    rw [List.flatMap_cons]
    refine Passes.append (Passes.append ?_ ?_) (ih later)
    · rw [selfClosing_xml unclosed]
      exact passes_opening apart (by simpa using wellFormed.plain.1)
    · exact passes_of_head (not_mem_blank blank)

theorem not_infix_blank (blank : ∀ char ∈ start, isWhitespace char = true) : ¬ openPrefix "c" <:+: start := by
  intro inside
  exact not_mem_blank blank (inside.subset List.mem_cons_self)

/-- The scan takes a run of cells for one element. -/
theorem nextElement_run (blank : ∀ char ∈ start, isWhitespace char = true)
    (skippable : ∀ spaced ∈ skipped, Skippable quote spaced) (wellFormed : cell.WellFormed quote)
    {content : List Char} (closed : cell.content = some content) (rest : List Char) :
    ∃ element, nextElement "c" (start ++ (runXml quote (skipped, cell) ++ rest)) = some (element, rest) ∧
      element.xml = .ofList (runXml quote (skipped, cell)) := by
  have own : ¬ closeTag "c" <:+: content := wellFormed.content content closed
  have cellXml : cell.xml quote = openingTag "c" (cell.attributes quote) ++ content ++ closeTag "c" := by
    rw [SheetCell.xml, closed]
  cases skipped with
  | nil =>
    have found := nextElement_found plain_c (not_infix_blank blank) wellFormed.plain.2
      (splitOnce_close plain_c own rest)
    have shape : runXml quote ([], cell) = openingTag "c" (cell.attributes quote) ++ content ++ closeTag "c" := cellXml
    exact ⟨_, shape ▸ found, by rw [shape]; rfl⟩
  | cons first others =>
    obtain ⟨⟨firstFormed, unclosed, firstBlank⟩, later⟩ := List.forall_mem_cons.mp skippable
    have firstXml := @selfClosing_xml quote _ unclosed
    let between := first.2 ++ others.flatMap (spacedXml quote) ++ openingTag "c" (cell.attributes quote)
    have passes : Passes (closeTag "c") between :=
      ((passes_of_head (not_mem_blank firstBlank)).append (passes_skipped (by decide) later)).append
        (passes_opening (by decide) wellFormed.plain.1)
    have inner : splitOnce (closeTag "c") (between ++ content ++ (closeTag "c" ++ rest)) =
        some (between ++ content, rest) := by
      rw [List.append_assoc, passes, splitOnce_close plain_c own rest]
      rfl
    have noEnd : '>' ∉ first.1.attributes quote ++ ['/'] := by simpa using firstFormed.plain.2
    have found := nextElement_found plain_c (not_infix_blank blank) noEnd inner
    have shape : runXml quote (first :: others, cell) =
        openingTag "c" (first.1.attributes quote ++ ['/']) ++ (between ++ content) ++ closeTag "c" := by
      simp [runXml, spacedXml, firstXml, cellXml, between]
    exact ⟨_, shape ▸ found, by rw [shape]; rfl⟩

theorem nextElement_ended (blank : ∀ char ∈ start, isWhitespace char = true)
    (skippable : ∀ spaced ∈ skipped, Skippable quote spaced)
    (ended : ¬ closeTag "c" <:+: rest) :
    nextElement "c" (start ++ (skipped.flatMap (spacedXml quote) ++ rest)) = none := by
  have passes : Passes (closeTag "c") (start ++ skipped.flatMap (spacedXml quote)) :=
    (passes_of_head (not_mem_blank blank)).append (passes_skipped (by decide) skippable)
  apply nextElement_unclosed
  rw [← List.append_assoc, passes, splitOnce_eq_none ended]
  rfl

theorem scan_cells (blank : ∀ char ∈ start, isWhitespace char = true)
    (skippable : ∀ spaced ∈ skipped, Skippable quote spaced)
    (spaces : ∀ spaced ∈ cells, spaced.1.WellFormed quote ∧ ∀ char ∈ spaced.2, isWhitespace char = true)
    (ended : ¬ closeTag "c" <:+: rest) :
    (scanAll (nextElement "c") (start ++ (skipped.flatMap (spacedXml quote) ++ (cells.flatMap (spacedXml quote) ++
      rest)))).map XmlElement.xml = (runsFrom skipped cells).map (.ofList <| runXml quote ·) := by
  induction cells generalizing start skipped with
  | nil =>
    rw [List.flatMap_nil, List.nil_append, scanAll_none (nextElement_ended blank skippable ended)]
    rfl
  | cons spaced others ih =>
    obtain ⟨⟨wellFormed, after⟩, later⟩ := List.forall_mem_cons.mp spaces
    rw [runsFrom]
    cases known : spaced.1.content with
    | none =>
      have grown : ∀ other ∈ skipped ++ [spaced], Skippable quote other := by
        rw [List.forall_mem_append, List.forall_mem_singleton]
        exact ⟨skippable, wellFormed, known, after⟩
      have moved := ih blank grown later
      rw [List.flatMap_append, List.flatMap_singleton, List.append_assoc] at moved
      rw [List.flatMap_cons, List.append_assoc]
      exact moved
    | some content =>
      have shape : start ++ (skipped.flatMap (spacedXml quote) ++ ((spaced :: others).flatMap (spacedXml quote) ++ rest)) =
          start ++ (runXml quote (skipped, spaced.1) ++ (spaced.2 ++ (others.flatMap (spacedXml quote) ++ rest))) := by
        simp [runXml, spacedXml]
      obtain ⟨element, found, same⟩ := nextElement_run blank skippable wellFormed known
        (spaced.2 ++ (others.flatMap (spacedXml quote) ++ rest))
      have following := ih after (List.forall_mem_nil _) later
      rw [List.flatMap_nil, List.nil_append] at following
      rw [shape, scanAll_some (nextElement_advances "c") found, List.map_cons, same, following]
      rfl

/-- The cell that a run begins with. -/
def headCell (run : List Spaced × SheetCell) : SheetCell := (run.1.head?.map (·.1)).getD run.2

theorem cell_starts (quote : Char) (cell : SheetCell) :
    ∃ more, cell.xml quote = ['<', 'c'] ++ (cell.attributes quote ++ more) := by
  rw [SheetCell.xml]
  cases cell.content with
  | none => exact ⟨['/', '>'], by simp [openingTag, openPrefix]⟩
  | some content => exact ⟨['>'] ++ content ++ closeTag "c", by simp [openingTag, openPrefix]⟩

theorem run_starts (quote : Char) (run : List Spaced × SheetCell) :
    ∃ more, runXml quote run = ['<', 'c'] ++ ((headCell run).attributes quote ++ more) := by
  obtain ⟨skipped, cell⟩ := run
  cases skipped with
  | nil => exact cell_starts quote cell
  | cons first others =>
    obtain ⟨more, starts⟩ := cell_starts quote first.1
    refine ⟨more ++ (first.2 ++ (others.flatMap (spacedXml quote) ++ cell.xml quote)), ?_⟩
    simp [runXml, spacedXml, starts, headCell]

/-- The reference of a run is the one of the cell that it begins with. -/
theorem reference_run (wellFormed : (headCell run).WellFormed quote)
    (quoted : quote = '"' ∨ quote = '\'' ∧ ¬ ['r', '=', '"'] <:+: runXml quote run) :
    xmlAttributeValue (.ofList (runXml quote run)) "r" = some (.ofList (headCell run).reference) := by
  obtain ⟨more, starts⟩ := run_starts quote run
  let head := headCell run
  have own : quote ∉ head.reference := by
    obtain ⟨letters, digits, shape, -, -, alphabetic, numeric⟩ := wellFormed.reference
    have unlike : quote.isAlpha = false ∧ quote.isDigit = false := by
      rcases quoted with rfl | ⟨rfl, -⟩ <;> decide
    intro inside
    rw [shape, List.mem_append] at inside
    rcases inside with letter | digit
    · exact absurd (List.all_eq_true.mp alphabetic _ letter) (by simp [unlike])
    · exact absurd (List.all_eq_true.mp numeric _ digit) (by simp [unlike])
  have first : ¬ 'r' :: ['=', quote] <:+: ['<', 'c'] ++ head.before := by
    have named := wellFormed.named
    simp [List.infix_cons_iff, head, named]
  have once : 'r' ∉ ['=', quote] := by
    rcases quoted with rfl | ⟨rfl, -⟩ <;> decide
  have found := splitOnce_first once first (head.reference ++ quote :: (head.after ++ more))
  have shape : runXml quote run = ['<', 'c'] ++ head.before ++
      ('r' :: ['=', quote] ++ (head.reference ++ quote :: (head.after ++ more))) := by
    rw [starts, SheetCell.attributes]
    simp [head]
  have letter : "r".toList = ['r'] := rfl
  refine @xmlAttributeValue_found (['<', 'c'] ++ head.before) (head.after ++ more) _ _ _ _ ?_ own ?_
  · rw [letter, String.toList_ofList, shape]
    exact found
  · rw [letter, String.toList_ofList]
    exact quoted

variable {tag : String}

theorem passes_tag (short : tag.toList = [second]) (apart : second ≠ 'c')
    (skippable : ∀ spaced ∈ skipped, Skippable quote spaced) :
    Passes (openPrefix tag) (skipped.flatMap (spacedXml quote)) := by
  rw [openPrefix, short]
  exact passes_skipped apart skippable

theorem firstTag_run (short : tag.toList = [second]) (apart : second ≠ 'c')
    (skippable : ∀ spaced ∈ skipped, Skippable quote spaced) :
    firstXmlTagText (.ofList (runXml quote (skipped, cell))) tag = firstXmlTagText (.ofList (cell.xml quote)) tag := by
  rw [firstXmlTagText_eq, firstXmlTagText_eq, String.toList_ofList, String.toList_ofList, runXml,
    nextElement_passes (passes_tag short apart skippable)]

theorem firstTag_selfClosing (short : tag.toList = [second]) (apart : second ≠ 'c') (wellFormed : cell.WellFormed quote)
    (unclosed : cell.content = none) : firstXmlTagText (.ofList (cell.xml quote)) tag = none := by
  have passes : Passes (openPrefix tag) (cell.xml quote) := by
    rw [openPrefix, short, selfClosing_xml unclosed]
    exact passes_opening apart (by simpa using wellFormed.plain.1)
  have endless : nextElement tag [] = none := nextElement_none (by simp [openPrefix])
  have nothing := nextElement_passes passes []
  rw [List.append_nil, endless] at nothing
  rw [firstXmlTagText_eq, String.toList_ofList, nothing]
  rfl

theorem tags : "t".toList = ['t'] ∧ "v".toList = ['v'] := ⟨rfl, rfl⟩

/-- A cell without a closing tag has nothing to read. -/
theorem text_selfClosing (wellFormed : cell.WellFormed quote) (unclosed : cell.content = none) :
    cell.text quote sharedStrings = "" := by
  have noText := firstTag_selfClosing tags.1 (by decide) wellFormed unclosed
  have noValue := firstTag_selfClosing tags.2 (by decide) wellFormed unclosed
  rw [SheetCell.text, extractCellText, tagText, tagText, sharedIndex, noText, noValue]
  split <;> rfl

/-- A text that reads as a position is not blank. -/
theorem normalized_of_parseUsize {text : String} {index : Nat} (read : parseUsize (trim text) = some index) :
    normalizeExtractedText (decodeXmlEntities text) ≠ none := by
  obtain ⟨⟨digit, inside, isDigit⟩, others⟩ := digits_of_parseUsize read
  have noMark : '&' ∉ text.toList := by
    obtain ⟨before, after, shape, blankBefore, blankAfter⟩ := trim_split text
    rw [shape, List.mem_append, List.mem_append]
    rintro ((mark | mark) | mark)
    · exact absurd (blankBefore _ mark) (by decide)
    · exact absurd (others _ mark) (by decide)
    · exact absurd (blankAfter _ mark) (by decide)
  have seen : digit ∈ visible (withoutNul text) := by
    have code := alphanum_code (show digit.isAlphanum = true by simp [Char.isAlphanum, isDigit])
    have shown : isWhitespace digit = false := by
      simp [isWhitespace]
      omega
    have noNul : digit ≠ '\x00' := by
      rintro rfl
      exact absurd isDigit (by decide)
    simp [visible, withoutNul, mem_trim inside, shown, noNul]
  intro nothing
  have kept := visible_normalizeExtractedText text
  rw [decodeXmlEntities_plain noMark] at nothing
  rw [nothing] at kept
  rw [← kept] at seen
  exact List.not_mem_nil seen

theorem cellTypeShared_run (shared : cellTypeShared (.ofList (cell.xml quote)) = true) :
    cellTypeShared (.ofList (runXml quote (skipped, cell))) = true := by
  rw [cellTypeShared, Bool.or_eq_true, contains_iff, contains_iff] at shared ⊢
  have whole : (String.ofList (runXml quote (skipped, cell))).toList =
      skipped.flatMap (spacedXml quote) ++ (String.ofList (cell.xml quote)).toList := by
    rw [String.toList_ofList, String.toList_ofList, runXml]
  rw [whole]
  exact shared.imp List.infix_append_of_infix_right List.infix_append_of_infix_right

/-- The cells before a cell without a text do not give it one. -/
theorem text_run_none (skippable : ∀ spaced ∈ skipped, Skippable quote spaced)
    (empty : extractCellText (.ofList (cell.xml quote)) sharedStrings = none) :
    extractCellText (.ofList (runXml quote (skipped, cell))) sharedStrings = none := by
  have sameText := @firstTag_run quote 't' cell skipped "t" tags.1 (by decide) skippable
  have sameValue := @firstTag_run quote 'v' cell skipped "v" tags.2 (by decide) skippable
  rw [extractCellText, tagText, tagText, sharedIndex] at empty ⊢
  rw [sameText, sameValue]
  cases own : cellTypeShared (.ofList (cell.xml quote)) with
  | true =>
    rw [own] at empty
    rw [cellTypeShared_run own]
    exact empty
  | false =>
    rw [own] at empty
    cases cellTypeShared (.ofList (runXml quote (skipped, cell))) with
    | false => exact empty
    | true =>
      obtain ⟨-, noValue⟩ := Option.or_eq_none_iff.mp empty
      cases value : firstXmlTagText (.ofList (cell.xml quote)) "v" with
      | none => rfl
      | some text =>
        rw [value, Option.bind_some] at noValue
        cases read : parseUsize (trim text) with
        | none => simp [read]
        | some index => exact absurd noValue (normalized_of_parseUsize read)

end Runs

end DataMax.Ingest
