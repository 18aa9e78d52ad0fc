import DataMax.Ingest.SheetText
import DataMax.Library.Sorting

/-! The order in which the parts of presentations and workbooks are read: that of their names. -/

namespace DataMax.Ingest

open Domain Library

/-- An entry of an archive, with its text where it can be read. -/
structure ArchiveEntry where
  name : String
  opens : Bool
  text : Option String

structure Archive where
  entries : List ArchiveEntry
  distinct : (entries.map ArchiveEntry.name).Nodup

namespace Archive

def readZipEntry (archive : Archive) (name : String) : Option String := do
  let entry ← archive.entries.find? (·.name = name)
  if entry.opens then entry.text else none

/-- The names of the parts of a kind, sorted, if every entry opens. -/
def partNames (archive : Archive) (start : String) : Option (List String) :=
  if archive.entries.all ArchiveEntry.opens then
    some (sortBy compare ((archive.entries.map ArchiveEntry.name).filter fun name =>
      startsWith name start && endsWith name ".xml"))
  else none

end Archive

def slideText (xml : String) : Option String :=
  normalizeExtractedText (decodeXmlEntities (stripMarkupTags (replaceText "</p:sp>" "\n" (replaceText "</a:p>" "\n" xml))))

def extractPptxText (archive : Archive) : Option String := do
  let slideEntries ← archive.partNames "ppt/slides/slide"
  let slides ← slideEntries.mapM fun name => (archive.readZipEntry name).map slideText
  normalizeExtractedText ("\n\n".intercalate (slides.filterMap id))

def sheetTexts (archive : Archive) (sheetEntries : List String) : Option (List (Option String)) :=
  let sharedStrings := ((archive.readZipEntry "xl/sharedStrings.xml").map extractSharedStrings).getD []
  sheetEntries.mapM fun name => (archive.readZipEntry name).map (extractSheetText · sharedStrings)

def headedSheet (number : Nat) (text : String) : String := "# Sheet " ++ toString number ++ "\n" ++ text

def extractXlsxText (archive : Archive) : Option String := do
  let sheetEntries ← archive.partNames "xl/worksheets/sheet"
  let texts ← sheetTexts archive sheetEntries
  let sheets := texts.zipIdx.filterMap fun (text, sheetIndex) => text.map (headedSheet (sheetIndex + 1))
  normalizeExtractedText ("\n\n".intercalate sheets)

def partName (start : String) (number : Nat) : String := start ++ toString number ++ ".xml"

/-- The parts from the first to the last, by their numbers. -/
def numberedParts (start : String) (count : Nat) : List String := (List.range count).map fun index => partName start (index + 1)

/-- The archive can be read and holds these parts of the kind and no others. -/
structure HoldsParts (archive : Archive) (start : String) (count : Nat) : Prop where
  parts : ((archive.entries.map ArchiveEntry.name).filter fun name => startsWith name start && endsWith name ".xml").Perm
    (numberedParts start count)
  opens : ∀ entry ∈ archive.entries, entry.opens

/-- The slides are read by their numbers, and their texts follow each other. -/
structure SlidesInOrder (archive : Archive) (count : Nat) : Prop where
  order : archive.partNames "ppt/slides/slide" = some (numberedParts "ppt/slides/slide" count)
  text : extractPptxText archive = do
    let slides ← (List.range count).mapM fun index =>
      (archive.readZipEntry (partName "ppt/slides/slide" (index + 1))).map slideText
    normalizeExtractedText ("\n\n".intercalate (slides.filterMap id))

/-- So are the sheets, each behind its own number. -/
structure SheetsInOrder (archive : Archive) (count : Nat) : Prop where
  order : archive.partNames "xl/worksheets/sheet" = some (numberedParts "xl/worksheets/sheet" count)
  text : extractXlsxText archive = do
    let sharedStrings := ((archive.readZipEntry "xl/sharedStrings.xml").map extractSharedStrings).getD []
    let sheets ← (List.range count).mapM fun index =>
      (archive.readZipEntry (partName "xl/worksheets/sheet" (index + 1))).map fun xml =>
        (extractSheetText xml sharedStrings).map (headedSheet (index + 1))
    normalizeExtractedText ("\n\n".intercalate (sheets.filterMap id))

section Order

variable {archive : Archive} {start : String} {count : Nat}

theorem numberedParts_take {fewer : Nat} (less : fewer ≤ count) : numberedParts start fewer = (numberedParts start count).take fewer := by
  rw [numberedParts, numberedParts, ← List.map_take, List.take_range, Nat.min_eq_left less]

/-- Names with one digit are in order. -/
theorem numberedParts_sorted (nine : (numberedParts start 9).Pairwise fun first second => (compare first second).isLE)
    (few : count ≤ 9) : (numberedParts start count).Pairwise fun first second => (compare first second).isLE := by
  rw [numberedParts_take few]
  exact nine.sublist (List.take_sublist count _)

theorem partNames_eq (holds : HoldsParts archive start count) : archive.partNames start =
    some (sortBy compare ((archive.entries.map ArchiveEntry.name).filter fun name =>
      startsWith name start && endsWith name ".xml")) :=
  if_pos (List.all_eq_true.mpr holds.opens)

theorem partNames_of_few (holds : HoldsParts archive start count) (few : count ≤ 9)
    (nine : (numberedParts start 9).Pairwise fun first second => (compare first second).isLE) :
    archive.partNames start = some (numberedParts start count) := by
  rw [partNames_eq holds]
  refine congrArg some (List.Perm.eq_of_pairwise ?_ (sortBy_sorted compare _) (numberedParts_sorted nine few)
    ((sortBy_perm compare _).trans holds.parts))
  intro first second _ _ before after
  exact Std.LawfulEqCmp.eq_of_compare (Std.OrientedCmp.isLE_antisymm before after)

/-- The tenth part comes before the second. -/
theorem few_of_order (swapped : (compare (partName start 2) (partName start 10)).isLE = false)
    (order : archive.partNames start = some (numberedParts start count)) (holds : HoldsParts archive start count) : count ≤ 9 := by
  by_contra many
  rw [partNames_eq holds] at order
  have sorted := Option.some.inj order ▸ sortBy_sorted compare ((archive.entries.map ArchiveEntry.name).filter fun name =>
      startsWith name start && endsWith name ".xml")
  have pair := List.pairwise_iff_getElem.mp sorted 1 9 (by simp [numberedParts]; omega) (by simp [numberedParts]; omega) (by decide)
  simp only [numberedParts, List.getElem_map, List.getElem_range] at pair
  exact Bool.false_ne_true (swapped.symm.trans pair)

theorem extractPptxText_of_order (order : archive.partNames "ppt/slides/slide" = some (numberedParts "ppt/slides/slide" count)) :
    SlidesInOrder archive count where
  order := order
  text := by
    rw [extractPptxText, order, numberedParts, Option.bind_eq_bind, Option.bind_some, List.mapM_map]
    rfl

/-- Headings that count along are those of the numbers that the texts are read by. -/
theorem mapM_headed {read : Nat → Option (Option String)} (heading : Nat → String → String) (first count : Nat) :
    ((List.range' first count).mapM fun index => (read index).map fun text => text.map (heading index)) =
      ((List.range' first count).mapM read).map fun texts => (texts.zipIdx first).map fun text => text.1.map (heading text.2) := by
  induction count generalizing first with
  | zero => rfl
  | succ count ih =>
    rw [List.range'_succ, List.mapM_cons, List.mapM_cons, ih (first + 1)]
    cases read first with
    | none => rfl
    | some text => cases (List.range' (first + 1) count).mapM read <;> rfl

theorem extractXlsxText_of_order (order : archive.partNames "xl/worksheets/sheet" = some (numberedParts "xl/worksheets/sheet" count)) :
    SheetsInOrder archive count where
  order := order
  text := by
    generalize texts : ((archive.readZipEntry "xl/sharedStrings.xml").map extractSharedStrings).getD [] = sharedStrings
    have counted := @mapM_headed (fun index => (archive.readZipEntry (partName "xl/worksheets/sheet" (index + 1))).map
      (extractSheetText · sharedStrings)) (fun index => headedSheet (index + 1)) 0 count
    simp only [Option.map_map, Function.comp_def, ← List.range_eq_range'] at counted
    rw [extractXlsxText, order, numberedParts, Option.bind_eq_bind, Option.bind_some, sheetTexts, texts, List.mapM_map]
    dsimp only
    rw [counted, Function.comp_def]
    generalize ((List.range count).mapM fun index => (archive.readZipEntry (partName "xl/worksheets/sheet" (index + 1))).map
      (extractSheetText · sharedStrings)) = sheets
    cases sheets with
    | none => simp only [Option.bind_none, Option.map_none, Option.bind_eq_bind]
    | some sheets =>
      simp only [Option.bind_some, Option.map_some, Option.bind_eq_bind, List.filterMap_map, Function.comp_def]
      rfl

/-- Parts are read in the order of their numbers exactly where there are fewer than ten. -/
theorem document_order_iff (archive : Archive) (count : Nat) :
    (HoldsParts archive "ppt/slides/slide" count → (SlidesInOrder archive count ↔ count ≤ 9)) ∧
      (HoldsParts archive "xl/worksheets/sheet" count → (SheetsInOrder archive count ↔ count ≤ 9)) := by
  constructor
  · intro holds
    exact ⟨fun ordered => few_of_order (by decide +kernel) ordered.order holds,
      fun few => extractPptxText_of_order (partNames_of_few holds few (by decide +kernel))⟩
  · intro holds
    exact ⟨fun ordered => few_of_order (by decide +kernel) ordered.order holds,
      fun few => extractXlsxText_of_order (partNames_of_few holds few (by decide +kernel))⟩

def tenSlides : Archive where
  entries := (numberedParts "ppt/slides/slide" 10).map fun name => ⟨name, true, some ("<p:sp>" ++ name ++ "</p:sp>")⟩
  distinct := by decide +kernel

theorem holds_tenSlides : HoldsParts tenSlides "ppt/slides/slide" 10 where
  parts := .of_eq (by decide +kernel)
  opens := List.all_eq_true.mp (by decide +kernel)

theorem document_order_ten : SlidesInOrder tenSlides 10 ↔ 10 ≤ 9 := (document_order_iff tenSlides 10).1 holds_tenSlides

theorem document_order_fails : ¬ ∀ archive count, HoldsParts archive "ppt/slides/slide" count → SlidesInOrder archive count := by
  intro ordered
  have few := few_of_order (by decide +kernel) (ordered _ _ holds_tenSlides).order holds_tenSlides
  exact absurd few (by decide)

end Order

end DataMax.Ingest
