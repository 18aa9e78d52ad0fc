import DataMax.Ingest.Paragraphs

/-! Where a paragraph opens a section of a document. -/

namespace DataMax.Ingest

open Domain

def normalizeDocumentStructureText (value : String) : String :=
  joinLines (((lines (withoutNul value)).map trim).filter (· ≠ ""))

/-- Some hint is the first line of the paragraph, its heading, or nearly all of it. -/
def paragraphMatchesSectionHint (paragraph : String) (sectionHints : List String) : Bool :=
  let paragraph := normalizeDocumentStructureText paragraph
  let firstLine := ((lines paragraph).head?.map trim).getD ""
  sectionHints.any fun hint =>
    let hint := normalizeDocumentStructureText hint
    hint ≠ "" && (firstLine = hint || paragraph = hint || startsWith paragraph ("# " ++ hint) ||
      startsWith paragraph ("## " ++ hint) || (paragraph.length ≤ hint.length + 8 && contains paragraph hint))

/-- `Page 3`, also as a heading -/
def looksLikeSyntheticPageMarker (value : String) : Bool :=
  let normalized := trim (trimStartMatches "#" (trim value))
  let rest := normalized.toList.drop "Page ".length
  startsWith normalized "Page " && rest ≠ [] && rest.all Char.isDigit

/-- A digit, and soon after it what ends a number. -/
def looksLikeNumberedHeading (value : String) : Bool := match value.toList with
  | [] => false
  | first :: chars =>
    let start := chars.take 5
    first.isDigit && (start.contains '.' || start.contains '、' || start.contains ')')

def looksLikeDocumentSectionTitle (paragraph : String) : Bool :=
  let normalized := normalizeDocumentStructureText paragraph
  let charCount := normalized.length
  !(looksLikeSyntheticPageMarker normalized) && charCount ≥ 2 && charCount ≤ 80 &&
    (startsWith normalized "#" || endsWith normalized ":" || endsWith normalized "：" ||
      looksLikeNumberedHeading normalized)

end DataMax.Ingest
