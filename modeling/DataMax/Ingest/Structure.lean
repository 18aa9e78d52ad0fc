import DataMax.Ingest.Chunks
import DataMax.Json.Access
import DataMax.SemanticLink.Privacy

/-! The chunks of an extracted document: those of its text, or of the blocks that a layout
service found in it. -/

namespace DataMax.Ingest

open Domain Json Library
open SemanticLink (isControl)

/-- A text that was read from a document, and what the reader noted about it. -/
structure ExtractedDocumentText where
  text : String
  metadata : Value

def documentStructureBlocks (metadata : Value) : List Value :=
  (metadata.get "document_structure" >>= (·.get "blocks") >>= Value.asArray).getD []

def documentStructureBlockText (block : Value) : Option String :=
  ["text", "content", "rec_text", "markdown", "html"].findSome? fun key =>
    (block.get key >>= Value.asStr).bind fun value =>
      let normalized := normalizeDocumentStructureText value
      if normalized = "" then none else some (takeText 1200 normalized)

def documentStructureBlockType (block : Value) : String :=
  (["block_type", "type", "label", "category"].findSome? fun key =>
    (block.get key >>= Value.asStr).bind fun value =>
      let normalized := asciiLower (trim value)
      if normalized = "" then none else some normalized).getD ""

def documentStructureBlockIsTitle (block : Value) : Bool :=
  ["doc_title", "paragraph_title", "title", "header", "heading", "section_title"].any
    (contains (documentStructureBlockType block))

def pushUniqueDocumentStructureHint (limit : Nat) (output : List String) (hint : String) : List String :=
  let normalized := takeText 80 (trim hint)
  if output.length ≥ limit ∨ normalized = "" ∨ normalized ∈ output then output else output ++ [normalized]

def documentStructureSectionTitleHints (metadata : Value) (limit : Nat) : List String :=
  let titles := (documentStructureBlocks metadata).filter documentStructureBlockIsTitle
  (titles.filterMap documentStructureBlockText).foldl (pushUniqueDocumentStructureHint limit) []

/-- A title is written as a heading. -/
def structureUnit (block : Value) (text : String) : String :=
  if documentStructureBlockIsTitle block then "# " ++ text else text

def packBlock (maxChars : Nat) (current : String) (block : Value) : List String × String :=
  match documentStructureBlockText block with
  | none => ([], current)
  | some text =>
    let broken := closeChunk (documentStructureBlockIsTitle block ∧ trim current ≠ "") current
    let packed := packUnit maxChars (trim · ≠ "") broken.2 (structureUnit block text)
    (broken.1 ++ packed.1, packed.2)

def blockPacker (maxChars : Nat) : Gatherer Value String String where
  feed := packBlock maxChars
  flush := flushChunk

@[simp] theorem feed_blockPacker (maxChars : Nat) : (blockPacker maxChars).feed = packBlock maxChars := by
  rw [blockPacker]

@[simp] theorem flush_blockPacker (maxChars : Nat) : (blockPacker maxChars).flush = flushChunk := by
  rw [blockPacker]

def splitDocumentStructureBlockChunks (metadata : Value) (maxChars : Nat) : List String :=
  (blockPacker (max maxChars 1)).gather "" (documentStructureBlocks metadata)

/-- The setting `DOCUMENT_PDF_MIN_USABLE_TEXT_CHARS`, at least one. -/
def pdfMinUsableTextChars (setting : Option String) : Nat := max ((setting >>= parseUsize).getD 32) 1

variable (isAlphanumeric : Char → Bool)

def pdfQualityTextChars (text : String) : Nat :=
  text.toList.countP fun ch => !(isWhitespace ch) && !(isControl ch) && isAlphanumeric ch

variable (setting : Option String)

/-- The blocks may stand for the text when they have a third of it, and not too little. -/
def structureChunksAreUsable (chunks : List String) (originalText : String) : Bool :=
  let structuredChars := (chunks.map (pdfQualityTextChars isAlphanumeric)).sum
  let originalChars := pdfQualityTextChars isAlphanumeric originalText
  let coverageOk : Bool := structuredChars * 3 ≥ min originalChars 12000
  if chunks = [] then false
  else if originalChars = 0 then structuredChars ≥ pdfMinUsableTextChars setting
  else if chunks.length > 1 then structuredChars ≥ 8 && coverageOk
  else structuredChars ≥ pdfMinUsableTextChars setting && coverageOk

def splitExtractedDocumentChunks (extracted : ExtractedDocumentText) (maxChars : Nat) : List String :=
  let maxChars := max maxChars 1
  let sectionHints := documentStructureSectionTitleHints extracted.metadata 128
  let structureChunks := splitDocumentStructureBlockChunks extracted.metadata maxChars
  if sectionHints = [] then splitTextChunks extracted.text maxChars
  else if (splitTextParagraphs extracted.text).length ≤ 1 ∧
      structureChunksAreUsable isAlphanumeric setting structureChunks extracted.text then structureChunks
  else splitTextChunksWithSectionHints extracted.text maxChars sectionHints

section Preservation

variable {extracted : ExtractedDocumentText} {current : String} {block : Value} {maxChars : Nat}

/-- What the blocks say, titles as headings. -/
def structureUnits (metadata : Value) : List String :=
  (documentStructureBlocks metadata).filterMap fun block => (documentStructureBlockText block).map (structureUnit block)

/-- The blocks are taken for the text when some are titles, the text is one paragraph at most,
and their chunks are usable. -/
def takesStructure (extracted : ExtractedDocumentText) (maxChars : Nat) : Prop :=
  documentStructureSectionTitleHints extracted.metadata 128 ≠ [] ∧ (splitTextParagraphs extracted.text).length ≤ 1 ∧
    structureChunksAreUsable isAlphanumeric setting
      (splitDocumentStructureBlockChunks extracted.metadata (max maxChars 1)) extracted.text

instance : Decidable (takesStructure isAlphanumeric setting extracted maxChars) :=
  inferInstanceAs (Decidable (_ ∧ _ ∧ _))

def blockContent (block : Value) : List Char :=
  ((documentStructureBlockText block).map (structureUnit block)).toList.flatMap visible

theorem flatMap_blockContent (metadata : Value) :
    (documentStructureBlocks metadata).flatMap blockContent = (structureUnits metadata).flatMap visible := by
  rw [structureUnits, List.filterMap_eq_flatMap_toList, List.flatMap_assoc]
  rfl

theorem flatMap_visible_packBlock (current : String) (block : Value) :
    (packBlock maxChars current block).1.flatMap visible ++ visible (packBlock maxChars current block).2 =
      visible current ++ blockContent block := by
  rw [packBlock, blockContent]
  cases documentStructureBlockText block with
  | none => exact (List.append_nil _).symm
  | some text =>
    dsimp only
    have packed := @flatMap_visible_packUnit maxChars (trim · ≠ "") (by simp [trim_eq_empty_iff])
      (closeChunk (documentStructureBlockIsTitle block ∧ trim current ≠ "") current).2 (structureUnit block text)
    rw [List.flatMap_append, List.append_assoc, packed, ← List.append_assoc, flatMap_visible_close]
    simp

theorem flatMap_visible_structure (metadata : Value) (maxChars : Nat) :
    (splitDocumentStructureBlockChunks metadata maxChars).flatMap visible =
      (structureUnits metadata).flatMap visible := by
  have step (current : String) (block : Value) :
      ((blockPacker (max maxChars 1)).feed current block).1.flatMap visible ++
        visible ((blockPacker (max maxChars 1)).feed current block).2 = visible current ++ blockContent block := by
    rw [feed_blockPacker, flatMap_visible_packBlock]
  have last (current : String) :
      ((blockPacker (max maxChars 1)).flush current).flatMap visible = visible current := by
    rw [flush_blockPacker, flatMap_visible_flushChunk]
  rw [splitDocumentStructureBlockChunks, Gatherer.flatMap_gather visible visible blockContent step last,
    visible_empty, List.nil_append, flatMap_blockContent]

theorem quality_of_usable {chunks : List String} {text : String}
    (usable : structureChunksAreUsable isAlphanumeric setting chunks text) :
    min (pdfQualityTextChars isAlphanumeric text) 12000 ≤ 3 * (chunks.map (pdfQualityTextChars isAlphanumeric)).sum := by
  rw [structureChunksAreUsable] at usable
  split at usable
  · simp at usable
  · split at usable
    · omega
    · split at usable <;>
      · simp only [Bool.and_eq_true, decide_eq_true_eq] at usable
        omega

theorem splitExtracted_structured (structured : takesStructure isAlphanumeric setting extracted maxChars) :
    splitExtractedDocumentChunks isAlphanumeric setting extracted maxChars =
      splitDocumentStructureBlockChunks extracted.metadata (max maxChars 1) := by
  rw [splitExtractedDocumentChunks]
  rw [if_neg structured.1, if_pos structured.2]

theorem splitExtracted_packed (unstructured : ¬ takesStructure isAlphanumeric setting extracted maxChars) :
    ∃ breaks maxChars', splitExtractedDocumentChunks isAlphanumeric setting extracted maxChars =
      (paragraphPacker breaks maxChars').gather "" (splitTextParagraphs extracted.text) := by
  rw [splitExtractedDocumentChunks]
  split
  · rw [splitTextChunks]
    exact ⟨_, _, rfl⟩
  · rename_i hinted
    rw [if_neg fun usable => unstructured ⟨hinted, usable⟩, splitTextChunksWithSectionHints]
    exact ⟨_, _, rfl⟩

/-- The chunks keep the text, unless those of the blocks are taken: they keep what the blocks say,
and are as good as a third of the text. -/
theorem extracted_chunks_keep (extracted : ExtractedDocumentText) (maxChars : Nat) :
    let chunks := splitExtractedDocumentChunks isAlphanumeric setting extracted maxChars
    let structured := takesStructure isAlphanumeric setting extracted maxChars
    (visible (.join chunks) = if structured then (structureUnits extracted.metadata).flatMap visible
      else visible (withoutNul extracted.text)) ∧
      (structured → min (pdfQualityTextChars isAlphanumeric extracted.text) 12000 ≤
        3 * (chunks.map (pdfQualityTextChars isAlphanumeric)).sum) := by
  dsimp only
  rw [visible_join]
  rcases Decidable.em (takesStructure isAlphanumeric setting extracted maxChars) with structured | structured
  · rw [if_pos structured, splitExtracted_structured _ _ structured, flatMap_visible_structure]
    exact ⟨rfl, fun _ => quality_of_usable isAlphanumeric setting structured.2.2⟩
  · obtain ⟨breaks, limit, packed⟩ := splitExtracted_packed _ _ structured
    rw [if_neg structured, packed, flatMap_visible_packed]
    exact ⟨rfl, fun taken => absurd taken structured⟩

def titleBlock (text : String) : Value := .object [("text", .string text), ("type", .string "title")]

def titledText : ExtractedDocumentText where
  text := "plan cost low"
  metadata := .object [("document_structure", .object [("blocks", .array [titleBlock "plan", titleBlock "cost"])])]

/-- Two titles of a text stand for all of it. -/
theorem extracted_chunks_lose : ¬ ∀ (isAlphanumeric : Char → Bool) (setting : Option String)
    (extracted : ExtractedDocumentText) (maxChars : Nat),
    (visible (withoutNul extracted.text)).Sublist
      (visible (.join (splitExtractedDocumentChunks isAlphanumeric setting extracted maxChars))) := by
  intro always
  have lost : ¬ (visible (withoutNul titledText.text)).Sublist
      (visible (.join (splitExtractedDocumentChunks Char.isAlphanum none titledText 1800))) := by
    decide +kernel
  exact lost (always Char.isAlphanum none titledText 1800)

end Preservation

end DataMax.Ingest
