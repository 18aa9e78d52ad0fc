import DataMax.Ingest.Markup

/-! The shared strings of a workbook, and the cells that name them by their position. -/

namespace DataMax.Ingest

open Domain Library

/-- The text of one shared string. -/
def sharedText (segment : String) : Option String :=
  normalizeExtractedText (decodeXmlEntities (stripMarkupTags (replaceText "</t>" " " segment)))

def extractSharedStrings (xml : String) : List String := (splitXmlSegments xml "si").filterMap sharedText

def cellTypeShared (cellXml : String) : Bool := contains cellXml "t=\"s\"" || contains cellXml "t='s'"

def tagText (xml tag : String) : Option String :=
  (firstXmlTagText xml tag).bind fun text => normalizeExtractedText (decodeXmlEntities text)

/-- The position that a cell names. -/
def sharedIndex (cellXml : String) : Option Nat := (firstXmlTagText cellXml "v").bind fun text => parseUsize (trim text)

def extractCellText (cellXml : String) (sharedStrings : List String) : Option String :=
  if !(cellTypeShared cellXml) then (tagText cellXml "t").or (tagText cellXml "v")
  else (sharedIndex cellXml).bind (sharedStrings[·]?)

section Parts

/-- An `si` element of the part. -/
inductive SharedItem where
  | selfClosing (attributes : List Char)
  | paired (attributes content : List Char)

namespace SharedItem

def xml : SharedItem → List Char
  | selfClosing attributes => openPrefix "si" ++ attributes ++ ['/', '>']
  | paired attributes content => openingTag "si" attributes ++ content ++ closeTag "si"

/-- What the element itself has to read. -/
def text : SharedItem → String
  | selfClosing _ => ""
  | paired _ content => (sharedText (.ofList content)).getD ""

/-- A tag ends where it is closed, and the element at its own closing tag. -/
def WellFormed : SharedItem → Prop
  | selfClosing attributes => '>' ∉ attributes
  | paired attributes content => '>' ∉ attributes ∧ ¬ closeTag "si" <:+: content

end SharedItem

/-- A part with its elements, each with what is before it. -/
structure SharedPart where
  items : List (List Char × SharedItem)
  rest : List Char
  wellFormed : ∀ item ∈ items, item.2.WellFormed
  between : (∀ item ∈ items, ¬ openPrefix "si" <:+: item.1) ∧ ¬ openPrefix "si" <:+: rest

def SharedPart.xml (part : SharedPart) : String :=
  .ofList (part.items.flatMap (fun item => item.1 ++ item.2.xml) ++ part.rest)

def SharedPart.texts (part : SharedPart) : List String := part.items.map (·.2.text)

variable {part : SharedPart} {xml text : String}

/-- A text that is left is trimmed and not empty. -/
theorem trim_normalized (normalized : normalizeExtractedText xml = some text) : trim text = text ∧ text ≠ "" := by
  rw [normalizeExtractedText] at normalized
  split at normalized
  · simp at normalized
  · rename_i nonempty
    rw [← Option.some.inj normalized]
    exact ⟨trim_trim _, nonempty⟩

theorem normalized_sharedString (listed : text ∈ extractSharedStrings xml) :
    ∃ raw, normalizeExtractedText raw = some text := by
  obtain ⟨segment, -, shown⟩ := List.mem_filterMap.mp listed
  exact ⟨_, shown⟩

theorem trim_sharedString : ∀ text ∈ extractSharedStrings xml, trim text = text ∧ text ≠ "" := by
  intro text listed
  obtain ⟨raw, normalized⟩ := normalized_sharedString listed
  exact trim_normalized normalized

/-- Wherever the text of a cell comes from, it is normalized. -/
theorem normalized_cellText {cellXml sharedXml : String}
    (read : extractCellText cellXml (extractSharedStrings sharedXml) = some text) :
    ∃ raw, normalizeExtractedText raw = some text := by
  have ofTag : ∀ tag, tagText cellXml tag = some text → ∃ raw, normalizeExtractedText raw = some text := by
    intro tag found
    obtain ⟨raw, -, shown⟩ := Option.bind_eq_some_iff.mp found
    exact ⟨_, shown⟩
  rw [extractCellText] at read
  split at read
  · rcases Option.or_eq_some_iff.mp read with inline | ⟨-, value⟩
    · exact ofTag "t" inline
    · exact ofTag "v" value
  · obtain ⟨index, -, found⟩ := Option.bind_eq_some_iff.mp read
    exact normalized_sharedString (List.mem_of_getElem? found)

theorem trim_cellText {cellXml sharedXml : String}
    (read : extractCellText cellXml (extractSharedStrings sharedXml) = some text) : trim text = text ∧ text ≠ "" := by
  obtain ⟨raw, normalized⟩ := normalized_cellText read
  exact trim_normalized normalized

theorem plain_si : PlainTag "si" := by
  constructor <;> decide

/-- Where every element has a text, each of them is found. -/
theorem scan_shared {items : List (List Char × SharedItem)} {rest : List Char}
    (wellFormed : ∀ item ∈ items, item.2.WellFormed)
    (before : ∀ item ∈ items, ¬ openPrefix "si" <:+: item.1) (after : ¬ openPrefix "si" <:+: rest)
    (texts : ∀ item ∈ items, item.2.text ≠ "") :
    (scanAll (nextElement "si") (items.flatMap (fun item => item.1 ++ item.2.xml) ++ rest)).filterMap
      (fun element => sharedText (.ofList element.content)) = items.map (·.2.text) := by
  induction items with
  | nil =>
    rw [List.flatMap_nil, List.nil_append, scanAll_none (nextElement_none after)]
    rfl
  | cons item others ih =>
    obtain ⟨gap, shared⟩ := item
    rw [List.forall_mem_cons] at wellFormed before texts
    cases shared with
    | selfClosing attributes => exact absurd rfl texts.1
    | paired attributes content =>
      obtain ⟨shown, isSome⟩ : ∃ shown, sharedText (.ofList content) = some shown := by
        cases read : sharedText (.ofList content) with
        | none => exact absurd (by rw [SharedItem.text, read]; rfl) texts.1
        | some shown => exact ⟨shown, rfl⟩
      let later := others.flatMap (fun item => item.1 ++ item.2.xml) ++ rest
      have step := nextElement_found plain_si before.1 wellFormed.1.1
        (splitOnce_close plain_si wellFormed.1.2 later)
      have shape : ((gap, SharedItem.paired attributes content) :: others).flatMap (fun item => item.1 ++ item.2.xml) ++
          rest = gap ++ (openingTag "si" attributes ++ content ++ closeTag "si" ++ later) := by
        simp [SharedItem.xml, later]
      have own : (SharedItem.paired attributes content).text = shown := by rw [SharedItem.text, isSome]; rfl
      rw [shape, scanAll_some (nextElement_advances "si") step, List.filterMap_cons, isSome, List.map_cons, own]
      exact congrArg (shown :: ·) (ih wellFormed.2 before.2 texts.2)

/-- Every element has its place in the table, and cells that name a place get the text of their
element, exactly where every element has a text. -/
theorem shared_strings_placed_iff (part : SharedPart) :
    (extractSharedStrings part.xml = part.texts ∧ ∀ cellXml, cellTypeShared cellXml →
      extractCellText cellXml (extractSharedStrings part.xml) = (sharedIndex cellXml).bind (part.texts[·]?)) ↔
      ∀ item ∈ part.items, item.2.text ≠ "" := by
  constructor
  · rintro ⟨placed, -⟩ item listed empty
    have inside : item.2.text ∈ extractSharedStrings part.xml := by
      rw [placed]
      exact List.mem_map_of_mem listed
    exact (trim_sharedString _ inside).2 empty
  · intro texts
    have placed : extractSharedStrings part.xml = part.texts := by
      have found := scan_shared part.wellFormed part.between.1 part.between.2 texts
      rw [extractSharedStrings, splitXmlSegments, List.filterMap_map, Function.comp_def, SharedPart.xml,
        String.toList_ofList, SharedPart.texts, found]
    refine ⟨placed, fun cellXml shared => ?_⟩
    rw [extractCellText, if_neg (by simp [shared]), placed]

def emptyFirst : SharedPart where
  items := [("<sst>".toList, .paired [] "<t></t>".toList), ([], .paired [] "<t>B</t>".toList)]
  rest := "</sst>".toList
  wellFormed := by
    rw [List.forall_mem_cons, List.forall_mem_singleton]
    simp only [SharedItem.WellFormed]
    decide
  between := by
    rw [List.forall_mem_cons, List.forall_mem_singleton]
    decide

/-- An empty string leaves no place in the table. -/
theorem shared_strings_placed_empty : ¬ ∀ part : SharedPart, extractSharedStrings part.xml = part.texts ∧
    ∀ cellXml, cellTypeShared cellXml →
      extractCellText cellXml (extractSharedStrings part.xml) = (sharedIndex cellXml).bind (part.texts[·]?) := by
  intro always
  have lengths := congrArg List.length (always emptyFirst).1
  have different : (extractSharedStrings emptyFirst.xml).length ≠ emptyFirst.texts.length := by decide +kernel
  exact different lengths

end Parts

end DataMax.Ingest
