import DataMax.Ingest.Entities
import DataMax.Ingest.Paragraphs
import DataMax.Library.Scanning
import DataMax.Library.Separated

/-! The texts of marked-up parts: elements found by their tags, markup taken away, and the white
space of what is left put in order. -/

namespace DataMax.Ingest

open Domain Library

def stripFrom (insideTag : Bool) : List Char → List Char
  | [] => []
  | ch :: rest =>
    if ch = '<' then stripFrom true rest
    else if ch = '>' then ' ' :: stripFrom false rest
    else if insideTag then stripFrom insideTag rest
    else ch :: stripFrom insideTag rest

def stripMarkupTags (text : String) : String := .ofList (stripFrom false text.toList)

def collapseLineSpacesPreservingTabs (line : String) : String :=
  trim ("\t".intercalate ((splitAt '\t' line).map fun part => " ".intercalate (words part)))

def normalizeExtractedText (text : String) : Option String :=
  let lines := ((lines (withoutNul text)).map collapseLineSpacesPreservingTabs).filter (· ≠ "")
  let normalized := trim (joinLines lines)
  if normalized = "" then none else some normalized

/-- An element from its opening tag to its closing one. -/
structure XmlElement where
  opening : List Char
  content : List Char
  closing : List Char

def XmlElement.xml (element : XmlElement) : String := .ofList (element.opening ++ element.content ++ element.closing)

def openPrefix (tag : String) : List Char := '<' :: tag.toList

def closeTag (tag : String) : List Char := '<' :: '/' :: (tag.toList ++ ['>'])

/-- The element of the first opening tag: up to the next closing tag, whatever is between them. -/
def nextElement (tag : String) (xml : List Char) : Option (XmlElement × List Char) := do
  let (_, opened) ← splitOnce (openPrefix tag) xml
  let (opening, inside) ← splitOnce ['>'] (openPrefix tag ++ opened)
  let (content, rest) ← splitOnce (closeTag tag) inside
  some (⟨opening ++ ['>'], content, closeTag tag⟩, rest)

def splitXmlSegments (xml tag : String) : List String :=
  (scanAll (nextElement tag) xml.toList).map fun element => .ofList element.content

def splitXmlElements (xml tag : String) : List String := (scanAll (nextElement tag) xml.toList).map XmlElement.xml

def firstXmlTagText (xml tag : String) : Option String := (splitXmlSegments xml tag).head?

/-- The value after the name, up to the quotation mark that opened it; double marks are looked for first. -/
def xmlAttributeValue (xml name : String) : Option String :=
  let valueIn (quote : Char) (rest : List Char) : Option String :=
    (splitOnce [quote] rest).map fun found => .ofList found.1
  match splitOnce (name.toList ++ ['=', '"']) xml.toList with
  | some (_, rest) => valueIn '"' rest
  | none => (splitOnce (name.toList ++ ['=', '\'']) xml.toList).bind fun found => valueIn '\'' found.2

section Visible

theorem flatMap_visible_words (text : String) : (words text).flatMap visible = visible text := by
  have pieceText : ∀ piece ∈ (text.toList.splitOnP isWhitespace).filter (!·.isEmpty), visible (.ofList piece) = piece := by
    intro piece listed
    rw [visible, String.toList_ofList, List.filter_eq_self]
    intro char inside
    rw [(of_mem_splitOnP (List.mem_filter.mp listed).1 inside).2]
    rfl
  rw [words, List.flatMap_map, List.flatMap_congr pieceText, List.flatMap_id', List.flatten_filter_not_isEmpty,
    flatten_splitOnP]
  rfl

theorem flatMap_visible_splitAt {mark : Char} (blank : isWhitespace mark = true) (text : String) :
    (splitAt mark text).flatMap visible = visible text := by
  have gap : [mark].filter (!isWhitespace ·) = [] := by simp [blank]
  have joined := filter_intercalate gap (text.toList.splitOn mark)
  rw [List.intercalate_splitOn] at joined
  rw [splitAt, List.flatMap_map, visible, joined]
  simp only [visible_ofList]

theorem visible_collapse (line : String) : visible (collapseLineSpacesPreservingTabs line) = visible line := by
  have part : ∀ part, visible (" ".intercalate (words part)) = visible part := fun part =>
    (visible_intercalate (by decide) _).trans (flatMap_visible_words part)
  rw [collapseLineSpacesPreservingTabs, visible_trim, visible_intercalate (by decide), List.flatMap_map]
  simp only [part]
  exact flatMap_visible_splitAt (by decide) line

/-- Putting the white space in order keeps everything else. -/
theorem visible_normalizeExtractedText (text : String) :
    visible ((normalizeExtractedText text).getD "") = visible (withoutNul text) := by
  have kept : ∀ lines : List String, (lines.filter (· ≠ "")).flatMap visible = lines.flatMap visible := by
    intro lines
    induction lines with
    | nil => rfl
    | cons line rest ih =>
      by_cases empty : line = ""
      · simpa [empty, visible] using ih
      · simpa [empty] using ih
  have joined : visible (trim (joinLines (((lines (withoutNul text)).map collapseLineSpacesPreservingTabs).filter
      (· ≠ "")))) = visible (withoutNul text) := by
    rw [visible_trim, visible_joinLines, kept, List.flatMap_map]
    simp only [visible_collapse]
    exact flatMap_visible_lines _
  rw [← joined, normalizeExtractedText]
  split
  · rename_i empty
    rw [empty]
    rfl
  · rfl

end Visible

section Elements

variable {tag : String} {element : XmlElement} {before attributes content rest xml : List Char}

/-- A tag without the marks of markup. -/
def PlainTag (tag : String) : Prop := '<' ∉ tag.toList ∧ '>' ∉ tag.toList

theorem nextElement_parts (step : nextElement tag xml = some (element, rest)) : element.closing = closeTag tag ∧
    ∃ before, xml = before ++ (element.opening ++ element.content ++ element.closing) ++ rest := by
  rw [nextElement] at step
  simp only [Option.bind_eq_bind, Option.bind_eq_some_iff, Prod.exists] at step
  obtain ⟨before, opened, first, opening, inside, second, content, after, third, same⟩ := step
  obtain ⟨rfl, rfl⟩ := Prod.mk.inj (Option.some.inj same)
  refine ⟨rfl, before, ?_⟩
  rw [append_of_splitOnce first, List.append_assoc, append_of_splitOnce second, append_of_splitOnce third]
  simp

theorem nextElement_advances (tag : String) : Advances (nextElement tag) := by
  intro xml element rest step
  obtain ⟨closing, before, shape⟩ := nextElement_parts step
  have lengths := congrArg List.length shape
  simp only [closing, closeTag, List.length_append, List.length_cons] at lengths
  omega

theorem nextElement_within (step : nextElement tag xml = some (element, rest)) :
    element.opening ++ element.content ++ element.closing <:+: xml ∧ rest <:+: xml := by
  obtain ⟨-, before, shape⟩ := nextElement_parts step
  exact ⟨⟨before, rest, shape.symm⟩, ⟨_, [], by rw [List.append_nil, ← shape]⟩⟩

theorem nextElement_unclosed (absent : splitOnce (closeTag tag) xml = none) : nextElement tag xml = none := by
  cases step : nextElement tag xml with
  | none => rfl
  | some pair =>
    have closing := (nextElement_parts step).1
    have inside := (nextElement_within step).1
    rw [closing] at inside
    exact absurd absent (splitOnce_ne_none (List.IsInfix.trans ⟨_, [], List.append_nil _⟩ inside))

theorem nextElement_none (absent : ¬ openPrefix tag <:+: xml) : nextElement tag xml = none := by
  rw [nextElement, splitOnce_eq_none absent]
  rfl

/-- An opening tag with what follows its name. -/
def openingTag (tag : String) (attributes : List Char) : List Char := openPrefix tag ++ attributes ++ ['>']

theorem splitOnce_close (plain : PlainTag tag) (own : ¬ closeTag tag <:+: content) (rest : List Char) :
    splitOnce (closeTag tag) (content ++ (closeTag tag ++ rest)) = some (content, rest) := by
  have once : '<' ∉ '/' :: (tag.toList ++ ['>']) := by simp [plain.1]
  exact splitOnce_first once own rest

/-- The first opening tag reaches to the next closing tag. -/
theorem nextElement_found (plain : PlainTag tag) (absent : ¬ openPrefix tag <:+: before) (closed : '>' ∉ attributes)
    (own : splitOnce (closeTag tag) (content ++ (closeTag tag ++ rest)) = some (content, rest)) :
    nextElement tag (before ++ (openingTag tag attributes ++ content ++ closeTag tag ++ rest)) =
      some (⟨openingTag tag attributes, content, closeTag tag⟩, rest) := by
  have shape : before ++ (openingTag tag attributes ++ content ++ closeTag tag ++ rest) = before ++ (openPrefix tag ++
      (attributes ++ ['>'] ++ content ++ closeTag tag ++ rest)) := by
    simp [openingTag]
  have first := splitOnce_first plain.1 absent (attributes ++ ['>'] ++ content ++ closeTag tag ++ rest)
  have second : Passes ['>'] (openPrefix tag ++ attributes) := by
    refine passes_of_head ?_
    simp [openPrefix, plain.2, closed]
  have inside : openPrefix tag ++ (attributes ++ ['>'] ++ content ++ closeTag tag ++ rest) =
      openPrefix tag ++ attributes ++ (['>'] ++ (content ++ (closeTag tag ++ rest))) := by
    simp
  rw [← openPrefix] at first
  rw [nextElement, shape, first]
  change (splitOnce ['>'] (openPrefix tag ++ _)).bind _ = _
  rw [inside, second.splitOnce_found]
  change (splitOnce (closeTag tag) (content ++ (closeTag tag ++ rest))).bind _ = _
  rw [own]
  rfl

theorem nextElement_passes (passes : Passes (openPrefix tag) before) (xml : List Char) :
    nextElement tag (before ++ xml) = nextElement tag xml := by
  rw [nextElement, nextElement, passes]
  cases splitOnce (openPrefix tag) xml <;> rfl

theorem firstXmlTagText_eq (xml tag : String) :
    firstXmlTagText xml tag = (nextElement tag xml.toList).map fun found => .ofList found.1.content := by
  rw [firstXmlTagText, splitXmlSegments]
  cases first : nextElement tag xml.toList with
  | none => rw [scanAll_none first]; rfl
  | some found => rw [scanAll_some (nextElement_advances tag) first]; rfl

/-- Double quotation marks go first: single ones are read where no double ones are after the name. -/
theorem xmlAttributeValue_found {name xml : String} {value : List Char} {quote : Char}
    (found : splitOnce (name.toList ++ ['=', quote]) xml.toList = some (before, value ++ quote :: rest))
    (own : quote ∉ value)
    (quoted : quote = '"' ∨ quote = '\'' ∧ ¬ name.toList ++ ['=', '"'] <:+: xml.toList) :
    xmlAttributeValue xml name = some (.ofList value) := by
  have valueEnd : Passes [quote] value := passes_of_head own
  have stop : splitOnce [quote] (value ++ quote :: rest) = some (value, rest) := valueEnd.splitOnce_found
  rw [xmlAttributeValue]
  rcases quoted with rfl | ⟨rfl, absent⟩
  · rw [found]
    dsimp only
    rw [stop]
    rfl
  · rw [splitOnce_eq_none absent, found, Option.bind_some]
    dsimp only
    rw [stop]
    rfl

end Elements

end DataMax.Ingest
