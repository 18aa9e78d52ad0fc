import Mathlib.Data.List.Basic

/-! The tags and attributes of an HTML text, read one character after the other. -/

namespace DataMax.Library

/-- A start tag or an end tag. The attribute that was read last comes first. -/
structure HtmlTag where
  closing : Bool
  name : List Char
  attributes : List (List Char × List Char)
  deriving DecidableEq

inductive HtmlMode where
  | data
  | tagOpen
  | endTagOpen
  | declaration (text : List Char)
  | tagName
  | beforeAttributeName
  | attributeName
  | afterAttributeName
  | beforeAttributeValue
  | doubleQuoted
  | singleQuoted
  | unquoted
  | afterQuoted
  | selfClosing
  /-- The content of an element in which there are no tags but its own end tag. -/
  | rawText (element : List Char)
  | rawTextLess (element : List Char)
  | rawTextEnd (element name : List Char)
  deriving DecidableEq

structure HtmlReader where
  mode : HtmlMode
  tag : HtmlTag
  tags : List HtmlTag
  deriving DecidableEq

namespace HtmlReader

def start : HtmlReader := ⟨.data, ⟨false, [], []⟩, []⟩

def isSpace (char : Char) : Bool := char == ' ' || char == '\t' || char == '\n' || char == '\x0C' || char == '\r'

def rawElements : List (List Char) := ["title".toList, "textarea".toList, "style".toList, "xmp".toList, "iframe".toList,
  "noembed".toList, "noframes".toList, "script".toList]

variable (reader : HtmlReader) (char : Char)

def enter (mode : HtmlMode) : HtmlReader := { reader with mode := mode }

def openTag (closing : Bool) : HtmlReader :=
  { reader with mode := .tagName, tag := ⟨closing, [char.toLower], []⟩ }

def emitTag : HtmlReader where
  mode := if !reader.tag.closing && rawElements.contains reader.tag.name then .rawText reader.tag.name else .data
  tag := reader.tag
  tags := reader.tags ++ [reader.tag]

def extendTagName : HtmlReader := { reader with tag := { reader.tag with name := reader.tag.name ++ [char.toLower] } }

def startAttribute : HtmlReader :=
  { reader with
    mode := .attributeName
    tag := { reader.tag with attributes := ([char.toLower], []) :: reader.tag.attributes } }

def extendAttributeName : HtmlReader := match reader.tag.attributes with
  | [] => reader
  | (name, value) :: others =>
    { reader with tag := { reader.tag with attributes := (name ++ [char.toLower], value) :: others } }

def extendValue : HtmlReader := match reader.tag.attributes with
  | [] => reader
  | (name, value) :: others =>
    { reader with tag := { reader.tag with attributes := (name, value ++ [char]) :: others } }

/-- What stands between attributes: space, a slash, the end of the tag, or the next attribute. -/
def betweenAttributes : HtmlReader :=
  if isSpace char then reader.enter .beforeAttributeName
  else if char = '/' then reader.enter .selfClosing
  else if char = '>' then reader.emitTag
  else reader.startAttribute char

def stepRawText (element : List Char) : HtmlReader :=
  if char = '<' then reader.enter (.rawTextLess element) else reader.enter (.rawText element)

/-- A comment ends with two hyphens. -/
def declarationEnds (text : List Char) : Bool :=
  (['-', '-'].isPrefixOf text).not || (4 ≤ text.length && ['-', '-'].isSuffixOf text)

def step : HtmlReader := match reader.mode with
  | .data => if char = '<' then reader.enter .tagOpen else reader
  | .tagOpen =>
    if char = '!' ∨ char = '?' then reader.enter (.declaration [])
    else if char = '/' then reader.enter .endTagOpen
    else if char.isAlpha then reader.openTag char false
    else if char = '<' then reader else reader.enter .data
  | .endTagOpen =>
    if char.isAlpha then reader.openTag char true
    else if char = '>' then reader.enter .data else reader.enter (.declaration [char])
  | .declaration text =>
    if char = '>' ∧ declarationEnds text then reader.enter .data else reader.enter (.declaration (text ++ [char]))
  | .tagName =>
    if isSpace char then reader.enter .beforeAttributeName
    else if char = '/' then reader.enter .selfClosing
    else if char = '>' then reader.emitTag
    else reader.extendTagName char
  | .beforeAttributeName => reader.betweenAttributes char
  | .attributeName =>
    if isSpace char then reader.enter .afterAttributeName
    else if char = '/' then reader.enter .selfClosing
    else if char = '>' then reader.emitTag
    else if char = '=' then reader.enter .beforeAttributeValue
    else reader.extendAttributeName char
  | .afterAttributeName =>
    if isSpace char then reader
    else if char = '=' then reader.enter .beforeAttributeValue
    else reader.betweenAttributes char
  | .beforeAttributeValue =>
    if isSpace char then reader
    else if char = '"' then reader.enter .doubleQuoted
    else if char = '\'' then reader.enter .singleQuoted
    else if char = '>' then reader.emitTag
    else (reader.enter .unquoted).extendValue char
  | .doubleQuoted => if char = '"' then reader.enter .afterQuoted else reader.extendValue char
  | .singleQuoted => if char = '\'' then reader.enter .afterQuoted else reader.extendValue char
  | .unquoted =>
    if isSpace char then reader.enter .beforeAttributeName
    else if char = '>' then reader.emitTag
    else reader.extendValue char
  | .afterQuoted => reader.betweenAttributes char
  | .selfClosing => if char = '>' then reader.emitTag else reader.betweenAttributes char
  | .rawText element => reader.stepRawText char element
  | .rawTextLess element => if char = '/' then reader.enter (.rawTextEnd element []) else reader.stepRawText char element
  | .rawTextEnd element name =>
    if char.isAlpha then reader.enter (.rawTextEnd element (name ++ [char.toLower]))
    else if name = element ∧ (isSpace char ∨ char = '/' ∨ char = '>') then
      { reader with tag := ⟨true, name, []⟩ }.betweenAttributes char
    else reader.stepRawText char element

def run (text : List Char) : HtmlReader := text.foldl step reader

/-- The tags of a text. -/
def tagsOf (text : List Char) : List HtmlTag := (start.run text).tags

variable {reader}

theorem run_append (first second : List Char) : reader.run (first ++ second) = (reader.run first).run second := by
  rw [run, List.foldl_append, run, run]

theorem run_cons (rest : List Char) : reader.run (char :: rest) = (reader.step char).run rest := rfl

/-- Text without tags is read over. -/
theorem run_text (between : reader.mode = .data ∨ ∃ element, reader.mode = .rawText element) {text : List Char}
    (plain : '<' ∉ text) : reader.run text = reader := by
  induction text with
  | nil => rfl
  | cons char rest ih =>
    obtain ⟨other, later⟩ := not_or.mp (List.mem_cons.not.mp plain)
    have still : reader.step char = reader := by
      obtain ⟨mode, tag, tags⟩ := reader
      rcases between with rfl | ⟨element, rfl⟩
      · simp [step, Ne.symm other]
      · simp [step, stepRawText, enter, Ne.symm other]
    rw [run_cons, still, ih later]

theorem run_data {tag : HtmlTag} {tags : List HtmlTag} {text : List Char} (plain : '<' ∉ text) :
    (HtmlReader.mk .data tag tags).run text = ⟨.data, tag, tags⟩ := run_text (.inl rfl) plain

theorem run_rawText {element : List Char} {tag : HtmlTag} {tags : List HtmlTag} {text : List Char} (plain : '<' ∉ text) :
    (HtmlReader.mk (.rawText element) tag tags).run text = ⟨.rawText element, tag, tags⟩ :=
  run_text (.inr ⟨element, rfl⟩) plain

/-- A value goes on up to its quotation mark. -/
theorem run_doubleQuoted {name value : List Char} {others : List (List Char × List Char)} {closing : Bool}
    {element text : List Char} {tags : List HtmlTag} (closed : '"' ∉ text) :
    (HtmlReader.mk .doubleQuoted ⟨closing, element, (name, value) :: others⟩ tags).run text =
      ⟨.doubleQuoted, ⟨closing, element, (name, value ++ text) :: others⟩, tags⟩ := by
  induction text generalizing value with
  | nil => rw [List.append_nil]; rfl
  | cons char rest ih =>
    obtain ⟨other, later⟩ := not_or.mp (List.mem_cons.not.mp closed)
    rw [run_cons, step]
    simp only [if_neg (Ne.symm other), extendValue]
    rw [ih later, List.append_assoc, List.singleton_append]

end HtmlReader

end DataMax.Library
