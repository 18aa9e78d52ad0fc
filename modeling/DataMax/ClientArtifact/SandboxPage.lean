import DataMax.Domain.Lines
import DataMax.Library.HtmlTokens

/-! The page that shows a published artifact in a frame without rights. -/

namespace DataMax.ClientArtifact

open Domain Library

def escapeHtmlText (value : String) : String :=
  replaceText ">" "&gt;" (replaceText "<" "&lt;" (replaceText "&" "&amp;" value))

def escapeHtmlAttr (value : String) : String :=
  replaceText "'" "&#39;" (replaceText "\"" "&quot;" (escapeHtmlText value))

def trimOrDefault (value fallback : String) : String :=
  let trimmed := trim value
  if trimmed = "" then fallback else trimmed

def pageBeforeTitle : String := "<!doctype html>
<html lang=\"zh-CN\">
<head>
  <meta charset=\"utf-8\">
  <meta name=\"viewport\" content=\"width=device-width, initial-scale=1\">
  <title>"

def pageBeforeHeading : String := "</title>
  <style>
    :root \x7b color-scheme: light; \x7d
    * \x7b box-sizing: border-box; \x7d
    body \x7b margin: 0; font-family: -apple-system, BlinkMacSystemFont, \"Segoe UI\", sans-serif; background: #f6f8fb; color: #182033; \x7d
    header \x7b display: flex; justify-content: space-between; gap: 16px; align-items: center; padding: 12px 16px; border-bottom: 1px solid #d8e0ec; background: #fff; \x7d
    header strong \x7b font-size: 14px; \x7d
    header span \x7b font-size: 12px; color: #667085; \x7d
    iframe \x7b width: 100%; height: calc(100vh - 50px); border: 0; background: #fff; \x7d
  </style>
</head>
<body>
  <header>
    <strong>"

def pageBeforeFilename : String := "</strong>
    <span>安全沙箱预览 · "

def pageBeforeContent : String := "</span>
  </header>
  <iframe sandbox=\"\" referrerpolicy=\"no-referrer\" srcdoc=\""

def pageEnd : String := "\"></iframe>
</body>
</html>"

def clientArtifactSandboxedHtmlDocument (title filename sanitizedHtml : String) : String :=
  let displayTitle := trimOrDefault title "DataMax Client Artifact Preview"
  let escapedTitle := escapeHtmlText displayTitle
  let escapedFilename := escapeHtmlText filename
  let escapedSrcdoc := escapeHtmlAttr sanitizedHtml
  pageBeforeTitle ++ escapedTitle ++ pageBeforeHeading ++ escapedTitle ++ pageBeforeFilename ++ escapedFilename ++
    pageBeforeContent ++ escapedSrcdoc ++ pageEnd

section Escaping

/-- The reference that a character of text is written as. -/
def textReference (ch : Char) : List Char :=
  if ch = '&' then ['&', 'a', 'm', 'p', ';']
  else if ch = '<' then ['&', 'l', 't', ';']
  else if ch = '>' then ['&', 'g', 't', ';']
  else [ch]

def attrReference (ch : Char) : List Char :=
  if ch = '"' then ['&', 'q', 'u', 'o', 't', ';']
  else if ch = '\'' then ['&', '#', '3', '9', ';']
  else textReference ch

/-- Decodes the five references, from the left. -/
def decodeReferences : List Char → List Char
  | '&' :: 'a' :: 'm' :: 'p' :: ';' :: rest => '&' :: decodeReferences rest
  | '&' :: 'l' :: 't' :: ';' :: rest => '<' :: decodeReferences rest
  | '&' :: 'g' :: 't' :: ';' :: rest => '>' :: decodeReferences rest
  | '&' :: 'q' :: 'u' :: 'o' :: 't' :: ';' :: rest => '"' :: decodeReferences rest
  | '&' :: '#' :: '3' :: '9' :: ';' :: rest => '\'' :: decodeReferences rest
  | ch :: rest => ch :: decodeReferences rest
  | [] => []

theorem escapeHtmlText_toList (value : String) : (escapeHtmlText value).toList = value.toList.flatMap textReference := by
  have chain (text : List Char) : replaceAll ['>'] ['&', 'g', 't', ';'] (replaceAll ['<'] ['&', 'l', 't', ';']
      (replaceAll ['&'] ['&', 'a', 'm', 'p', ';'] text)) = text.flatMap textReference := by
    rw [replaceAll_mark, replaceAll_mark, replaceAll_mark, List.flatMap_assoc, List.flatMap_assoc]
    refine List.flatMap_congr fun ch _ => ?_
    by_cases amp : ch = '&'
    · subst amp; rfl
    by_cases less : ch = '<'
    · subst less; rfl
    by_cases greater : ch = '>'
    · subst greater; rfl
    simp [textReference, amp, less, greater]
  rw [← chain]
  simp only [escapeHtmlText, replaceText, String.toList_ofList]
  rfl

theorem escapeHtmlAttr_toList (value : String) : (escapeHtmlAttr value).toList = value.toList.flatMap attrReference := by
  have chain (text : List Char) : replaceAll ['\''] ['&', '#', '3', '9', ';'] (replaceAll ['"'] ['&', 'q', 'u', 'o', 't', ';']
      (text.flatMap textReference)) = text.flatMap attrReference := by
    rw [replaceAll_mark, replaceAll_mark, List.flatMap_assoc, List.flatMap_assoc]
    refine List.flatMap_congr fun ch _ => ?_
    by_cases amp : ch = '&'
    · subst amp; rfl
    by_cases less : ch = '<'
    · subst less; rfl
    by_cases greater : ch = '>'
    · subst greater; rfl
    by_cases quote : ch = '"'
    · subst quote; rfl
    by_cases apostrophe : ch = '\''
    · subst apostrophe; rfl
    simp [textReference, attrReference, amp, less, greater, quote, apostrophe]
  rw [← chain, ← escapeHtmlText_toList]
  simp only [escapeHtmlAttr, replaceText, String.toList_ofList]
  rfl

theorem less_not_mem (value : String) : '<' ∉ (escapeHtmlText value).toList := by
  rw [escapeHtmlText_toList]
  intro inside
  obtain ⟨ch, -, written⟩ := List.mem_flatMap.mp inside
  rw [textReference] at written
  split_ifs at written with amp less greater
  · exact absurd written (by decide)
  · exact absurd written (by decide)
  · exact absurd written (by decide)
  · exact less (List.mem_singleton.mp written).symm

theorem quote_not_mem (value : String) : '"' ∉ (escapeHtmlAttr value).toList := by
  rw [escapeHtmlAttr_toList]
  intro inside
  obtain ⟨ch, -, written⟩ := List.mem_flatMap.mp inside
  rw [attrReference, textReference] at written
  split_ifs at written with quote apostrophe amp less greater
  · exact absurd written (by decide)
  · exact absurd written (by decide)
  · exact absurd written (by decide)
  · exact absurd written (by decide)
  · exact absurd written (by decide)
  · exact quote (List.mem_singleton.mp written).symm

theorem decodeReferences_attrReference (ch : Char) (rest : List Char) :
    decodeReferences (attrReference ch ++ rest) = ch :: decodeReferences rest := by
  rw [attrReference, textReference]
  split_ifs with quote apostrophe amp less greater
  · rw [quote]; rfl
  · rw [apostrophe]; rfl
  · rw [amp]; rfl
  · rw [less]; rfl
  · rw [greater]; rfl
  · rw [List.singleton_append, decodeReferences]
    all_goals
      intros
      exact absurd ‹_› amp

theorem decode_escapeHtmlAttr (value : String) : decodeReferences (escapeHtmlAttr value).toList = value.toList := by
  rw [escapeHtmlAttr_toList]
  induction value.toList with
  | nil => rfl
  | cons ch rest ih => rw [List.flatMap_cons, decodeReferences_attrReference, ih]

end Escaping

section Tags

/-- An end tag, or a start tag with its attributes. -/
def endTag (name : String) : HtmlTag := ⟨true, name.toList, []⟩

def startTag (name : String) (attributes : List (String × String)) : HtmlTag :=
  ⟨false, name.toList, attributes.reverse.map fun pair => (pair.1.toList, pair.2.toList)⟩

def headTags : List HtmlTag := [startTag "html" [("lang", "zh-CN")], startTag "head" [], startTag "meta" [("charset", "utf-8")],
  startTag "meta" [("name", "viewport"), ("content", "width=device-width, initial-scale=1")], startTag "title" []]

def headingTags : List HtmlTag := headTags ++ [endTag "title", startTag "style" [], endTag "style", endTag "head",
  startTag "body" [], startTag "header" [], startTag "strong" []]

def filenameTags : List HtmlTag := headingTags ++ [endTag "strong", startTag "span" []]

def contentTags : List HtmlTag := filenameTags ++ [endTag "span", endTag "header"]

/-- The frame has no rights, and its content is the value of one attribute. -/
def frameTag (srcdoc : List Char) : HtmlTag :=
  ⟨false, "iframe".toList, ("srcdoc".toList, srcdoc) ::
    [("referrerpolicy".toList, "no-referrer".toList), ("sandbox".toList, [])]⟩

/-- The reader between the fixed parts of the page. -/
theorem run_fixedParts :
    HtmlReader.start.run pageBeforeTitle.toList = ⟨.rawText "title".toList, startTag "title" [], headTags⟩ ∧
      (HtmlReader.mk (.rawText "title".toList) (startTag "title" []) headTags).run pageBeforeHeading.toList =
        ⟨.data, startTag "strong" [], headingTags⟩ ∧
      (HtmlReader.mk .data (startTag "strong" []) headingTags).run pageBeforeFilename.toList =
        ⟨.data, startTag "span" [], filenameTags⟩ ∧
      (HtmlReader.mk .data (startTag "span" []) filenameTags).run pageBeforeContent.toList =
        ⟨.doubleQuoted, frameTag [], contentTags⟩ := by
  refine ⟨?_, ?_, ?_, ?_⟩
  · rw [pageBeforeTitle, String.toList_ofList, String.toList_ofList]
    decide +kernel
  · rw [pageBeforeHeading, String.toList_ofList, String.toList_ofList]
    decide +kernel
  · rw [pageBeforeFilename, String.toList_ofList]
    decide
  · rw [pageBeforeContent, String.toList_ofList]
    decide +kernel

theorem run_end (srcdoc : List Char) (tags : List HtmlTag) : ((HtmlReader.mk .doubleQuoted (frameTag srcdoc) tags).run
    pageEnd.toList).tags = tags ++ [frameTag srcdoc, endTag "iframe", endTag "body", endTag "html"] := by
  have opened : (HtmlReader.mk .doubleQuoted (frameTag srcdoc) tags).run ['"', '>'] =
      ⟨.rawText "iframe".toList, frameTag srcdoc, tags ++ [frameTag srcdoc]⟩ := rfl
  have chars : pageEnd.toList = ['"', '>'] ++ "</iframe>\n</body>\n</html>".toList := rfl
  rw [chars, HtmlReader.run_append, opened, String.toList_ofList, String.toList_ofList]
  simp [HtmlReader.run, HtmlReader.step, HtmlReader.enter, HtmlReader.betweenAttributes, HtmlReader.isSpace,
    HtmlReader.stepRawText, HtmlReader.openTag, HtmlReader.emitTag, HtmlReader.extendTagName, endTag]

/-- The tags of the page. -/
theorem tagsOf_document (title filename sanitizedHtml : String) :
    HtmlReader.tagsOf (clientArtifactSandboxedHtmlDocument title filename sanitizedHtml).toList =
      contentTags ++ [frameTag (escapeHtmlAttr sanitizedHtml).toList, endTag "iframe", endTag "body", endTag "html"] := by
  have opened : (HtmlReader.mk .doubleQuoted (frameTag []) contentTags).run (escapeHtmlAttr sanitizedHtml).toList =
      ⟨.doubleQuoted, frameTag (escapeHtmlAttr sanitizedHtml).toList, contentTags⟩ := by
    rw [frameTag, HtmlReader.run_doubleQuoted (quote_not_mem _), List.nil_append, frameTag]
  obtain ⟨beforeTitle, beforeHeading, beforeFilename, beforeContent⟩ := run_fixedParts
  simp only [clientArtifactSandboxedHtmlDocument, String.toList_append, HtmlReader.tagsOf, HtmlReader.run_append,
    beforeTitle, HtmlReader.run_rawText (less_not_mem _), beforeHeading, HtmlReader.run_data (less_not_mem _),
    beforeFilename, beforeContent, opened, run_end]

/-- What is left of a tag without the values of its attributes. -/
def tagShape (tag : HtmlTag) : Bool × List Char × List (List Char) := (tag.closing, tag.name, tag.attributes.map (·.1))

def isFrame (tag : HtmlTag) : Bool := !tag.closing && tag.name == "iframe".toList

theorem tagShape_frameTag (first second : List Char) : tagShape (frameTag first) = tagShape (frameTag second) := rfl

theorem isFrame_frameTag (srcdoc : List Char) : isFrame (frameTag srcdoc) = true := by
  simp [isFrame, frameTag]

theorem isFrame_endTag (name : String) : isFrame (endTag name) = false := rfl

/-- Whatever the texts are, the page has the same tags with the same attributes, one frame among them, and the
content of the frame is the given text. -/
theorem sandbox_page_encloses (title filename sanitizedHtml : String) :
    (HtmlReader.tagsOf (clientArtifactSandboxedHtmlDocument title filename sanitizedHtml).toList).map tagShape =
        (HtmlReader.tagsOf (clientArtifactSandboxedHtmlDocument "" "" "").toList).map tagShape ∧
      ∃ srcdoc, (HtmlReader.tagsOf (clientArtifactSandboxedHtmlDocument title filename sanitizedHtml).toList).filter
          isFrame = [frameTag srcdoc] ∧ decodeReferences srcdoc = sanitizedHtml.toList := by
  have outside : contentTags.filter isFrame = [] := by decide
  rw [tagsOf_document, tagsOf_document]
  refine ⟨?_, (escapeHtmlAttr sanitizedHtml).toList, ?_, decode_escapeHtmlAttr sanitizedHtml⟩
  · simp only [List.map_append, List.map_cons, List.map_nil]
    rw [tagShape_frameTag]
  · rw [List.filter_append, outside, List.nil_append, List.filter_cons, isFrame_frameTag, if_pos rfl, List.filter_cons,
      List.filter_cons, List.filter_cons, isFrame_endTag, isFrame_endTag, isFrame_endTag]
    simp

end Tags

end DataMax.ClientArtifact
