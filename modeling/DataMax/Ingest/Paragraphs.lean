import DataMax.Domain.Lines
import DataMax.Library.Gathering

/-! The paragraphs of an extracted text, and what of a text is visible. -/

namespace DataMax.Ingest

open Domain Library

/-- `replace('\0', "")` -/
def withoutNul (text : String) : String := .ofList (text.toList.filter (· ≠ '\x00'))

def flushTextParagraph (currentLines : List String) : List String :=
  let paragraph := trim (joinLines currentLines)
  if currentLines = [] ∨ paragraph = "" then [] else [paragraph]

/-- The lines since the last blank one are the paragraph that is read. -/
def paragraphReader : Gatherer String (List String) String where
  feed currentLines rawLine :=
    let line := trim rawLine
    if line = "" then (flushTextParagraph currentLines, []) else ([], currentLines ++ [line])
  flush := flushTextParagraph

def splitTextParagraphs (text : String) : List String := paragraphReader.gather [] (lines (withoutNul text))

section Visible

/-- The characters of a text that are no white space. -/
def visible (text : String) : List Char := text.toList.filter (!isWhitespace ·)

variable {text other : String} {texts : List String}

theorem visible_empty : visible "" = [] := by
  rw [visible, String.toList_empty, List.filter_nil]

@[simp] theorem visible_append (text other : String) : visible (text ++ other) = visible text ++ visible other := by
  simp [visible]

theorem visible_ofList (chars : List Char) : visible (.ofList chars) = chars.filter (!isWhitespace ·) := by
  rw [visible, String.toList_ofList]

theorem visible_eq_nil_iff : visible text = [] ↔ ∀ char ∈ text.toList, isWhitespace char = true := by
  simp [visible]

@[simp] theorem visible_trim (text : String) : visible (trim text) = visible text := by
  obtain ⟨before, after, shape, blankBefore, blankAfter⟩ := trim_split text
  have blank : ∀ chars : List Char, (∀ char ∈ chars, isWhitespace char = true) →
      chars.filter (!isWhitespace ·) = [] := by
    intro chars spaces
    simpa using spaces
  rw [visible, visible, shape, List.filter_append, List.filter_append, blank before blankBefore, blank after blankAfter,
    List.nil_append, List.append_nil]

theorem trim_eq_empty_iff : trim text = "" ↔ visible text = [] := by
  constructor
  · intro empty
    rw [← visible_trim, empty]
    rfl
  · intro blank
    rw [trim, List.dropWhile_eq_nil_iff.mpr (visible_eq_nil_iff.mp blank)]
    rfl

theorem length_trim_le (text : String) : (trim text).length ≤ text.length := by
  obtain ⟨before, after, shape, _⟩ := trim_split text
  have lengths := congrArg List.length shape
  simp only [List.length_append, String.length_toList] at lengths
  omega

theorem visible_join (texts : List String) : visible (.join texts) = texts.flatMap visible := by
  rw [visible, String.toList_join, List.filter_flatMap]
  rfl

theorem filter_intercalate {keep : Char → Bool} {separator : List Char} (dropped : separator.filter keep = [])
    (pieces : List (List Char)) : (separator.intercalate pieces).filter keep = pieces.flatMap (·.filter keep) := by
  induction pieces with
  | nil => rfl
  | cons piece rest ih =>
    cases rest with
    | nil => simp
    | cons next others => rw [List.intercalate_cons_cons, List.filter_append, List.filter_append, dropped, ih]; simp

theorem visible_intercalate {separator : String} (blank : visible separator = []) (texts : List String) :
    visible (separator.intercalate texts) = texts.flatMap visible := by
  rw [visible, String.toList_intercalate, filter_intercalate blank, List.flatMap_map]
  rfl

theorem visible_joinLines (texts : List String) : visible (joinLines texts) = texts.flatMap visible :=
  visible_intercalate (by decide) texts

theorem filter_dropCarriageReturn (line : List Char) :
    (dropCarriageReturn line).filter (!isWhitespace ·) = line.filter (!isWhitespace ·) := by
  have blank : (['\r'] : List Char).filter (!isWhitespace ·) = [] := by decide
  rw [dropCarriageReturn]
  split
  · rename_i last
    obtain ⟨before, shape⟩ := List.getLast?_eq_some_iff.mp last
    rw [shape, List.dropLast_concat, List.filter_append, blank, List.append_nil]
  · rfl

/-- Between its lines a text has line breaks only. -/
theorem flatMap_visible_lines (text : String) : (lines text).flatMap visible = visible text := by
  have blank : (['\n'] : List Char).filter (!isWhitespace ·) = [] := by decide
  let pieces := text.toList.splitOn '\n'
  have nonempty : pieces ≠ [] := List.splitOn_ne_nil _ _
  have pieceText : (fun line : List Char => visible (.ofList line)) = fun line => line.filter (!isWhitespace ·) :=
    funext visible_ofList
  have all : visible text = pieces.flatMap (·.filter (!isWhitespace ·)) := by
    rw [visible, ← filter_intercalate blank, List.intercalate_splitOn]
  have ends : pieces.dropLast ++ [pieces.getLast?.getD []] = pieces := by
    rw [List.getLast?_eq_some_getLast nonempty]
    exact List.dropLast_append_getLast nonempty
  have ended : (pieces.dropLast.map dropCarriageReturn).flatMap (·.filter (!isWhitespace ·)) =
      pieces.dropLast.flatMap (·.filter (!isWhitespace ·)) := by
    simp only [List.flatMap_map, filter_dropCarriageReturn]
  rw [lines, List.flatMap_map, pieceText, all, ← ends, List.flatMap_append, ← ended]
  change List.flatMap _ (if pieces.getLast?.getD [] = [] then _ else _) = _
  split
  · rename_i rest
    rw [rest]
    exact (List.append_nil _).symm
  · exact List.flatMap_append

theorem flatMap_visible_flush (currentLines : List String) :
    (flushTextParagraph currentLines).flatMap visible = currentLines.flatMap visible := by
  rw [← visible_joinLines currentLines, flushTextParagraph]
  split
  · rename_i none
    rcases none with rfl | blank
    · rfl
    · rw [trim_eq_empty_iff] at blank
      rw [blank]
      rfl
  · simp

theorem flatMap_visible_feed (currentLines : List String) (rawLine : String) :
    (paragraphReader.feed currentLines rawLine).1.flatMap visible ++
      (paragraphReader.feed currentLines rawLine).2.flatMap visible =
      currentLines.flatMap visible ++ visible rawLine := by
  rw [paragraphReader]
  dsimp only
  split
  · rename_i blank
    rw [trim_eq_empty_iff] at blank
    rw [flatMap_visible_flush, blank]
    rfl
  · rw [List.flatMap_append, List.flatMap_singleton, visible_trim]
    rfl

/-- The paragraphs have all that is visible in the text. -/
theorem flatMap_visible_paragraphs (text : String) :
    (splitTextParagraphs text).flatMap visible = visible (withoutNul text) := by
  rw [splitTextParagraphs, Gatherer.flatMap_gather visible (List.flatMap visible) visible flatMap_visible_feed
    flatMap_visible_flush, flatMap_visible_lines]
  rfl

theorem trim_paragraph : ∀ paragraph ∈ splitTextParagraphs text, trim paragraph = paragraph := by
  have flushed : ∀ currentLines, ∀ paragraph ∈ flushTextParagraph currentLines, trim paragraph = paragraph := by
    intro currentLines paragraph released
    rw [flushTextParagraph] at released
    split at released
    · simp at released
    · rw [List.mem_singleton.mp released, trim_trim]
  refine Gatherer.forall_gather (fun _ => True) (fun _ => True) ?_ (fun lines _ => flushed lines) trivial
    (fun _ _ => trivial)
  intro currentLines rawLine _ _
  rw [paragraphReader]
  dsimp only
  split
  · exact ⟨trivial, flushed currentLines⟩
  · simp

end Visible

end DataMax.Ingest
