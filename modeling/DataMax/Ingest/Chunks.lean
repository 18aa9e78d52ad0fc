import DataMax.Ingest.LongText
import DataMax.Ingest.Sections

/-! The chunks of a text: paragraphs that go together while there is room, sections that
begin a chunk of their own, and long paragraphs cut on their own. -/

namespace DataMax.Ingest

open Domain Library

/-- The unit goes to the chunk that is written, to a new one, or to chunks of its own. -/
def packUnit (maxChars : Nat) (pending : String → Bool) (current unit : String) : List String × String :=
  let full := closeChunk (current.length + unit.length + 2 > maxChars ∧ current ≠ "") current
  if unit.length > maxChars then
    let closed := closeChunk (pending full.2) full.2
    (full.1 ++ closed.1 ++ splitLongText unit maxChars, closed.2)
  else (full.1, (if full.2 = "" then full.2 else full.2 ++ "\n\n") ++ unit)

/-- One paragraph, after the chunk before it where the paragraph breaks from it. -/
def packParagraph (breaks : String → String → Bool) (maxChars : Nat) (current paragraph : String) :
    List String × String :=
  let paragraph := trim paragraph
  if paragraph = "" then ([], current)
  else
    let broken := closeChunk (breaks paragraph current) current
    let packed := packUnit maxChars (· ≠ "") broken.2 paragraph
    (broken.1 ++ packed.1, packed.2)

def flushChunk (current : String) : List String := if trim current = "" then [] else [trim current]

def paragraphPacker (breaks : String → String → Bool) (maxChars : Nat) : Gatherer String String String where
  feed := packParagraph breaks maxChars
  flush := flushChunk

@[simp] theorem feed_paragraphPacker (breaks : String → String → Bool) (maxChars : Nat) :
    (paragraphPacker breaks maxChars).feed = packParagraph breaks maxChars := by
  rw [paragraphPacker]

@[simp] theorem flush_paragraphPacker (breaks : String → String → Bool) (maxChars : Nat) :
    (paragraphPacker breaks maxChars).flush = flushChunk := by
  rw [paragraphPacker]

def splitTextChunks (text : String) (maxChars : Nat) : List String :=
  (paragraphPacker (fun _ _ => false) (max maxChars 1)).gather "" (splitTextParagraphs text)

/-- Sections start a new chunk, unless only the marker of a page is before them. -/
def breaksSection (sectionHints : List String) (paragraph current : String) : Bool :=
  (paragraphMatchesSectionHint paragraph sectionHints || looksLikeDocumentSectionTitle paragraph) &&
    trim current ≠ "" && !looksLikeSyntheticPageMarker (trim current)

def splitTextChunksWithSectionHints (text : String) (maxChars : Nat) (sectionHints : List String) : List String :=
  (paragraphPacker (breaksSection sectionHints) (max maxChars 1)).gather "" (splitTextParagraphs text)

section Preservation

variable {current unit text : String} {maxChars : Nat} {pending : String → Bool} {breaks : String → String → Bool}

theorem flatMap_visible_flushChunk (current : String) : (flushChunk current).flatMap visible = visible current := by
  rw [flushChunk, flatMap_visible_last]

theorem visible_glue (current unit : String) :
    visible ((if current = "" then current else current ++ "\n\n") ++ unit) = visible current ++ visible unit := by
  have blank : visible "\n\n" = [] := by decide
  split
  · exact visible_append ..
  · rw [visible_append, visible_append, blank, List.append_nil]

theorem flatMap_visible_packUnit (unpacked : ∀ current, pending current = false → visible current = [])
    (current unit : String) : (packUnit maxChars pending current unit).1.flatMap visible ++
      visible (packUnit maxChars pending current unit).2 = visible current ++ visible unit := by
  rw [packUnit]
  have full := flatMap_visible_close (current.length + unit.length + 2 > maxChars ∧ current ≠ "") current
  generalize closeChunk (current.length + unit.length + 2 > maxChars ∧ current ≠ "") current = chunk at full ⊢
  dsimp only
  split
  · have kept := flatMap_visible_close (pending chunk.2) chunk.2
    have closed := visible_close (unpacked chunk.2)
    rw [closed, List.append_nil] at kept
    rw [List.flatMap_append, List.flatMap_append, kept, full, flatMap_visible_longText, closed, List.append_nil]
  · rw [visible_glue, ← List.append_assoc, full]

theorem flatMap_visible_packParagraph (current paragraph : String) :
    (packParagraph breaks maxChars current paragraph).1.flatMap visible ++
      visible (packParagraph breaks maxChars current paragraph).2 = visible current ++ visible paragraph := by
  rw [packParagraph]
  split
  · rename_i blank
    rw [trim_eq_empty_iff] at blank
    rw [blank, List.append_nil]
    rfl
  · have packed := @flatMap_visible_packUnit maxChars (· ≠ "") (by simp [visible])
      (closeChunk (breaks (trim paragraph) current) current).2 (trim paragraph)
    rw [List.flatMap_append, List.append_assoc, packed, ← List.append_assoc, flatMap_visible_close, visible_trim]

/-- Whatever breaks the paragraphs, nothing that is visible is lost. -/
theorem flatMap_visible_packed (breaks : String → String → Bool) (maxChars : Nat) (text : String) :
    ((paragraphPacker breaks maxChars).gather "" (splitTextParagraphs text)).flatMap visible =
      visible (withoutNul text) := by
  have step (current paragraph : String) :
      ((paragraphPacker breaks maxChars).feed current paragraph).1.flatMap visible ++
        visible ((paragraphPacker breaks maxChars).feed current paragraph).2 =
          visible current ++ visible paragraph := by
    rw [feed_paragraphPacker, flatMap_visible_packParagraph]
  have last (current : String) :
      ((paragraphPacker breaks maxChars).flush current).flatMap visible = visible current := by
    rw [flush_paragraphPacker, flatMap_visible_flushChunk]
  rw [Gatherer.flatMap_gather visible visible visible step last, visible_empty, List.nil_append,
    flatMap_visible_paragraphs]

end Preservation

section Bounds

variable {current unit paragraph text : String} {maxChars : Nat} {pending : String → Bool}
variable {breaks : String → String → Bool}

theorem held_packUnit (held : Held maxChars current) (some : visible unit ≠ []) :
    Held maxChars (packUnit maxChars pending current unit).2 := by
  rw [packUnit]
  dsimp only
  split
  · exact (length_close (length_close held).1).1
  · rename_i short
    refine ⟨?_, fun none => absurd (List.append_eq_nil_iff.mp ((visible_glue ..).symm.trans none)).2 some⟩
    split
    · rename_i opened
      rw [opened]
      simpa using short
    · rename_i goesOn
      rw [closeChunk] at goesOn ⊢
      split at goesOn
      · exact absurd rfl goesOn
      · rename_i notFull
        have room := notFull
        rw [decide_eq_true_eq, not_and_or, not_lt, not_not] at room
        have length : "\n\n".length = 2 := rfl
        rw [if_neg notFull, String.length_append, String.length_append, length]
        dsimp only
        rcases room with room | none
        · omega
        · exact absurd none goesOn

theorem length_packUnit (positive : 0 < maxChars) (held : Held maxChars current) :
    ∀ chunk ∈ (packUnit maxChars pending current unit).1, chunk.length ≤ maxChars := by
  have full := @length_close current (current.length + unit.length + 2 > maxChars ∧ current ≠ "") maxChars held
  rw [packUnit]
  dsimp only
  split
  · rw [List.forall_mem_append, List.forall_mem_append]
    exact ⟨⟨full.2, (length_close full.1).2⟩, length_longText positive⟩
  · exact full.2

theorem length_packParagraph (positive : 0 < maxChars) (held : Held maxChars current) (paragraph : String) :
    Held maxChars (packParagraph breaks maxChars current paragraph).2 ∧
      ∀ chunk ∈ (packParagraph breaks maxChars current paragraph).1, chunk.length ≤ maxChars := by
  rw [packParagraph]
  dsimp only
  split
  · exact ⟨held, by simp⟩
  · rename_i some
    rw [trim_eq_empty_iff, ← visible_trim] at some
    have broken := @length_close current (breaks (trim paragraph) current) maxChars held
    dsimp only
    rw [List.forall_mem_append]
    exact ⟨held_packUnit broken.1 some, broken.2, length_packUnit positive broken.1⟩

theorem length_packed (positive : 0 < maxChars) :
    ∀ chunk ∈ (paragraphPacker breaks maxChars).gather "" (splitTextParagraphs text), chunk.length ≤ maxChars := by
  refine Gatherer.forall_gather (Held maxChars) (fun _ => True) ?_ ?_ (held_empty _) (fun _ _ => trivial)
  · intro current paragraph held _
    rw [feed_paragraphPacker]
    exact length_packParagraph positive held paragraph
  · intro current held
    rw [flush_paragraphPacker, flushChunk]
    split
    · simp
    · simpa using Nat.le_trans (length_trim_le current) held.1

/-- Chunks are not longer than allowed, and together they have all that is visible in the text,
with section hints or without. -/
theorem chunks_keep_text (text : String) (maxChars : Nat) (sectionHints : List String) :
    let plain := splitTextChunks text maxChars
    let hinted := splitTextChunksWithSectionHints text maxChars sectionHints
    (∀ chunk ∈ plain, chunk.length ≤ max maxChars 1) ∧ (∀ chunk ∈ hinted, chunk.length ≤ max maxChars 1) ∧
      visible (.join plain) = visible (withoutNul text) ∧ visible (.join hinted) = visible (withoutNul text) := by
  have positive : 0 < max maxChars 1 := by omega
  refine ⟨length_packed positive, length_packed positive, ?_, ?_⟩
  · rw [visible_join]
    exact flatMap_visible_packed _ _ text
  · rw [visible_join]
    exact flatMap_visible_packed _ _ text

end Bounds

section Clean

variable {current unit paragraph text : String} {maxChars : Nat} {breaks : String → String → Bool}

/-- No unit that is too long for a chunk is cut beside white space. -/
def LongUnitsCutInside (maxChars : Nat) (paragraph : String) : Prop :=
  paragraph.length > maxChars → ∀ unit ∈ longUnits paragraph, unit.length > maxChars → CutsInside maxChars unit.toList

theorem clean_packUnit_iff (positive : 0 < maxChars) (held : Held maxChars current) :
    (∀ chunk ∈ (packUnit maxChars (· ≠ "") current unit).1, Clean chunk) ↔ LongUnitsCutInside maxChars unit := by
  have shown : ∀ current, Held maxChars current → current ≠ "" → visible current ≠ [] := by
    intro current held some none
    exact some (held.2 none)
  have full : ∀ chunk ∈ (closeChunk (current.length + unit.length + 2 > maxChars ∧ current ≠ "") current).1,
      Clean chunk := clean_close fun closes => shown current held (of_decide_eq_true closes).2
  have next := @length_close current (current.length + unit.length + 2 > maxChars ∧ current ≠ "") maxChars held
  have closed := @clean_close _ _ fun closes => shown _ next.1 (of_decide_eq_true closes)
  rw [packUnit, LongUnitsCutInside]
  dsimp only
  split
  · rename_i long
    rw [List.forall_mem_append, List.forall_mem_append, clean_longText_iff positive long]
    exact ⟨fun inside _ => inside.2, fun inside => ⟨⟨full, closed⟩, inside long⟩⟩
  · rename_i short
    exact ⟨fun _ long => absurd long short, fun _ => full⟩

theorem clean_packParagraph_iff (positive : 0 < maxChars) (held : Held maxChars current)
    (broken : breaks (trim paragraph) current = true → visible current ≠ []) :
    (∀ chunk ∈ (packParagraph breaks maxChars current paragraph).1, Clean chunk) ↔
      LongUnitsCutInside maxChars (trim paragraph) := by
  rw [packParagraph]
  dsimp only
  split
  · rename_i blank
    rw [blank, LongUnitsCutInside]
    exact ⟨fun _ long => absurd long (Nat.not_lt_zero _), by simp⟩
  · have next := @length_close current (breaks (trim paragraph) current) maxChars held
    rw [List.forall_mem_append, clean_packUnit_iff positive next.1]
    exact ⟨And.right, fun inside => ⟨clean_close broken, inside⟩⟩

theorem clean_packed_iff (positive : 0 < maxChars)
    (broken : ∀ paragraph current, breaks paragraph current = true → visible current ≠ []) :
    (∀ chunk ∈ (paragraphPacker breaks maxChars).gather "" (splitTextParagraphs text), Clean chunk) ↔
      ∀ paragraph ∈ splitTextParagraphs text, LongUnitsCutInside maxChars paragraph := by
  have whole : ∀ paragraph ∈ splitTextParagraphs text,
      LongUnitsCutInside maxChars (trim paragraph) ↔ LongUnitsCutInside maxChars paragraph := by
    intro paragraph listed
    rw [trim_paragraph paragraph listed]
  rw [← forall₂_congr whole]
  refine Gatherer.forall_gather_iff (Held maxChars) (fun _ => True) ?_ ?_ (held_empty _) (fun _ _ => trivial)
  rotate_left
  · intro current _
    rw [flush_paragraphPacker, flushChunk]
    exact clean_last current
  intro current paragraph held _
  rw [feed_paragraphPacker]
  exact ⟨(length_packParagraph positive held paragraph).1, clean_packParagraph_iff positive held (broken _ _)⟩

/-- The chunks are clean exactly where no unit that is too long for a chunk is cut beside white space. -/
theorem chunks_clean_iff (text : String) (maxChars : Nat) (sectionHints : List String) :
    let cutInside := ∀ paragraph ∈ splitTextParagraphs text, LongUnitsCutInside (max maxChars 1) paragraph
    ((∀ chunk ∈ splitTextChunks text maxChars, Clean chunk) ↔ cutInside) ∧
      ((∀ chunk ∈ splitTextChunksWithSectionHints text maxChars sectionHints, Clean chunk) ↔ cutInside) := by
  have positive : 0 < max maxChars 1 := by omega
  refine ⟨clean_packed_iff positive (by simp), clean_packed_iff positive fun paragraph current breaks => ?_⟩
  rw [breaksSection, Bool.and_eq_true, Bool.and_eq_true, decide_eq_true_eq, Ne, trim_eq_empty_iff] at breaks
  exact breaks.1.2

/-- The line break after a line of the size of a chunk is a chunk of its own. -/
theorem chunks_clean_line : ¬ ∀ (text : String) (maxChars : Nat) (sectionHints : List String),
    (∀ chunk ∈ splitTextChunks text maxChars, Clean chunk) ∧
      ∀ chunk ∈ splitTextChunksWithSectionHints text maxChars sectionHints, Clean chunk := by
  intro always
  have blank : "\n" ∈ splitTextChunks "abc\ndef" 3 := by decide
  exact ((always "abc\ndef" 3 []).1 "\n" blank).1 (by decide)

end Clean

end DataMax.Ingest
