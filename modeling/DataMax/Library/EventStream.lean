import Mathlib.Tactic.Common

/-! Server-sent events: lines that end with a line feed, a carriage return or both, fields with a name
and a value, and an empty line after each event. -/

namespace DataMax.Library

structure StreamEvent where
  name : List Char
  data : List Char
  deriving DecidableEq

/-- The lines that have ended, where `line` is what has been read of the first. -/
def endedLines (line : List Char) : List Char → List (List Char)
  | [] => []
  | '\r' :: '\n' :: rest => line :: endedLines [] rest
  | char :: rest => if char = '\n' ∨ char = '\r' then line :: endedLines [] rest else endedLines (line ++ [char]) rest

/-- The name before the colon, and the value after it without one space. -/
def streamField (line : List Char) : List Char × List Char :=
  (line.takeWhile (· ≠ ':'), match line.dropWhile (· ≠ ':') with
    | ':' :: ' ' :: value => value
    | ':' :: value => value
    | _ => [])

/-- Fields are gathered up to an empty line. -/
def readFields (pending : StreamEvent) (data : List (List Char)) : List (List Char) → List StreamEvent
  | [] => []
  | [] :: rest =>
    let event := if data = [] then [] else [{ pending with data := ['\n'].intercalate data }]
    event ++ readFields ⟨[], []⟩ [] rest
  | line :: rest =>
    let (name, value) := streamField line
    if name = ['e', 'v', 'e', 'n', 't'] then readFields { pending with name := value } data rest
    else if name = ['d', 'a', 't', 'a'] then readFields pending (data ++ [value]) rest
    else readFields pending data rest

def readEvents (text : List Char) : List StreamEvent := readFields ⟨[], []⟩ [] (endedLines [] text)

/-- No line ends in it. -/
def Unbroken (text : List Char) : Prop := '\n' ∉ text ∧ '\r' ∉ text

variable {text name data rest line : List Char}

theorem endedLines_unbroken (unbroken : Unbroken text) :
    endedLines line (text ++ '\n' :: rest) = (line ++ text) :: endedLines [] rest := by
  induction text generalizing line with
  | nil => simp [endedLines]
  | cons char tail ih =>
    obtain ⟨noFeed, noReturn⟩ := unbroken
    have feed : char ≠ '\n' := fun same => noFeed (by simp [same])
    have back : char ≠ '\r' := fun same => noReturn (by simp [same])
    have later : Unbroken tail := ⟨fun inside => noFeed (List.mem_cons_of_mem _ inside),
      fun inside => noReturn (List.mem_cons_of_mem _ inside)⟩
    rw [List.cons_append, endedLines, if_neg (not_or.mpr ⟨feed, back⟩), ih later, List.append_assoc, List.singleton_append]
    · intro others same
      exact absurd same back

theorem endedLines_nil : endedLines line ('\n' :: rest) = line :: endedLines [] rest := by
  have nothing : Unbroken [] := ⟨by simp, by simp⟩
  have ended : endedLines line ([] ++ '\n' :: rest) = _ := endedLines_unbroken nothing
  rwa [List.nil_append, List.append_nil] at ended

/-- A field as it is written. -/
def fieldLine (label value : List Char) : List Char := label ++ ':' :: ' ' :: value

theorem streamField_fieldLine {label value : List Char} (plain : ':' ∉ label) :
    streamField (fieldLine label value) = (label, value) := by
  have before : ∀ char ∈ label, decide (char ≠ ':') = true := by
    intro char inside
    exact decide_eq_true fun same => plain (same ▸ inside)
  rw [streamField, fieldLine, List.takeWhile_append_of_pos before, List.dropWhile_append_of_pos before]
  simp

def eventLine (name : List Char) : List Char := fieldLine ['e', 'v', 'e', 'n', 't'] name

def dataLine (data : List Char) : List Char := fieldLine ['d', 'a', 't', 'a'] data

/-- An event as it is written. -/
def StreamEvent.written (event : StreamEvent) : List Char :=
  eventLine event.name ++ '\n' :: (dataLine event.data ++ ['\n', '\n'])

attribute [local simp] readFields in
theorem readFields_event (pending : StreamEvent) (gathered : List (List Char)) (lines : List (List Char)) :
    readFields pending gathered (eventLine name :: lines) = readFields { pending with name := name } gathered lines := by
  have field : streamField (eventLine name) = (['e', 'v', 'e', 'n', 't'], name) := streamField_fieldLine (by decide)
  rw [readFields, field]
  · rfl
  · simp [eventLine, fieldLine]

theorem readFields_data (pending : StreamEvent) (gathered : List (List Char)) (lines : List (List Char)) :
    readFields pending gathered (dataLine data :: lines) = readFields pending (gathered ++ [data]) lines := by
  have field : streamField (dataLine data) = (['d', 'a', 't', 'a'], data) := streamField_fieldLine (by decide)
  rw [readFields, field]
  · rfl
  · simp [dataLine, fieldLine]

theorem readEvents_written {event : StreamEvent} (name : Unbroken event.name) (data : Unbroken event.data) :
    readEvents (event.written ++ rest) = event :: readEvents rest := by
  have first : Unbroken (eventLine event.name) := by
    simpa [Unbroken, eventLine, fieldLine] using name
  have second : Unbroken (dataLine event.data) := by
    simpa [Unbroken, dataLine, fieldLine] using data
  have lines : endedLines [] (event.written ++ rest) =
      eventLine event.name :: dataLine event.data :: [] :: endedLines [] rest := by
    rw [StreamEvent.written, List.append_assoc, List.cons_append, endedLines_unbroken first, List.nil_append,
      List.append_assoc, List.cons_append, endedLines_unbroken second, List.nil_append, List.singleton_append,
      endedLines_nil]
  rw [readEvents, lines, readFields_event, readFields_data, readFields, readEvents]
  simp [List.intercalate]

/-- Events without line breaks are read as they were written. -/
theorem readEvents_flatMap (events : List StreamEvent) (unbroken : ∀ event ∈ events, Unbroken event.name ∧ Unbroken event.data) :
    readEvents (events.flatMap StreamEvent.written) = events := by
  induction events with
  | nil => rfl
  | cons event others ih =>
    obtain ⟨⟨name, data⟩, later⟩ := List.forall_mem_cons.mp unbroken
    rw [List.flatMap_cons, readEvents_written name data, ih later]

end DataMax.Library
