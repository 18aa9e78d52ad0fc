import DataMax.Json.Access
import DataMax.Json.Quoted
import Mathlib.Data.List.Infix

/-! The streaming of a text in deltas of 24 characters. -/

namespace DataMax.SseSupport

open Json Library

variable (floatText : UInt64 → String) (eventName : String)

def sseJsonEvent (data : Value) : String := "event: " ++ eventName ++ "\ndata: " ++ data.text floatText ++ "\n\n"

def textDelta (index : Nat) (delta : String) : Value := json [("index", .ofU64 (.ofNat index)), ("delta", .string delta)]

def sseTextDeltaEvent (index : Nat) (delta : String) : String := sseJsonEvent floatText eventName (textDelta index delta)

/-- The variables of the loop over the characters. -/
structure Encoding where
  encoded : String
  chunk : String
  index : Nat

def pushChar (state : Encoding) (ch : Char) : Encoding :=
  let chunk := state.chunk.push ch
  if chunk.length ≥ 24 then
    { encoded := state.encoded ++ sseTextDeltaEvent floatText eventName state.index chunk
      chunk := ""
      index := state.index + 1 }
  else { state with chunk := chunk }

def sseTextDeltaEvents (text : String) : String :=
  let state := text.toList.foldl (pushChar floatText eventName) ⟨"", "", 0⟩
  if state.chunk.isEmpty then state.encoded
  else state.encoded ++ sseTextDeltaEvent floatText eventName state.index state.chunk

variable {floatText eventName}

section Delta

variable {index : Nat} {delta : String}

theorem textDelta_eq : textDelta index delta = .object [("delta", .string delta), ("index", .ofU64 (.ofNat index))] := by
  have before : compare "delta" "index" = .lt := by decide
  simp [textDelta, json, Value.ofMap, SortedMap.ofList, SortedMap.insert, SortedMap.empty, SortedMap.insertEntry, before]

theorem get_index : (textDelta index delta).get "index" = some (.ofU64 (.ofNat index)) := by
  have after : compare "index" "delta" = .gt := by decide
  simp [textDelta_eq, Value.get, SortedMap.findEntry, after]

theorem get_delta : (textDelta index delta).get "delta" = some (.string delta) := by
  simp [textDelta_eq, Value.get, SortedMap.findEntry]

theorem tokens_textDelta : tokens floatText (textDelta index delta) =
    [.bare ['{'], .quoted "delta".toList, .bare [':'], .quoted delta.toList, .bare [','], .quoted "index".toList,
      .bare [':'], .bare (Nat.repr (UInt64.ofNat index).toNat).toList, .bare ['}']] := by
  rw [textDelta_eq, tokens, entryTokens, entryTokens, entryTokens, tokens]
  rfl

theorem printable_textDelta : ∀ char ∈ ((textDelta index delta).text floatText).toList, 0x20 ≤ char.toNat := by
  rw [Value.text, String.toList_ofList]
  refine printable_render fun text listed => ?_
  rw [tokens_textDelta] at listed
  simp only [List.mem_cons, Token.bare.injEq, reduceCtorEq, List.not_mem_nil, or_false, false_or] at listed
  have mark (char : Char) (printable : 0x20 ≤ char.toNat) : ∀ inner ∈ [char], 0x20 ≤ inner.toNat := by
    simpa using printable
  rcases listed with rfl | rfl | rfl | rfl | rfl | rfl
  · exact mark '{' (by decide)
  · exact mark ':' (by decide)
  · exact mark ',' (by decide)
  · exact mark ':' (by decide)
  · intro char inside
    have digit : char.isDigit := by
      rw [Nat.repr_eq_ofList_toDigits, String.toList_ofList] at inside
      exact Nat.isDigit_of_mem_toDigits (by decide) (by decide) inside
    exact Nat.le_trans (by decide) (Char.isDigit_iff_toNat.mp digit).1
  · exact mark '}' (by decide)

end Delta

section Events

/-- The event that carries a delta. -/
def deltaEvent (floatText : UInt64 → String) (eventName : String) (numbered : String × Nat) : StreamEvent :=
  ⟨eventName.toList, ((textDelta numbered.2 numbered.1).text floatText).toList⟩

theorem unbroken_deltaEvent (unbroken : Unbroken eventName.toList) (numbered : String × Nat) :
    Unbroken (deltaEvent floatText eventName numbered).name ∧ Unbroken (deltaEvent floatText eventName numbered).data := by
  simp only [deltaEvent]
  refine ⟨unbroken, ?_⟩
  apply unbroken_of_printable
  exact printable_textDelta

theorem data_deltaEvent (index : Nat) (delta : String) : String.ofList (deltaEvent floatText eventName (delta, index)).data =
    (textDelta index delta).text floatText := by
  simp only [deltaEvent, String.ofList_toList]

def deltaEvents (floatText : UInt64 → String) (eventName : String) (deltas : List String) : List StreamEvent :=
  deltas.zipIdx.map (deltaEvent floatText eventName)

theorem sseTextDeltaEvent_toList (index : Nat) (delta : String) : (sseTextDeltaEvent floatText eventName index delta).toList =
    (deltaEvent floatText eventName (delta, index)).written := by
  simp only [sseTextDeltaEvent, sseJsonEvent, String.toList_append, StreamEvent.written, deltaEvent, eventLine, dataLine,
    fieldLine]
  generalize eventName.toList = name
  generalize ((textDelta index delta).text floatText).toList = data
  have first : "event: ".toList = ['e', 'v', 'e', 'n', 't', ':', ' '] := rfl
  have second : "\ndata: ".toList = ['\n', 'd', 'a', 't', 'a', ':', ' '] := rfl
  have third : "\n\n".toList = ['\n', '\n'] := rfl
  rw [first, second, third]
  simp

variable {state : Encoding} {deltas : List String} {read : List Char}

/-- What has been written and what is held make up what has been read. -/
structure Streams (floatText : UInt64 → String) (eventName : String) (state : Encoding) (deltas : List String)
    (read : List Char) : Prop where
  written : state.encoded.toList = (deltaEvents floatText eventName deltas).flatMap StreamEvent.written
  count : state.index = deltas.length
  whole : ∀ delta ∈ deltas, delta.length = 24
  short : state.chunk.length < 24
  text : deltas.flatMap String.toList ++ state.chunk.toList = read

theorem deltaEvents_concat (deltas : List String) (delta : String) :
    (deltaEvents floatText eventName (deltas ++ [delta])).flatMap StreamEvent.written =
      (deltaEvents floatText eventName deltas).flatMap StreamEvent.written ++
        (sseTextDeltaEvent floatText eventName deltas.length delta).toList := by
  rw [sseTextDeltaEvent_toList, deltaEvents, List.zipIdx_append, List.map_append, List.flatMap_append, Nat.zero_add]
  simp [deltaEvents]

theorem Streams.pushChar (streams : Streams floatText eventName state deltas read) (ch : Char) :
    ∃ later, Streams floatText eventName (pushChar floatText eventName state ch) later (read ++ [ch]) := by
  have longer : (state.chunk.push ch).length = state.chunk.length + 1 := by simp
  have held : deltas.flatMap String.toList ++ (state.chunk.push ch).toList = read ++ [ch] := by
    rw [String.toList_push, ← List.append_assoc, streams.text]
  by_cases full : (state.chunk.push ch).length ≥ 24
  · refine ⟨deltas ++ [state.chunk.push ch], ?_, ?_, ?_, ?_, ?_⟩
    · rw [deltaEvents_concat, ← streams.written, ← streams.count, SseSupport.pushChar, if_pos full, String.toList_append]
    · rw [SseSupport.pushChar, if_pos full, List.length_append, ← streams.count]
      rfl
    · have reached : (state.chunk.push ch).length = 24 := by
        have := streams.short
        omega
      rintro delta inside
      rcases List.mem_append.mp inside with earlier | last
      · exact streams.whole delta earlier
      · rw [List.mem_singleton.mp last, reached]
    · rw [SseSupport.pushChar, if_pos full]
      exact Nat.zero_lt_succ 23
    · rw [SseSupport.pushChar, if_pos full, List.flatMap_append, List.flatMap_singleton, held]
      simp
  · refine ⟨deltas, ?_, ?_, streams.whole, ?_, ?_⟩
    · rw [SseSupport.pushChar, if_neg full, streams.written]
    · rw [SseSupport.pushChar, if_neg full, streams.count]
    · rw [SseSupport.pushChar, if_neg full]
      exact Nat.not_le.mp full
    · rw [SseSupport.pushChar, if_neg full, held]

theorem Streams.foldl (streams : Streams floatText eventName state deltas read) (text : List Char) :
    ∃ later, Streams floatText eventName (text.foldl (SseSupport.pushChar floatText eventName) state) later (read ++ text) := by
  induction text generalizing state deltas read with
  | nil => exact ⟨deltas, by simpa using streams⟩
  | cons ch rest ih =>
    obtain ⟨later, next⟩ := streams.pushChar ch
    obtain ⟨last, done⟩ := ih next
    exact ⟨last, by simpa using done⟩

/-- The deltas of a text. -/
structure Deltas (text : String) (deltas : List String) : Prop where
  joined : String.join deltas = text
  bounds : ∀ delta ∈ deltas, 1 ≤ delta.length ∧ delta.length ≤ 24
  full : ∀ delta ∈ deltas.dropLast, delta.length = 24

theorem join_eq {text : String} (same : deltas.flatMap String.toList = text.toList) : String.join deltas = text := by
  apply String.ext
  rw [String.toList_join, same]

/-- What is written are the events of the deltas. -/
theorem exists_deltas (text : String) : ∃ deltas, Deltas text deltas ∧
    (sseTextDeltaEvents floatText eventName text).toList =
      (deltaEvents floatText eventName deltas).flatMap StreamEvent.written := by
  have start : Streams floatText eventName ⟨"", "", 0⟩ [] [] := ⟨rfl, rfl, by simp, Nat.zero_lt_succ 23, rfl⟩
  obtain ⟨deltas, streams⟩ := start.foldl text.toList
  rw [sseTextDeltaEvents]
  generalize text.toList.foldl (pushChar floatText eventName) ⟨"", "", 0⟩ = state at streams
  have whole : ∀ delta ∈ deltas, 1 ≤ delta.length ∧ delta.length ≤ 24 := by
    intro delta inside
    have := streams.whole delta inside
    omega
  have read := streams.text
  rw [List.nil_append] at read
  by_cases nothing : state.chunk.isEmpty
  · have held : state.chunk = "" := String.isEmpty_iff.mp nothing
    rw [held, String.toList_empty, List.append_nil] at read
    refine ⟨deltas, ⟨join_eq read, whole, fun delta inside => ?_⟩, ?_⟩
    · exact streams.whole delta (List.mem_of_mem_dropLast inside)
    · rw [if_pos nothing, streams.written]
  · have some : 1 ≤ state.chunk.length := by
      refine Nat.one_le_iff_ne_zero.mpr fun zero => nothing ?_
      rw [String.isEmpty_iff, ← String.length_eq_zero_iff, zero]
    refine ⟨deltas ++ [state.chunk], ⟨join_eq ?_, ?_, ?_⟩, ?_⟩
    · rw [List.flatMap_append, List.flatMap_singleton, read]
    · intro delta inside
      rcases List.mem_append.mp inside with earlier | last
      · exact whole delta earlier
      · rw [List.mem_singleton.mp last]
        exact ⟨some, Nat.le_of_lt streams.short⟩
    · rw [List.dropLast_concat]
      exact streams.whole
    · rw [if_neg nothing, String.toList_append, deltaEvents_concat, streams.written, streams.count]

end Events

/-- The event is the delta with its number, as `parse` reads it. -/
def Carries (parse : String → Option Value) (eventName : String) (event : StreamEvent) (numbered : String × Nat) : Prop :=
  event.name = eventName.toList ∧ ∃ value, parse (.ofList event.data) = some value ∧
    value.get "index" = some (.ofU64 (.ofNat numbered.2)) ∧ value.get "delta" = some (.string numbered.1)

/-- Reading the stream gives back the text, in numbered deltas of 24 characters. -/
theorem text_deltas_reassemble {parse : String → Option Value} (unbroken : Unbroken eventName.toList)
    (inverse : ∀ index delta, parse ((textDelta index delta).text floatText) = some (textDelta index delta)) (text : String) :
    ∃ deltas, Deltas text deltas ∧
      List.Forall₂ (Carries parse eventName) (readEvents (sseTextDeltaEvents floatText eventName text).toList)
        deltas.zipIdx := by
  obtain ⟨deltas, split, written⟩ := @exists_deltas floatText eventName text
  refine ⟨deltas, split, ?_⟩
  rw [written, readEvents_flatMap, deltaEvents, List.forall₂_map_left_iff, List.forall₂_same]
  · intro numbered _
    obtain ⟨delta, index⟩ := numbered
    exact ⟨rfl, textDelta index delta, by rw [data_deltaEvent, inverse], get_index, get_delta⟩
  · intro event inside
    rw [deltaEvents] at inside
    obtain ⟨numbered, _, rfl⟩ := List.mem_map.mp inside
    exact unbroken_deltaEvent unbroken numbered

/-- Reads a delta that stands before its index. -/
def readDelta (data : String) : Option Value := do
  let (delta, rest) ← readQuoted (data.toList.drop 10)
  some (textDelta (Nat.ofDigitChars 10 (rest.drop 9).dropLast 0) (.ofList delta))

theorem readDelta_text (index : Nat) (delta : String) :
    readDelta ((textDelta index delta).text floatText) = some (textDelta index delta) := by
  have chars : ((textDelta index delta).text floatText).toList =
      ['{', '"', 'd', 'e', 'l', 't', 'a', '"', ':', '"'] ++ (delta.toList.flatMap escapeChar ++ '"' ::
        ([',', '"', 'i', 'n', 'd', 'e', 'x', '"', ':'] ++ ((Nat.repr (UInt64.ofNat index).toNat).toList ++ ['}']))) := by
    have first : "delta".toList.flatMap escapeChar = ['d', 'e', 'l', 't', 'a'] := by decide
    have second : "index".toList.flatMap escapeChar = ['i', 'n', 'd', 'e', 'x'] := by decide
    rw [Value.text, String.toList_ofList, tokens_textDelta]
    simp only [render, List.flatMap_cons, List.flatMap_nil, Token.chars, first, second, List.cons_append, List.nil_append,
      List.append_assoc, List.append_nil]
  have after : (([',', '"', 'i', 'n', 'd', 'e', 'x', '"', ':'] ++
      ((Nat.repr (UInt64.ofNat index).toNat).toList ++ ['}'])).drop 9).dropLast =
        (Nat.repr (UInt64.ofNat index).toNat).toList := by
    simp only [List.cons_append, List.nil_append, List.drop_succ_cons, List.drop_zero, List.dropLast_concat]
  have digits : Nat.ofDigitChars 10 (Nat.repr (UInt64.ofNat index).toNat).toList 0 = (UInt64.ofNat index).toNat := by
    rw [Nat.repr_eq_ofList_toDigits, String.toList_ofList, Nat.ofDigitChars_ten_toDigits]
  have numbered : textDelta (UInt64.ofNat index).toNat (.ofList delta.toList) = textDelta index delta := by
    rw [textDelta, UInt64.ofNat_toNat, String.ofList_toList, textDelta]
  have head (rest : List Char) : (['{', '"', 'd', 'e', 'l', 't', 'a', '"', ':', '"'] ++ rest).drop 10 = rest := rfl
  rw [readDelta, chars, head, readQuoted_flatMap]
  simp only [Option.bind_eq_bind, Option.bind_some, after, digits, numbered]

theorem text_deltas_of_two : ∃ deltas, Deltas "a\n" deltas ∧
    List.Forall₂ (Carries readDelta "m") (readEvents (sseTextDeltaEvents (fun _ => "0") "m" "a\n").toList) deltas.zipIdx :=
  text_deltas_reassemble ⟨by decide, by decide⟩ readDelta_text "a\n"

end DataMax.SseSupport
