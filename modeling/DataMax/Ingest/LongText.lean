import DataMax.Ingest.Paragraphs

/-! Texts that are longer than a chunk: cut between sentences, and within a sentence that is
still too long after a number of characters. -/

namespace DataMax.Ingest

open Domain Library

/-- `"。！？；!?;\n"` -/
def sentenceEnds : List Char := ['。', '！', '？', '；', '!', '?', ';', '\n']

def sentenceReader : Gatherer Char (List Char) String where
  feed current ch :=
    if ch ∈ sentenceEnds then
      let unit := trim (.ofList (current ++ [ch]))
      (if unit = "" then [] else if ch = '\n' then [unit ++ "\n"] else [unit], [])
    else ([], current ++ [ch])
  flush current :=
    let tail := trim (.ofList current)
    if tail = "" then [] else [tail]

theorem flush_sentenceReader (current : List Char) : sentenceReader.flush current =
    if trim (.ofList current) = "" then [] else [trim (.ofList current)] := by
  rw [sentenceReader]

def splitSentenceUnits (text : String) : List String := sentenceReader.gather [] text.toList

def charReader (maxChars : Nat) : Gatherer Char (List Char) String where
  feed current ch := if current.length ≥ maxChars then ([.ofList current], [ch]) else ([], current ++ [ch])
  flush current := if current = [] then [] else [.ofList current]

def splitLongTextByChar (text : String) (maxChars : Nat) : List String := (charReader maxChars).gather [] text.toList

/-- The chunk that is written is closed, or goes on. -/
def closeChunk (closes : Bool) (current : String) : List String × String :=
  if closes then ([trim current], "") else ([], current)

def sentencePacker (maxChars : Nat) : Gatherer String String String where
  feed current unit :=
    if unit.length > maxChars then
      let closed := closeChunk (trim current ≠ "") current
      (closed.1 ++ splitLongTextByChar unit maxChars, closed.2)
    else
      let closed := closeChunk (current.length + unit.length > maxChars ∧ trim current ≠ "") current
      (closed.1, closed.2 ++ unit)
  flush current := if trim current = "" then [] else [trim current]

theorem flush_sentencePacker (maxChars : Nat) (current : String) :
    (sentencePacker maxChars).flush current = if trim current = "" then [] else [trim current] := by
  rw [sentencePacker]

def splitLongText (text : String) (maxChars : Nat) : List String :=
  let sentenceUnits := splitSentenceUnits text
  if sentenceUnits.length > 1 then (sentencePacker maxChars).gather "" sentenceUnits
  else splitLongTextByChar text maxChars

section Visible

variable {current unit : String} {closes : Bool} {maxChars : Nat}

theorem flatMap_visible_close (closes : Bool) (current : String) :
    (closeChunk closes current).1.flatMap visible ++ visible (closeChunk closes current).2 = visible current := by
  cases closes with
  | false => rfl
  | true =>
    simp [closeChunk, visible_empty]

theorem flatMap_visible_last (current : String) :
    (if trim current = "" then [] else [trim current]).flatMap visible = visible current := by
  split
  · rename_i blank
    exact (trim_eq_empty_iff.mp blank).symm
  · simp

theorem visible_lineBreak (text : String) : visible (text ++ "\n") = visible text := by
  have blank : visible "\n" = [] := by decide
  rw [visible_append, blank, List.append_nil]

theorem flatMap_visible_unit (unit : String) (ch : Char) :
    (if unit = "" then [] else if ch = '\n' then [unit ++ "\n"] else [unit]).flatMap visible = visible unit := by
  split
  · rename_i none
    rw [none]
    rfl
  · split
    · exact (List.flatMap_singleton ..).trans (visible_lineBreak unit)
    · exact List.flatMap_singleton ..

theorem flatMap_visible_sentence (current : List Char) (ch : Char) :
    (sentenceReader.feed current ch).1.flatMap visible ++ (sentenceReader.feed current ch).2.filter (!isWhitespace ·) =
      current.filter (!isWhitespace ·) ++ [ch].filter (!isWhitespace ·) := by
  rw [← List.filter_append, sentenceReader]
  dsimp only
  split
  · rw [flatMap_visible_unit, visible_trim, visible_ofList]
    exact List.append_nil _
  · rfl

theorem flatMap_filter_chars (text : String) :
    (text.toList.flatMap fun ch => [ch].filter (!isWhitespace ·)) = visible text := by
  rw [← List.filter_flatMap, List.flatMap_singleton']
  rfl

/-- A sentence loses blanks only. -/
theorem flatMap_visible_sentenceUnits (text : String) : (splitSentenceUnits text).flatMap visible = visible text := by
  have last : ∀ current, (sentenceReader.flush current).flatMap visible = current.filter (!isWhitespace ·) := by
    intro current
    rw [flush_sentenceReader, flatMap_visible_last, visible_ofList]
  rw [splitSentenceUnits, Gatherer.flatMap_gather visible (List.filter (!isWhitespace ·))
    (fun ch => [ch].filter (!isWhitespace ·)) flatMap_visible_sentence last, flatMap_filter_chars]
  rfl

theorem flatMap_visible_byChar (text : String) (maxChars : Nat) :
    (splitLongTextByChar text maxChars).flatMap visible = visible text := by
  have step : ∀ (current : List Char) (ch : Char), ((charReader maxChars).feed current ch).1.flatMap visible ++
      ((charReader maxChars).feed current ch).2.filter (!isWhitespace ·) =
      current.filter (!isWhitespace ·) ++ [ch].filter (!isWhitespace ·) := by
    intro current ch
    rw [charReader]
    dsimp only
    split
    · rw [List.flatMap_singleton, visible_ofList]
    · exact List.filter_append ..
  have last : ∀ current, ((charReader maxChars).flush current).flatMap visible =
      current.filter (!isWhitespace ·) := by
    intro current
    rw [charReader]
    dsimp only
    split
    · rename_i none
      rw [none]
      rfl
    · rw [List.flatMap_singleton, visible_ofList]
  rw [splitLongTextByChar, Gatherer.flatMap_gather visible (List.filter (!isWhitespace ·))
    (fun ch => [ch].filter (!isWhitespace ·)) step last, flatMap_filter_chars]
  rfl

theorem visible_close (pending : closes = false → visible current = []) :
    visible (closeChunk closes current).2 = [] := by
  cases closes with
  | false => exact pending rfl
  | true => rfl

theorem flatMap_visible_pack (maxChars : Nat) (current unit : String) :
    ((sentencePacker maxChars).feed current unit).1.flatMap visible ++
      visible ((sentencePacker maxChars).feed current unit).2 = visible current ++ visible unit := by
  rw [sentencePacker]
  dsimp only
  split
  · have closed : visible (closeChunk (trim current ≠ "") current).2 = [] := by
      apply visible_close
      simp [trim_eq_empty_iff]
    have kept := flatMap_visible_close (trim current ≠ "") current
    rw [closed, List.append_nil] at kept
    rw [List.flatMap_append, kept, flatMap_visible_byChar, closed, List.append_nil]
  · rw [visible_append, ← List.append_assoc, flatMap_visible_close]

/-- A long text is cut without loss. -/
theorem flatMap_visible_longText (text : String) (maxChars : Nat) :
    (splitLongText text maxChars).flatMap visible = visible text := by
  rw [splitLongText]
  split
  · have last (current : String) : ((sentencePacker maxChars).flush current).flatMap visible = visible current := by
      rw [flush_sentencePacker, flatMap_visible_last]
    rw [Gatherer.flatMap_gather visible visible visible (flatMap_visible_pack maxChars) last,
      flatMap_visible_sentenceUnits]
    rfl
  · exact flatMap_visible_byChar text maxChars

end Visible

section Length

variable {current unit text chunk : String} {closes : Bool} {maxChars : Nat}

/-- What is held back is no longer than a chunk, and not blank. -/
def Held (maxChars : Nat) (current : String) : Prop :=
  current.length ≤ maxChars ∧ (visible current = [] → current = "")

theorem held_empty (maxChars : Nat) : Held maxChars "" := ⟨Nat.zero_le _, fun _ => rfl⟩

theorem length_close (held : Held maxChars current) :
    Held maxChars (closeChunk closes current).2 ∧ ∀ chunk ∈ (closeChunk closes current).1, chunk.length ≤ maxChars := by
  cases closes with
  | false => exact ⟨held, by simp [closeChunk]⟩
  | true =>
    have shorter := Nat.le_trans (length_trim_le current) held.1
    exact ⟨held_empty maxChars, by simpa [closeChunk] using shorter⟩

theorem length_byChar (positive : 0 < maxChars) :
    ∀ chunk ∈ splitLongTextByChar text maxChars, chunk.length ≤ maxChars := by
  refine Gatherer.forall_gather (fun current => current.length ≤ maxChars) (fun _ => True) ?_ ?_ (Nat.zero_le _) (by simp)
  · intro current ch short _
    rw [charReader]
    dsimp only
    split
    · exact ⟨positive, by simpa using short⟩
    · rename_i shorter
      simp only [List.length_append, List.length_singleton]
      exact ⟨by omega, by simp⟩
  · intro current short
    rw [charReader]
    dsimp only
    split
    · simp
    · simpa using short

theorem visible_unit (unit : String) (ch : Char) :
    ∀ sentence ∈ (if unit = "" then [] else if ch = '\n' then [unit ++ "\n"] else [unit]),
      trim unit = unit → visible sentence ≠ [] := by
  intro sentence listed trimmed
  have some : unit ≠ "" := by
    intro none
    simp [none] at listed
  rw [← trimmed, Ne, trim_eq_empty_iff] at some
  rw [if_neg (by rwa [← trimmed, trim_eq_empty_iff])] at listed
  split at listed
  · rwa [List.mem_singleton.mp listed, visible_lineBreak]
  · rwa [List.mem_singleton.mp listed]

theorem visible_sentenceUnit : ∀ unit ∈ splitSentenceUnits text, visible unit ≠ [] := by
  rw [splitSentenceUnits]
  refine Gatherer.forall_gather (fun _ => True) (fun _ => True) ?_ ?_ trivial (fun _ _ => trivial)
  · intro current ch _ _
    rw [sentenceReader]
    dsimp only
    refine ⟨trivial, ?_⟩
    split
    · dsimp only
      intro unit listed
      exact visible_unit (trim (.ofList (current ++ [ch]))) ch unit listed (trim_trim _)
    · simp
  · intro current _
    rw [flush_sentenceReader]
    split
    · simp
    · rename_i some
      rw [trim_eq_empty_iff] at some
      simpa using some

theorem held_pack (held : Held maxChars current) (some : visible unit ≠ []) :
    Held maxChars ((sentencePacker maxChars).feed current unit).2 := by
  rw [sentencePacker]
  dsimp only
  split <;> dsimp only
  · exact (length_close held).1
  · rename_i short
    refine ⟨?_, fun none => absurd (List.append_eq_nil_iff.mp ((visible_append ..).symm.trans none)).2 some⟩
    rw [closeChunk]
    split
    · simpa using short
    · rename_i goesOn
      rw [decide_eq_true_eq, not_and_or, not_lt, not_not] at goesOn
      rw [String.length_append]
      rcases goesOn with within | blank
      · exact within
      · rw [held.2 (trim_eq_empty_iff.mp blank)]
        simpa using short

theorem length_longText (positive : 0 < maxChars) :
    ∀ chunk ∈ splitLongText text maxChars, chunk.length ≤ maxChars := by
  rw [splitLongText]
  split
  · refine Gatherer.forall_gather (Held maxChars) (fun unit => visible unit ≠ []) ?_ ?_ (held_empty _) visible_sentenceUnit
    · intro current unit held some
      refine ⟨held_pack held some, ?_⟩
      rw [sentencePacker]
      dsimp only
      split
      · rw [List.forall_mem_append]
        exact ⟨(length_close held).2, length_byChar positive⟩
      · exact (length_close held).2
    · intro current held
      rw [flush_sentencePacker]
      split
      · simp
      · simpa using Nat.le_trans (length_trim_le current) held.1
  · exact length_byChar positive

end Length

section Clean

variable {current unit text : String} {closes : Bool} {maxChars : Nat} {piece rest : List Char}

/-- A chunk with something to see at both of its ends. -/
def Clean (chunk : String) : Prop := visible chunk ≠ [] ∧ trim chunk = chunk

/-- No piece of the size that is cut from the text begins or ends with white space. -/
def CutsInside (maxChars : Nat) (text : List Char) : Prop :=
  ∀ index char, text[index]? = some char →
    index % maxChars = 0 ∨ (index + 1) % maxChars = 0 ∨ index + 1 = text.length → isWhitespace char = false

theorem clean_trim (some : visible current ≠ []) : Clean (trim current) :=
  ⟨by rwa [visible_trim], trim_trim current⟩

theorem clean_ofList_iff (nonempty : piece ≠ []) : Clean (.ofList piece) ↔
    ∀ index char, piece[index]? = some char → index = 0 ∨ index + 1 = piece.length → isWhitespace char = false := by
  constructor
  · rintro ⟨_, trimmed⟩ index char found ends
    obtain ⟨below, rfl⟩ := List.getElem?_eq_some_iff.mp found
    rcases ends with rfl | last
    · have starts := dropWhile_trim (.ofList piece)
      rw [trimmed, String.toList_ofList, List.dropWhile_eq_self_iff] at starts
      simpa using starts below
    · apply @trim_last (.ofList piece)
      rw [trimmed, String.toList_ofList, List.getLast?_eq_getElem?, ← last, Nat.add_sub_cancel]
      exact found
  · intro ends
    obtain ⟨first, others, rfl⟩ := List.exists_cons_of_ne_nil nonempty
    have seen := ends 0 first rfl (.inl rfl)
    constructor
    · rw [visible_ofList, List.filter_cons_of_pos (by simp [seen])]
      simp
    · refine trim_eq_self_of_ends ?_ fun char last => ?_
      · simpa using seen
      · rw [String.toList_ofList, List.getLast?_eq_getElem?] at last
        exact ends _ char last (.inr rfl)

theorem cutsInside_piece (nonempty : piece ≠ []) (short : piece.length ≤ maxChars) :
    CutsInside maxChars piece ↔ Clean (.ofList piece) := by
  rw [clean_ofList_iff nonempty]
  have atEnd : ∀ index < piece.length, (index % maxChars = 0 ∨ (index + 1) % maxChars = 0 ∨ index + 1 = piece.length) ↔
      (index = 0 ∨ index + 1 = piece.length) := by
    intro index below
    rw [Nat.mod_eq_of_lt (Nat.lt_of_lt_of_le below short)]
    rcases Nat.lt_or_ge (index + 1) maxChars with inside | full
    · rw [Nat.mod_eq_of_lt inside]
      omega
    · have last : index + 1 = piece.length := by omega
      simp [last]
  constructor
  · intro inside index char found ends
    exact inside index char found ((atEnd index (List.getElem?_eq_some_iff.mp found).1).mpr ends)
  · intro inside index char found ends
    exact inside index char found ((atEnd index (List.getElem?_eq_some_iff.mp found).1).mp ends)

theorem cutsInside_append (positive : 0 < maxChars) (full : piece.length = maxChars) (more : rest ≠ []) :
    CutsInside maxChars (piece ++ rest) ↔ Clean (.ofList piece) ∧ CutsInside maxChars rest := by
  have nonempty : piece ≠ [] := List.ne_nil_of_length_pos (full ▸ positive)
  have longer := List.length_pos_iff.mpr more
  rw [← cutsInside_piece nonempty full.le]
  constructor
  · intro inside
    constructor
    · intro index char found ends
      have below := (List.getElem?_eq_some_iff.mp found).1
      refine inside index char (by rwa [List.getElem?_append_left below]) ?_
      rcases ends with first | next | last
      · exact .inl first
      · exact .inr (.inl next)
      · exact .inr (.inl (by rw [last, full, Nat.mod_self]))
    · intro index char found ends
      refine inside (maxChars + index) char ?_ ?_
      · rwa [← full, List.getElem?_append_right (Nat.le_add_right ..), Nat.add_sub_cancel_left]
      · rwa [Nat.add_mod_left, Nat.add_assoc, Nat.add_mod_left, List.length_append, full, Nat.add_left_cancel_iff]
  · rintro ⟨first, others⟩ index char found ends
    rcases Nat.lt_or_ge index piece.length with below | beyond
    · rw [List.getElem?_append_left below] at found
      refine first index char found ?_
      rw [List.length_append] at ends
      omega
    · obtain ⟨later, rfl⟩ := Nat.exists_eq_add_of_le beyond
      rw [List.getElem?_append_right beyond, Nat.add_sub_cancel_left] at found
      refine others later char found ?_
      rwa [full, Nat.add_mod_left, Nat.add_assoc, Nat.add_mod_left, List.length_append, full,
        Nat.add_left_cancel_iff] at ends

theorem clean_gatherChars_iff (positive : 0 < maxChars) (short : piece.length ≤ maxChars) :
    (∀ chunk ∈ (charReader maxChars).gather piece rest, Clean chunk) ↔ CutsInside maxChars (piece ++ rest) := by
  induction rest generalizing piece with
  | nil =>
    rw [Gatherer.gather, charReader, List.append_nil]
    dsimp only
    split
    · rename_i none
      simp [none, CutsInside]
    · rename_i some
      rw [List.forall_mem_singleton, cutsInside_piece some short]
  | cons ch others ih =>
    have some := List.cons_ne_nil ch others
    rw [Gatherer.gather]
    by_cases full : piece.length = maxChars
    · have fed : (charReader maxChars).feed piece ch = ([.ofList piece], [ch]) := if_pos full.ge
      have single : [ch].length ≤ maxChars := positive
      rw [fed, List.forall_mem_append, List.forall_mem_singleton, cutsInside_append positive full some, ih single]
      rfl
    · have fed : (charReader maxChars).feed piece ch = ([], piece ++ [ch]) := if_neg (by omega)
      rw [fed, List.nil_append, ih (by simp only [List.length_append, List.length_singleton]; omega), List.append_assoc]
      rfl

/-- The cut by characters gives clean chunks only where no cut is beside white space. -/
theorem clean_byChar_iff (positive : 0 < maxChars) :
    (∀ chunk ∈ splitLongTextByChar text maxChars, Clean chunk) ↔ CutsInside maxChars text.toList :=
  clean_gatherChars_iff positive (Nat.zero_le _)

/-- The units that a long text is cut to, each on its own. -/
def longUnits (text : String) : List String :=
  if (splitSentenceUnits text).length > 1 then splitSentenceUnits text else [text]

theorem clean_close (some : closes = true → visible current ≠ []) :
    ∀ chunk ∈ (closeChunk closes current).1, Clean chunk := by
  cases closes with
  | false => simp [closeChunk]
  | true => simpa [closeChunk] using clean_trim (some rfl)

theorem clean_last (current : String) : ∀ chunk ∈ (if trim current = "" then [] else [trim current]), Clean chunk := by
  split
  · simp
  · rename_i some
    rw [trim_eq_empty_iff] at some
    simpa using clean_trim some

theorem clean_longText_iff (positive : 0 < maxChars) (long : text.length > maxChars) :
    (∀ chunk ∈ splitLongText text maxChars, Clean chunk) ↔
      ∀ unit ∈ longUnits text, unit.length > maxChars → CutsInside maxChars unit.toList := by
  rw [splitLongText, longUnits]
  split
  · refine Gatherer.forall_gather_iff (Held maxChars) (fun unit => visible unit ≠ []) ?_ ?_ (held_empty _)
      visible_sentenceUnit
    · intro current unit held some
      refine ⟨held_pack held some, ?_⟩
      rw [sentencePacker]
      dsimp only
      split
      · rename_i long
        have closed : ∀ chunk ∈ (closeChunk (trim current ≠ "") current).1, Clean chunk :=
          clean_close fun closes => by simpa [trim_eq_empty_iff] using closes
        rw [List.forall_mem_append, clean_byChar_iff positive]
        exact ⟨fun inside _ => inside.2, fun inside => ⟨closed, inside long⟩⟩
      · rename_i short
        refine ⟨fun _ long => absurd long short, fun _ => clean_close fun closes => ?_⟩
        rw [decide_eq_true_eq, Ne, trim_eq_empty_iff] at closes
        exact closes.2
    · intro current _
      rw [flush_sentencePacker]
      exact clean_last current
  · rw [List.forall_mem_singleton, clean_byChar_iff positive]
    exact ⟨fun inside _ => inside, fun inside => inside long⟩

end Clean

end DataMax.Ingest
