import DataMax.Retrieval.Terms

/-! The surface tokens by which the answering side weighs a text, next to the terms that the index keeps of it. A
second pass also joins the spellings that connectors hold together, such as `Q&A` or `v2.0`. -/

namespace DataMax.Retrieval

open DataMax.Domain DataMax.Library

def isAsciiConnectorTokenChar (value : Char) : Bool := ['&', '+', '/', '-', '_', '.'].contains value

/-- A connector with letters or digits somewhere on both sides. -/
def hasInternalAsciiConnector (segment : String) : Bool :=
  segment.toList.zipIdx.any fun (value, index) => isAsciiConnectorTokenChar value &&
    (segment.toList.take index).any Char.isAlphanum && (segment.toList.drop (index + 1)).any Char.isAlphanum

/-- The answering side has the length and the stop words of the index. -/
def normalizeLexicalQueryToken (token : String) : Option String := normalizeToken token

namespace Connector

structure Scan where
  tokens : List String
  segment : String

def flushLexicalAsciiConnectorToken (scan : Scan) : Scan :=
  if scan.segment = "" then scan
  else
    { tokens := if hasInternalAsciiConnector scan.segment then
          scan.tokens ++ (normalizeLexicalQueryToken (.ofList (scan.segment.toList.filter Char.isAlphanum))).toList
        else scan.tokens
      segment := "" }

def next (scan : Scan) (value : Char) : Scan :=
  if value.isAlphanum || isAsciiConnectorTokenChar value then { scan with segment := scan.segment.push value.toLower }
  else flushLexicalAsciiConnectorToken scan

end Connector

def extendLexicalAsciiConnectorTokens (content : String) (tokens : List String) : List String :=
  (Connector.flushLexicalAsciiConnectorToken (content.toList.foldl Connector.next ⟨tokens, ""⟩)).tokens

/-- The first pass reads the characters as `tokenize` does. -/
def lexicalSurfaceTokens (content : String) : List String :=
  extendLexicalAsciiConnectorTokens content (tokenize content)

section Segments

open Connector

/-- The characters of a connected spelling. -/
def inSegment (value : Char) : Bool := value.isAlphanum || isAsciiConnectorTokenChar value

/-- A connector stands between letters or digits. -/
def Connected (segment : List Char) : Prop := ∃ before value after, segment = before ++ value :: after ∧
  isAsciiConnectorTokenChar value = true ∧ before.any Char.isAlphanum = true ∧ after.any Char.isAlphanum = true

/-- The letters and digits of a connected spelling, in lower case. -/
def joinedTerm (segment : List Char) (term : String) : Prop :=
  Connected segment ∧ tokenTerm (segment.filter Char.isAlphanum) term

theorem hasInternalAsciiConnector_iff {segment : String} :
    hasInternalAsciiConnector segment = true ↔ Connected segment.toList := by
  rw [hasInternalAsciiConnector, List.any_eq_true]
  constructor
  · rintro ⟨⟨value, index⟩, listed, held⟩
    simp only [Bool.and_eq_true] at held
    have here := List.mk_mem_zipIdx_iff_getElem?.mp listed
    obtain ⟨inside, found⟩ := List.getElem?_eq_some_iff.mp here
    refine ⟨segment.toList.take index, value, segment.toList.drop (index + 1), ?_, held.1.1, held.1.2, held.2⟩
    rw [← found, List.getElem_cons_drop, List.take_append_drop]
  · rintro ⟨before, value, after, split, connector, earlier, later⟩
    refine ⟨(value, before.length), ?_, ?_⟩
    · apply List.mk_mem_zipIdx_iff_getElem?.mpr
      rw [split, List.getElem?_append_right (Nat.le_refl _), Nat.sub_self]
      rfl
    · have rest : segment.toList.drop (before.length + 1) = after := by
        rw [split, ← List.singleton_append, ← List.append_assoc]
        exact List.drop_left' (by simp)
      have front : segment.toList.take before.length = before := by
        rw [split]
        exact List.take_left
      simp only [rest, front, connector, earlier, later, Bool.and_self]

theorem isAlphanum_eq (value : Char) : value.isAlphanum = (value.isUpper || value.isLower || value.isDigit) := rfl

theorem isAlphanum_toLower (value : Char) : value.toLower.isAlphanum = value.isAlphanum := by
  cases upper : value.isUpper with
  | false => rw [toLower_of_not_upper upper]
  | true =>
    have lower := toLower_of_upper upper
    simp [isAlphanum_eq, upper, lower]

theorem connector_of_alphanum {value : Char} (alphanumeric : value.isAlphanum = true) :
    isAsciiConnectorTokenChar value = false := by
  have letters : ['&', '+', '/', '-', '_', '.'].all (fun connector => !connector.isAlphanum) = true := by decide
  cases connector : isAsciiConnectorTokenChar value with
  | false => rfl
  | true =>
    have other := List.all_eq_true.mp letters value (List.contains_iff_mem.mp connector)
    simp [alphanumeric] at other

theorem isAsciiConnectorTokenChar_toLower (value : Char) :
    isAsciiConnectorTokenChar value.toLower = isAsciiConnectorTokenChar value := by
  cases upper : value.isUpper with
  | false => rw [toLower_of_not_upper upper]
  | true =>
    have alphanumeric : value.isAlphanum = true := by simp [isAlphanum_eq, upper]
    rw [connector_of_alphanum alphanumeric, connector_of_alphanum ((isAlphanum_toLower value).trans alphanumeric)]

theorem any_isAlphanum_map (characters : List Char) :
    (characters.map Char.toLower).any Char.isAlphanum = characters.any Char.isAlphanum := by
  rw [List.any_map]
  exact congrArg characters.any (funext isAlphanum_toLower)

theorem connected_map_toLower {segment : List Char} : Connected (segment.map Char.toLower) ↔ Connected segment := by
  constructor
  · rintro ⟨before, value, after, split, connector, earlier, later⟩
    obtain ⟨front, rest, rfl, rfl, lowered⟩ := List.map_eq_append_iff.mp split
    obtain ⟨original, back, rfl, rfl, rfl⟩ := List.map_eq_cons_iff.mp lowered
    rw [any_isAlphanum_map] at earlier later
    exact ⟨front, original, back, rfl, (isAsciiConnectorTokenChar_toLower original).symm.trans connector, earlier, later⟩
  · rintro ⟨before, value, after, rfl, connector, earlier, later⟩
    refine ⟨before.map Char.toLower, value.toLower, after.map Char.toLower, by simp, ?_, ?_, ?_⟩
    · rw [isAsciiConnectorTokenChar_toLower, connector]
    · rw [any_isAlphanum_map, earlier]
    · rw [any_isAlphanum_map, later]

theorem joinedTerm_quiet : Quiet joinedTerm := by
  intro term emitted
  obtain ⟨⟨before, value, after, split, -⟩, -⟩ := emitted
  simp at split

/-- The open segment is the run of connected characters so far, and the segments before it have given their tokens. -/
def Connector.Invariant (earlier : List String) (seen : List Char) (scan : Connector.Scan) : Prop :=
  ∃ buffer found, scan.segment = asciiLower (.ofList buffer) ∧ RunBuffer inSegment joinedTerm seen buffer found ∧
    ∀ term, term ∈ scan.tokens ↔ term ∈ earlier ∨ found term

variable {earlier : List String} {scan : Connector.Scan} {buffer : List Char} {term : String}

theorem mem_flushSegment (held : scan.segment = asciiLower (.ofList buffer)) :
    term ∈ (flushLexicalAsciiConnectorToken scan).tokens ↔ term ∈ scan.tokens ∨ joinedTerm buffer term := by
  have letters : scan.segment.toList = buffer.map Char.toLower := by rw [held]; simp [asciiLower]
  have kept : String.ofList (scan.segment.toList.filter Char.isAlphanum) =
      asciiLower (.ofList (buffer.filter Char.isAlphanum)) := by
    apply String.toList_inj.mp
    rw [letters, List.filter_map]
    simp only [asciiLower, String.toList_ofList, String.toList_map]
    exact congrArg (List.map Char.toLower) (List.filter_congr fun value _ => isAlphanum_toLower value)
  have joined : hasInternalAsciiConnector scan.segment = true ↔ Connected buffer := by
    rw [hasInternalAsciiConnector_iff, letters, connected_map_toLower]
  have alphanumeric : ∀ value ∈ buffer.filter Char.isAlphanum, value.isAlphanum := by
    intro value inside
    exact (List.mem_filter.mp inside).2
  rw [flushLexicalAsciiConnectorToken]
  by_cases empty : scan.segment = ""
  · have nothing : buffer = [] := by
      rw [empty] at letters
      exact List.map_eq_nil_iff.mp letters.symm
    rw [if_pos empty, nothing]
    simp [joinedTerm_quiet term]
  · rw [if_neg empty]
    by_cases connected : Connected buffer
    · rw [if_pos (joined.mpr connected), List.mem_append, Option.mem_toList, kept, normalizeLexicalQueryToken,
        normalizeToken_asciiLower alphanumeric]
      simp [joinedTerm, connected]
    · rw [if_neg (fun found => connected (joined.mp found))]
      simp [joinedTerm, connected]

theorem flushLexicalAsciiConnectorToken_segment : (flushLexicalAsciiConnectorToken scan).segment = "" := by
  rw [flushLexicalAsciiConnectorToken]
  split
  · assumption
  · rfl

theorem Connector.Invariant.step {seen : List Char} (held : Invariant earlier seen scan) (value : Char) :
    Invariant earlier (seen ++ [value]) (next scan value) := by
  obtain ⟨buffer, found, segment, runs, tokens⟩ := held
  rw [next]
  by_cases inside : (value.isAlphanum || isAsciiConnectorTokenChar value) = true
  · rw [if_pos inside]
    refine ⟨buffer ++ [value], found, ?_, runs.push inside, tokens⟩
    change scan.segment.push value.toLower = _
    rw [segment]
    exact String.toList_inj.mp (by simp [asciiLower])
  · rw [if_neg inside]
    rw [Bool.not_eq_true] at inside
    refine ⟨[], _, flushLexicalAsciiConnectorToken_segment.trans asciiLower_empty,
      runs.flush joinedTerm_quiet inside, ?_⟩
    intro term
    rw [mem_flushSegment segment, tokens, or_assoc]

theorem Connector.Invariant.run {seen : List Char} (held : Invariant earlier seen scan) (rest : List Char) :
    Invariant earlier (seen ++ rest) (rest.foldl next scan) := by
  induction rest generalizing seen scan with
  | nil => simpa using held
  | cons value rest ih => simpa using ih (held.step value)

end Segments

/-- A spelling of the text that connectors hold together, without them. -/
def IsJoinedToken (text token : String) : Prop :=
  ∃ segment, MaximalRun inSegment text.toList segment ∧ Connected segment ∧
    token = asciiLower (.ofList (segment.filter Char.isAlphanum)) ∧ isStopWord token = false

theorem mem_lexicalSurfaceTokens {text token : String} :
    token ∈ lexicalSurfaceTokens text ↔ token ∈ tokenize text ∨
      ∃ segment, MaximalRun inSegment text.toList segment ∧ joinedTerm segment token := by
  have initial : Connector.Invariant (tokenize text) [] ⟨tokenize text, ""⟩ :=
    ⟨[], fun _ => False, asciiLower_empty, .start _ _, by simp⟩
  obtain ⟨buffer, found, segment, runs, tokens⟩ := initial.run text.toList
  rw [List.nil_append] at runs
  rw [lexicalSurfaceTokens, extendLexicalAsciiConnectorTokens, mem_flushSegment segment, tokens, or_assoc,
    runs.finish joinedTerm_quiet]

/-- The letters and digits on both sides of a connector are at least two. -/
theorem Connected.joinedTerm_iff {segment : List Char} (connected : Connected segment) {token : String} :
    joinedTerm segment token ↔
      token = asciiLower (.ofList (segment.filter Char.isAlphanum)) ∧ isStopWord token = false := by
  have long : 2 ≤ (segment.filter Char.isAlphanum).length := by
    obtain ⟨before, value, after, rfl, -, earlier, later⟩ := connected
    obtain ⟨first, firstInside, firstAlphanumeric⟩ := List.any_eq_true.mp earlier
    obtain ⟨second, secondInside, secondAlphanumeric⟩ := List.any_eq_true.mp later
    have front := List.length_pos_of_mem (List.mem_filter.mpr ⟨firstInside, firstAlphanumeric⟩)
    have back := List.length_pos_of_mem (List.mem_filter.mpr ⟨secondInside, secondAlphanumeric⟩)
    rw [List.filter_append, List.length_append, List.filter_cons]
    split
    · rw [List.length_cons]
      omega
    · omega
  simp [joinedTerm, connected, tokenTerm, asciiTerm, long]

/-- The surface tokens of a text are the terms that the index keeps of it and its joined spellings. -/
theorem surface_tokens_indexed (text token : String) : token ∈ lexicalSurfaceTokens text ↔
    token ∈ lexicalSearchTerms text ∨ IsJoinedToken text token := by
  have indexed : token ∈ lexicalSearchTerms text ↔ token ∈ tokenize text := by
    rw [lexicalSearchTerms, mem_keepUnseen]
    simp [TermSet.toList, SortedMap.empty]
  rw [mem_lexicalSurfaceTokens, indexed, IsJoinedToken]
  apply or_congr_right
  apply exists_congr
  intro segment
  apply and_congr_right
  intro _
  constructor
  · intro joined
    exact ⟨joined.1, joined.1.joinedTerm_iff.mp joined⟩
  · rintro ⟨connected, same⟩
    exact connected.joinedTerm_iff.mpr same

/-- The joined spelling of Q&A is no term of its text. -/
theorem joined_token_not_indexed : ¬ ∀ text token, token ∈ lexicalSurfaceTokens text → token ∈ lexicalSearchTerms text := by
  intro every
  have surface : "qa" ∈ lexicalSurfaceTokens "Q&A" := by decide
  have absent : "qa" ∉ lexicalSearchTerms "Q&A" := by decide
  exact absent (every _ _ surface)

end DataMax.Retrieval
