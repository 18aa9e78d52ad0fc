import DataMax.Domain.Text
import DataMax.Library.Runs
import DataMax.Library.SortedMap
import Mathlib.Data.Finset.Dedup
import Mathlib.Data.Finset.SDiff

/-! The lexical terms of a query and those of an indexed text. Both sides read the characters once, with a buffer
for the ASCII token and one for the CJK characters before the current position. -/

namespace DataMax.Retrieval

open DataMax.Domain DataMax.Library

/-- `is_cjk` of the query side and `is_cjk_token_char` of the index side. -/
def isCjk (value : Char) : Bool :=
  let code := value.toNat
  (0x4E00 ≤ code && code ≤ 0x9FFF) || (0x3400 ≤ code && code ≤ 0x4DBF) || (0xF900 ≤ code && code ≤ 0xFAFF)

def cjkNgramMax : Nat := 6

/-- The sizes `2..=CJK_NGRAM_MAX.min(cjk.len())`. -/
def ngramSizes (cjk : List Char) : List Nat := List.range' 2 (min cjkNgramMax cjk.length - 1)

/-- The single characters of a flushed run and its windows, in the order of both flushes. -/
def cjkTerms (cjk : List Char) : List String :=
  cjk.map (fun value => .ofList [value]) ++
    (ngramSizes cjk).flatMap fun size => (windows size cjk).map String.ofList

/-- A `BTreeSet<String>`. -/
abbrev TermSet := SortedMap String Unit

def TermSet.add (terms : TermSet) (term : String) : TermSet := SortedMap.insert terms term ()

def TermSet.toList (terms : TermSet) : List String := terms.entries.map (·.1)

theorem TermSet.mem_add {terms : TermSet} {term other : String} :
    other ∈ (terms.add term).toList ↔ other ∈ terms.toList ∨ other = term := by
  have listed : ∀ set : TermSet, other ∈ set.toList ↔ set.get? other = some () := by
    intro set
    rw [TermSet.toList, List.mem_map]
    constructor
    · intro member
      rcases member with ⟨⟨key, ⟨⟩⟩, inside, rfl⟩
      exact SortedMap.mem_entries_iff.mp inside
    · intro found
      exact ⟨(other, ()), SortedMap.mem_entries_iff.mpr found, rfl⟩
  rw [listed, listed, TermSet.add]
  by_cases same : other = term
  · subst other
    simp
  · rw [SortedMap.get?_insert_other _ _ same]
    simp [same]

theorem TermSet.mem_foldl_add {terms : TermSet} {others : List String} {term : String} :
    term ∈ (others.foldl TermSet.add terms).toList ↔ term ∈ terms.toList ∨ term ∈ others := by
  induction others generalizing terms with
  | nil => simp
  | cons head rest ih =>
    rw [List.foldl_cons, ih, TermSet.mem_add, List.mem_cons, or_assoc]

namespace Query

structure Scan where
  terms : TermSet
  ascii : String
  cjk : List Char

def flushAscii (scan : Scan) : Scan where
  terms := if scan.ascii.utf8ByteSize ≥ 2 then scan.terms.add (asciiLower scan.ascii) else scan.terms
  ascii := ""
  cjk := scan.cjk

def flushCjk (scan : Scan) : Scan :=
  if scan.cjk.isEmpty then scan
  else { scan with terms := (cjkTerms scan.cjk).foldl TermSet.add scan.terms, cjk := [] }

def next (scan : Scan) (value : Char) : Scan :=
  if value.isAlphanum then
    let flushed := flushCjk scan
    { flushed with ascii := flushed.ascii.push value }
  else if isCjk value then
    let flushed := flushAscii scan
    { flushed with cjk := flushed.cjk ++ [value] }
  else flushCjk (flushAscii scan)

end Query

def retrievalLexicalQueryTerms (query : String) : List String :=
  let scan := query.toList.foldl Query.next ⟨.empty, "", []⟩
  (Query.flushCjk (Query.flushAscii scan)).terms.toList

def stopWords : List String :=
  ["a", "an", "and", "are", "as", "at", "be", "by", "for", "from", "in", "into", "is", "it", "of", "on", "or", "that",
    "the", "this", "to", "was", "were", "with"]

def isStopWord (token : String) : Bool := stopWords.contains token

def normalizeToken (token : String) : Option String :=
  if token.utf8ByteSize < 2 || isStopWord token then none else some token

namespace Index

structure Scan where
  tokens : List String
  asciiToken : String
  cjkChars : List Char

def flushAsciiToken (scan : Scan) : Scan where
  tokens := scan.tokens ++ (normalizeToken scan.asciiToken).toList
  asciiToken := ""
  cjkChars := scan.cjkChars

def flushCjkTerms (scan : Scan) : Scan :=
  if scan.cjkChars.isEmpty then scan
  else { scan with tokens := scan.tokens ++ cjkTerms scan.cjkChars, cjkChars := [] }

def next (scan : Scan) (value : Char) : Scan :=
  if value.isAlphanum then
    let flushed := flushCjkTerms scan
    { flushed with asciiToken := flushed.asciiToken.push value.toLower }
  else
    let flushed := flushAsciiToken scan
    if isCjk value then { flushed with cjkChars := flushed.cjkChars ++ [value] } else flushCjkTerms flushed

end Index

def tokenize (content : String) : List String :=
  let scan := content.toList.foldl Index.next ⟨[], "", []⟩
  (Index.flushCjkTerms (Index.flushAsciiToken scan)).tokens

/-- `filter(|term| seen.insert(term.clone()))`: the first of equal terms stays. -/
def keepUnseen (seen : TermSet) : List String → List String
  | [] => []
  | term :: rest =>
    if term ∈ seen.toList then keepUnseen seen rest else term :: keepUnseen (seen.add term) rest

def lexicalSearchTerms (content : String) : List String := keepUnseen .empty (tokenize content)

/-- The windows of one to six characters. -/
theorem mem_cjkTerms {cjk : List Char} {term : String} : term ∈ cjkTerms cjk ↔
    ∃ window, window <:+: cjk ∧ 1 ≤ window.length ∧ window.length ≤ cjkNgramMax ∧ term = .ofList window := by
  simp only [cjkTerms, ngramSizes, List.mem_append, List.mem_map, List.mem_flatMap, List.mem_range'_1, mem_windows]
  constructor
  · intro listed
    rcases listed with ⟨value, inside, rfl⟩ | ⟨size, bounds, window, ⟨sized, inside⟩, rfl⟩
    · exact ⟨[value], (List.singleton_infix_iff value cjk).mpr inside, Nat.le_refl 1, by simp [cjkNgramMax], rfl⟩
    · exact ⟨window, inside, by omega, by omega, rfl⟩
  · intro listed
    rcases listed with ⟨window, inside, nonempty, bounded, rfl⟩
    have fits : window.length ≤ cjk.length := inside.length_le
    by_cases single : window.length = 1
    · rcases List.length_eq_one_iff.mp single with ⟨value, rfl⟩
      exact .inl ⟨value, (List.singleton_infix_iff value cjk).mp inside, rfl⟩
    · exact .inr ⟨window.length, by omega, window, ⟨rfl, inside⟩, rfl⟩

theorem cjkTerms_quiet : Quiet fun run term => term ∈ cjkTerms run := by
  intro term emitted
  exact absurd emitted (by simp [cjkTerms, ngramSizes])

section Scanning

/-- What both tokenisers know after the characters seen so far: the two buffers hold the open runs and the terms are
those of the runs that have ended. -/
def Scanned (emits : List Char → String → Prop) (seen ascii cjk : List Char) (present : String → Prop) : Prop :=
  ∃ foundAscii foundCjk, RunBuffer Char.isAlphanum emits seen ascii foundAscii ∧
    RunBuffer isCjk (fun run term => term ∈ cjkTerms run) seen cjk foundCjk ∧
    ∀ term, present term ↔ foundAscii term ∨ foundCjk term

variable {emits : List Char → String → Prop} {seen ascii cjk : List Char} {present : String → Prop} {value : Char}

theorem not_cjk_of_alphanum (alphanumeric : value.isAlphanum) : isCjk value = false := by
  have code := alphanum_code alphanumeric
  simp [isCjk]
  omega

theorem Scanned.readAscii (scanned : Scanned emits seen ascii cjk present) (inside : value.isAlphanum) :
    Scanned emits (seen ++ [value]) (ascii ++ [value]) [] fun term => present term ∨ term ∈ cjkTerms cjk := by
  rcases scanned with ⟨foundAscii, foundCjk, asciiRuns, cjkRuns, terms⟩
  refine ⟨_, _, asciiRuns.push inside, cjkRuns.flush cjkTerms_quiet (not_cjk_of_alphanum inside), ?_⟩
  intro term
  change present term ∨ term ∈ cjkTerms cjk ↔ _
  rw [terms, or_assoc]

theorem Scanned.readCjk (scanned : Scanned emits seen ascii cjk present) (quiet : Quiet emits)
    (outside : value.isAlphanum = false) (inside : isCjk value) :
    Scanned emits (seen ++ [value]) [] (cjk ++ [value]) fun term => present term ∨ emits ascii term := by
  rcases scanned with ⟨foundAscii, foundCjk, asciiRuns, cjkRuns, terms⟩
  refine ⟨_, _, asciiRuns.flush quiet outside, cjkRuns.push inside, ?_⟩
  intro term
  change present term ∨ emits ascii term ↔ _
  rw [terms, or_right_comm]

theorem Scanned.readOther (scanned : Scanned emits seen ascii cjk present) (quiet : Quiet emits)
    (outsideAscii : value.isAlphanum = false) (outsideCjk : isCjk value = false) :
    Scanned emits (seen ++ [value]) [] [] fun term => (present term ∨ emits ascii term) ∨ term ∈ cjkTerms cjk := by
  rcases scanned with ⟨foundAscii, foundCjk, asciiRuns, cjkRuns, terms⟩
  refine ⟨_, _, asciiRuns.flush quiet outsideAscii, cjkRuns.flush cjkTerms_quiet outsideCjk, ?_⟩
  intro term
  change (present term ∨ emits ascii term) ∨ term ∈ cjkTerms cjk ↔ _
  rw [terms, @or_right_comm _ (foundCjk term), or_assoc]

theorem Scanned.members (scanned : Scanned emits seen ascii cjk present) : ∀ value ∈ ascii, value.isAlphanum := by
  rcases scanned with ⟨foundAscii, foundCjk, asciiRuns, -, -⟩
  exact asciiRuns.members

theorem Scanned.finish (scanned : Scanned emits seen ascii cjk present) (quiet : Quiet emits) (term : String) :
    (present term ∨ emits ascii term) ∨ term ∈ cjkTerms cjk ↔
      (∃ run, MaximalRun Char.isAlphanum seen run ∧ emits run term) ∨
        ∃ run, MaximalRun isCjk seen run ∧ term ∈ cjkTerms run := by
  rcases scanned with ⟨foundAscii, foundCjk, asciiRuns, cjkRuns, terms⟩
  rw [← asciiRuns.finish quiet, ← cjkRuns.finish cjkTerms_quiet, terms, @or_right_comm _ (foundCjk term), or_assoc]

end Scanning

theorem alphanum_ascii {value : Char} (alphanumeric : value.isAlphanum) : value.toNat ≤ 0x7F :=
  Nat.le_trans (alphanum_code alphanumeric).2 (by decide)

/-- The lower-cased run of at least two characters. -/
def asciiTerm (run : List Char) (term : String) : Prop := 2 ≤ run.length ∧ term = asciiLower (.ofList run)

theorem asciiTerm_quiet : Quiet asciiTerm := by
  intro term emitted
  exact absurd emitted.1 (by simp)

section Query

open Query

def Query.Invariant (seen : List Char) (scan : Query.Scan) : Prop :=
  ∃ buffer, scan.ascii = .ofList buffer ∧ Scanned asciiTerm seen buffer scan.cjk fun term => term ∈ scan.terms.toList

variable {scan : Query.Scan} {buffer : List Char} {term : String}

theorem mem_flushAscii (held : scan.ascii = .ofList buffer) (alphanumeric : ∀ value ∈ buffer, value.isAlphanum) :
    term ∈ (flushAscii scan).terms.toList ↔ term ∈ scan.terms.toList ∨ asciiTerm buffer term := by
  have sized : (String.ofList buffer).utf8ByteSize = buffer.length :=
    utf8ByteSize_ascii fun value inside => alphanum_ascii (alphanumeric value inside)
  rw [flushAscii, held, sized, asciiTerm]
  by_cases long : 2 ≤ buffer.length
  · rw [if_pos long, TermSet.mem_add]
    simp [long]
  · rw [if_neg long]
    simp [long]

theorem flushAscii_cjk : (flushAscii scan).cjk = scan.cjk := rfl

theorem flushCjk_ascii : (flushCjk scan).ascii = scan.ascii := by
  rw [flushCjk]
  split <;> rfl

theorem flushCjk_cjk : (flushCjk scan).cjk = [] := by
  rw [flushCjk]
  split
  · rename_i empty
    exact List.isEmpty_iff.mp empty
  · rfl

theorem mem_flushCjk :
    term ∈ (flushCjk scan).terms.toList ↔ term ∈ scan.terms.toList ∨ term ∈ cjkTerms scan.cjk := by
  rw [flushCjk]
  split
  · rename_i empty
    rw [List.isEmpty_iff] at empty
    rw [empty]
    simp [cjkTerms, ngramSizes]
  · exact TermSet.mem_foldl_add

theorem Query.Invariant.step {seen : List Char} (held : Invariant seen scan) (value : Char) :
    Invariant (seen ++ [value]) (next scan value) := by
  rcases held with ⟨buffer, held, scanned⟩
  have alphanumeric := scanned.members
  rw [next]
  by_cases inside : value.isAlphanum
  · rw [if_pos inside]
    refine ⟨buffer ++ [value], ?_, ?_⟩
    · change (flushCjk scan).ascii.push value = _
      rw [flushCjk_ascii, held]
      exact String.toList_inj.mp (by simp)
    · simpa only [mem_flushCjk, flushCjk_cjk] using scanned.readAscii inside
  · rw [if_neg inside]
    rw [Bool.not_eq_true] at inside
    by_cases cjk : isCjk value
    · rw [if_pos cjk]
      refine ⟨[], rfl, ?_⟩
      simpa only [mem_flushAscii held alphanumeric, flushAscii_cjk] using scanned.readCjk asciiTerm_quiet inside cjk
    · rw [if_neg cjk]
      rw [Bool.not_eq_true] at cjk
      refine ⟨[], flushCjk_ascii, ?_⟩
      simpa only [mem_flushCjk, flushCjk_cjk, mem_flushAscii held alphanumeric, flushAscii_cjk] using
        scanned.readOther asciiTerm_quiet inside cjk

theorem Query.Invariant.run {seen : List Char} (held : Invariant seen scan) (rest : List Char) :
    Invariant (seen ++ rest) (rest.foldl next scan) := by
  induction rest generalizing seen scan with
  | nil => simpa using held
  | cons value rest ih => simpa using ih (held.step value)

end Query

section Index

open Index

/-- The index leaves out the stop words. -/
def tokenTerm (run : List Char) (term : String) : Prop := asciiTerm run term ∧ isStopWord term = false

theorem tokenTerm_quiet : Quiet tokenTerm := by
  intro term emitted
  exact asciiTerm_quiet term emitted.1

def Index.Invariant (seen : List Char) (scan : Index.Scan) : Prop :=
  ∃ buffer, scan.asciiToken = asciiLower (.ofList buffer) ∧
    Scanned tokenTerm seen buffer scan.cjkChars fun term => term ∈ scan.tokens

variable {scan : Index.Scan} {buffer : List Char} {term : String}

/-- A token of the index is the lower-cased run that it was read from. -/
theorem normalizeToken_asciiLower (alphanumeric : ∀ value ∈ buffer, value.isAlphanum) :
    normalizeToken (asciiLower (.ofList buffer)) = some term ↔ tokenTerm buffer term := by
  have lowered : asciiLower (.ofList buffer) = .ofList (buffer.map Char.toLower) :=
    String.toList_inj.mp (by simp [asciiLower])
  have sized : (asciiLower (.ofList buffer)).utf8ByteSize = buffer.length := by
    rw [lowered, utf8ByteSize_ascii, List.length_map]
    intro value inside
    rcases List.mem_map.mp inside with ⟨source, listed, rfl⟩
    exact toLower_ascii (alphanum_ascii (alphanumeric source listed))
  rw [normalizeToken, sized, tokenTerm, asciiTerm]
  by_cases short : buffer.length < 2
  · rw [if_pos (by simp [short])]
    constructor
    · intro none
      cases none
    · intro emitted
      exact absurd emitted.1.1 (by omega)
  · by_cases stop : isStopWord (asciiLower (.ofList buffer))
    · rw [if_pos (by simp [stop])]
      constructor
      · intro none
        cases none
      · intro emitted
        rcases emitted with ⟨⟨-, rfl⟩, allowed⟩
        exact absurd stop (by simp [allowed])
    · rw [if_neg (by simp [short, stop]), Option.some.injEq]
      constructor
      · intro same
        subst term
        exact ⟨⟨by omega, rfl⟩, by simpa using stop⟩
      · intro emitted
        exact emitted.1.2.symm

theorem mem_flushAsciiToken (held : scan.asciiToken = asciiLower (.ofList buffer))
    (alphanumeric : ∀ value ∈ buffer, value.isAlphanum) :
    term ∈ (flushAsciiToken scan).tokens ↔ term ∈ scan.tokens ∨ tokenTerm buffer term := by
  change term ∈ scan.tokens ++ (normalizeToken scan.asciiToken).toList ↔ _
  rw [List.mem_append, Option.mem_toList, held, normalizeToken_asciiLower alphanumeric]

theorem asciiLower_empty : "" = asciiLower (.ofList []) := String.toList_inj.mp (by simp [asciiLower])

theorem flushAsciiToken_cjkChars : (flushAsciiToken scan).cjkChars = scan.cjkChars := rfl

theorem flushCjkTerms_asciiToken : (flushCjkTerms scan).asciiToken = scan.asciiToken := by
  rw [flushCjkTerms]
  split <;> rfl

theorem flushCjkTerms_cjkChars : (flushCjkTerms scan).cjkChars = [] := by
  rw [flushCjkTerms]
  split
  · rename_i empty
    exact List.isEmpty_iff.mp empty
  · rfl

theorem mem_flushCjkTerms :
    term ∈ (flushCjkTerms scan).tokens ↔ term ∈ scan.tokens ∨ term ∈ cjkTerms scan.cjkChars := by
  rw [flushCjkTerms]
  split
  · rename_i empty
    rw [List.isEmpty_iff] at empty
    rw [empty]
    simp [cjkTerms, ngramSizes]
  · exact List.mem_append

theorem Index.Invariant.step {seen : List Char} (held : Invariant seen scan) (value : Char) :
    Invariant (seen ++ [value]) (next scan value) := by
  rcases held with ⟨buffer, held, scanned⟩
  have alphanumeric := scanned.members
  rw [next]
  by_cases inside : value.isAlphanum
  · rw [if_pos inside]
    refine ⟨buffer ++ [value], ?_, ?_⟩
    · change (flushCjkTerms scan).asciiToken.push value.toLower = _
      rw [flushCjkTerms_asciiToken, held]
      exact String.toList_inj.mp (by simp [asciiLower])
    · simpa only [mem_flushCjkTerms, flushCjkTerms_cjkChars] using scanned.readAscii inside
  · rw [if_neg inside]
    rw [Bool.not_eq_true] at inside
    by_cases cjk : isCjk value
    · rw [if_pos cjk]
      refine ⟨[], asciiLower_empty, ?_⟩
      simpa only [mem_flushAsciiToken held alphanumeric, flushAsciiToken_cjkChars] using
        scanned.readCjk tokenTerm_quiet inside cjk
    · rw [if_neg cjk]
      rw [Bool.not_eq_true] at cjk
      refine ⟨[], flushCjkTerms_asciiToken.trans asciiLower_empty, ?_⟩
      simpa only [mem_flushCjkTerms, flushCjkTerms_cjkChars, mem_flushAsciiToken held alphanumeric,
        flushAsciiToken_cjkChars] using scanned.readOther tokenTerm_quiet inside cjk

theorem Index.Invariant.run {seen : List Char} (held : Invariant seen scan) (rest : List Char) :
    Invariant (seen ++ rest) (rest.foldl next scan) := by
  induction rest generalizing seen scan with
  | nil => simpa using held
  | cons value rest ih => simpa using ih (held.step value)

end Index

theorem mem_keepUnseen {seen : TermSet} {terms : List String} {term : String} :
    term ∈ keepUnseen seen terms ↔ term ∈ terms ∧ term ∉ seen.toList := by
  induction terms generalizing seen with
  | nil => simp [keepUnseen]
  | cons head rest ih =>
    rw [keepUnseen, List.mem_cons]
    by_cases known : head ∈ seen.toList
    · rw [if_pos known, ih]
      constructor
      · intro kept
        exact ⟨.inr kept.1, kept.2⟩
      · intro kept
        rcases kept with ⟨rfl | later, unseen⟩
        · exact absurd known unseen
        · exact ⟨later, unseen⟩
    · rw [if_neg known, List.mem_cons, ih, TermSet.mem_add]
      by_cases same : term = head
      · subst term
        simp [known]
      · simp [same]

/-- The terms that a text consists of. -/
def IsLexicalTerm (text term : String) : Prop :=
  (∃ run, MaximalRun Char.isAlphanum text.toList run ∧ 2 ≤ run.length ∧ term = asciiLower (.ofList run)) ∨
    ∃ run window, MaximalRun isCjk text.toList run ∧ window <:+: run ∧ 1 ≤ window.length ∧
      window.length ≤ cjkNgramMax ∧ term = .ofList window

theorem scanned_start (emits : List Char → String → Prop) : Scanned emits [] [] [] fun _ => False :=
  ⟨_, _, .start _ _, .start _ _, by simp⟩

theorem exists_window_iff {text : List Char} {term : String} :
    (∃ run, MaximalRun isCjk text run ∧ term ∈ cjkTerms run) ↔ ∃ run window, MaximalRun isCjk text run ∧
      window <:+: run ∧ 1 ≤ window.length ∧ window.length ≤ cjkNgramMax ∧ term = .ofList window := by
  simp only [mem_cjkTerms, exists_and_left]

theorem mem_retrievalLexicalQueryTerms {query term : String} :
    term ∈ retrievalLexicalQueryTerms query ↔ IsLexicalTerm query term := by
  have initial : Query.Invariant [] ⟨.empty, "", []⟩ := ⟨[], by simp, by simpa [TermSet.toList, SortedMap.empty] using scanned_start asciiTerm⟩
  rcases initial.run query.toList with ⟨buffer, held, scanned⟩
  rw [List.nil_append] at scanned
  rw [retrievalLexicalQueryTerms, mem_flushCjk, mem_flushAscii held scanned.members, flushAscii_cjk,
    scanned.finish asciiTerm_quiet, exists_window_iff]
  rfl

theorem mem_tokenize {content term : String} : term ∈ tokenize content ↔
    (∃ run, MaximalRun Char.isAlphanum content.toList run ∧ tokenTerm run term) ∨
      ∃ run, MaximalRun isCjk content.toList run ∧ term ∈ cjkTerms run := by
  have initial : Index.Invariant [] ⟨[], "", []⟩ := ⟨[], asciiLower_empty, by simpa using scanned_start tokenTerm⟩
  rcases initial.run content.toList with ⟨buffer, held, scanned⟩
  rw [List.nil_append] at scanned
  rw [tokenize, mem_flushCjkTerms, mem_flushAsciiToken held scanned.members, flushAsciiToken_cjkChars,
    scanned.finish tokenTerm_quiet]

theorem stopWord_alphanum {word : String} (stop : isStopWord word) : ∀ value ∈ word.toList, value.isAlphanum := by
  have letters : stopWords.all (fun stopWord => stopWord.toList.all Char.isAlphanum) := by decide
  have listed : word ∈ stopWords := List.contains_iff_mem.mp stop
  exact List.all_eq_true.mp (List.all_eq_true.mp letters word listed)

/-- A window of CJK characters is no English word. -/
theorem not_stopWord_of_window {run window : List Char} (members : ∀ value ∈ run, isCjk value)
    (inside : window <:+: run) (nonempty : 1 ≤ window.length) : isStopWord (.ofList window) = false := by
  cases stop : isStopWord (.ofList window) with
  | false => rfl
  | true =>
    cases window with
    | nil => exact absurd nonempty (by simp)
    | cons first rest =>
      have alphanumeric := stopWord_alphanum stop first (by simp)
      have character := members first (inside.subset List.mem_cons_self)
      rw [not_cjk_of_alphanum alphanumeric] at character
      exact absurd character (by simp)

theorem mem_lexicalSearchTerms {content term : String} :
    term ∈ lexicalSearchTerms content ↔ IsLexicalTerm content term ∧ isStopWord term = false := by
  rw [lexicalSearchTerms, mem_keepUnseen, mem_tokenize, exists_window_iff, IsLexicalTerm]
  constructor
  · intro kept
    rcases kept with ⟨⟨run, maximal, ⟨long, same⟩, allowed⟩ | ⟨run, window, maximal, inside, nonempty, short, same⟩, -⟩
    · exact ⟨.inl ⟨run, maximal, long, same⟩, allowed⟩
    · exact ⟨.inr ⟨run, window, maximal, inside, nonempty, short, same⟩,
        same ▸ not_stopWord_of_window maximal.2.1 inside nonempty⟩
  · intro allowed
    rcases allowed with ⟨⟨run, maximal, long, same⟩ | windowed, allowed⟩
    · exact ⟨.inl ⟨run, maximal, ⟨long, same⟩, allowed⟩, by simp [TermSet.toList, SortedMap.empty]⟩
    · exact ⟨.inr windowed, by simp [TermSet.toList, SortedMap.empty]⟩

/-- Both tokenisers find the lower-cased maximal ASCII runs and the windows of the maximal CJK runs; the index leaves
the stop words out and the query does not. -/
theorem lexical_terms_agree (text : String) :
    (∀ term, term ∈ retrievalLexicalQueryTerms text ↔ IsLexicalTerm text term) ∧
      (∀ term, term ∈ lexicalSearchTerms text ↔ IsLexicalTerm text term ∧ isStopWord term = false) ∧
      (retrievalLexicalQueryTerms text).toFinset \ stopWords.toFinset = (lexicalSearchTerms text).toFinset := by
  refine ⟨fun _ => mem_retrievalLexicalQueryTerms, fun _ => mem_lexicalSearchTerms, ?_⟩
  ext term
  rw [Finset.mem_sdiff, List.mem_toFinset, List.mem_toFinset, List.mem_toFinset, mem_retrievalLexicalQueryTerms,
    mem_lexicalSearchTerms]
  simp [isStopWord]

/-- A stop word is a run of its text, but no term of the index. -/
theorem stop_word_not_indexed :
    ¬ ∀ text term, term ∈ lexicalSearchTerms text ↔ IsLexicalTerm text term := by
  intro exactly
  have absent : "the" ∉ lexicalSearchTerms "the" := by decide
  have maximal : MaximalRun Char.isAlphanum "the".toList "the".toList :=
    ⟨by simp, by simp, [], [], by simp, by simp [EndsOutside], by simp⟩
  exact absent ((exactly "the" "the").mpr (.inl ⟨_, maximal, by simp, by decide +kernel⟩))

end DataMax.Retrieval
