import Mathlib.Data.List.Basic
import Mathlib.Data.List.Infix
import Mathlib.Data.List.TakeWhile

/-! The declarations of a style attribute: what stands between semicolons outside of
strings, comments, escapes, addresses and brackets. -/

namespace DataMax.Library

namespace Style

/-- Where a reader of the tokens stands. The characters of the name that is being read
tell a function from an address. -/
inductive Mode where
  | plain (name : List Char)
  | slash
  | comment (starred : Bool)
  | quoted (quote : Char)
  | quotedEscape (quote : Char) (digitCount : Nat)
  | escape (name digits : List Char)
  | addressStart
  | address
  | addressEscape
  deriving DecidableEq

structure Scanner where
  mode : Mode
  -- The brackets to be closed, the innermost first.
  closers : List Char
  afterReturn : Bool
  deriving DecidableEq

def Scanner.start : Scanner := ⟨.plain [], [], false⟩

def isHexDigit (character : Char) : Bool :=
  character.isDigit || ('a' ≤ character && character ≤ 'f') || ('A' ≤ character && character ≤ 'F')

def isSpace (character : Char) : Bool := [' ', '\t', '\n'].contains character

def isNameChar (character : Char) : Bool := character.isAlphanum || ['_', '-'].contains character || 0x80 ≤ character.toNat

/-- Other line ends and the null character are replaced before anything is read. -/
def normalized (character : Char) : Char :=
  if character = '\r' ∨ character = '\x0C' then '\n' else if character = '\x00' then '\uFFFD' else character

def hexValue (digits : List Char) : Nat := digits.foldl
  (fun value digit => 16 * value + if digit.isDigit then digit.toNat - 0x30 else digit.toLower.toNat - 0x57) 0

/-- The character that the digits of an escape name. -/
def escaped (digits : List Char) : Char :=
  let code := hexValue digits
  if code = 0 ∨ ¬ code.isValidChar then '\uFFFD' else .ofNat code

def closerOf (character : Char) : Option Char :=
  if character = '(' then some ')' else if character = '[' then some ']' else if character = '{' then some '}' else none

/-- A character that belongs to no string, comment, escape or address. -/
def plainStep (name closers : List Char) (character : Char) : Mode × List Char :=
  if character = '"' ∨ character = '\'' then (.quoted character, closers)
  else if character = '/' then (.slash, closers)
  else if character = '\\' then (.escape name [], closers)
  else if character = '(' ∧ name.map Char.toLower = ['u', 'r', 'l'] then (.addressStart, closers)
  else if closers.head? = some character then (.plain [], closers.tail)
  else if character = '#' ∨ character = '@' then (.plain [character], closers)
  else if isNameChar character then (.plain (name ++ [character]), closers)
  else (.plain [], ((closerOf character).toList ++ closers))

def quotedStep (quote : Char) (character : Char) : Mode :=
  if character = quote ∨ character = '\n' then .plain []
  else if character = '\\' then .quotedEscape quote 0
  else .quoted quote

def addressStep (character : Char) : Mode :=
  if character = ')' then .plain [] else if character = '\\' then .addressEscape else .address

def advance (closers : List Char) (character : Char) : Mode → Mode × List Char
  | .plain name => plainStep name closers character
  | .slash => if character = '*' then (.comment false, closers) else plainStep [] closers character
  | .comment starred => (if starred && character = '/' then .plain [] else .comment (character = '*'), closers)
  | .quoted quote => (quotedStep quote character, closers)
  | .quotedEscape quote digitCount =>
    if isHexDigit character ∧ digitCount < 6 then (.quotedEscape quote (digitCount + 1), closers)
    else if digitCount = 0 ∨ isSpace character then (.quoted quote, closers)
    else (quotedStep quote character, closers)
  | .escape name [] =>
    if character = '\n' then (.plain [], closers)
    else if isHexDigit character then (.escape name [character], closers)
    else (.plain (name ++ [character]), closers)
  | .escape name digits =>
    if isHexDigit character ∧ digits.length < 6 then (.escape name (digits ++ [character]), closers)
    else if isSpace character then (.plain (name ++ [escaped digits]), closers)
    else plainStep (name ++ [escaped digits]) closers character
  | .addressStart =>
    if isSpace character then (.addressStart, closers)
    else if character = '"' ∨ character = '\'' then (.quoted character, ')' :: closers)
    else (addressStep character, closers)
  | .address => (addressStep character, closers)
  | .addressEscape => (.address, closers)

/-- A line feed after a carriage return is part of one line end. -/
def step (scanner : Scanner) (character : Char) : Scanner :=
  if character = '\n' ∧ scanner.afterReturn then { scanner with afterReturn := false }
  else
    let (mode, closers) := advance scanner.closers (normalized character) scanner.mode
    ⟨mode, closers, character = '\r'⟩

def Mode.endsToken : Mode → Bool
  | .plain _ => true
  | .slash => true
  | .escape _ digits => !digits.isEmpty
  | _ => false

/-- A semicolon would end the declaration. -/
def Scanner.atTop (scanner : Scanner) : Bool := scanner.mode.endsToken && scanner.closers.isEmpty

def scan (scanner : Scanner) (text : List Char) : Scanner := text.foldl step scanner

/-- What stands between the semicolons, after `current`. -/
def pieces (scanner : Scanner) (current : List Char) : List Char → List (List Char)
  | [] => [current]
  | character :: rest =>
    if character = ';' ∧ scanner.atTop then current :: pieces .start [] rest
    else pieces (step scanner character) (current ++ [character]) rest

theorem pieces_cons (scanner : Scanner) (current : List Char) (character : Char) (rest : List Char) :
    pieces scanner current (character :: rest) =
      if character = ';' ∧ scanner.atTop then current :: pieces .start [] rest
      else pieces (step scanner character) (current ++ [character]) rest := rfl

def isBlank (piece : List Char) : Bool := piece.all fun character => isSpace (normalized character)

/-- Nothing is declared between two semicolons with only blanks between them. -/
def declarations (text : List Char) : List (List Char) := (pieces .start [] text).filter (!isBlank ·)

def propertyName (declaration : List Char) : List Char :=
  ((declaration.takeWhile (· ≠ ':')).filter fun character => !isSpace (normalized character))

section Scanner

variable {scanner : Scanner} {current text rest : List Char} {character : Char}

theorem step_separator (top : scanner.atTop = true) : step scanner ';' = .start := by
  obtain ⟨mode, closers, afterReturn⟩ := scanner
  obtain ⟨ends, empty⟩ := Bool.and_eq_true_iff.mp top
  obtain rfl : closers = [] := List.isEmpty_iff.mp empty
  cases mode with
  | plain name => rfl
  | slash => rfl
  | escape name digits =>
    cases digits with
    | nil => cases ends
    | cons first others => rfl
  | _ => cases ends

theorem scan_cons (scanner : Scanner) (character : Char) (rest : List Char) :
    scan scanner (character :: rest) = scan (step scanner character) rest := rfl

theorem scan_append (scanner : Scanner) (first second : List Char) :
    scan scanner (first ++ second) = scan (scan scanner first) second := List.foldl_append

/-- What comes later is read from where the text ends. -/
theorem pieces_append (scanner : Scanner) (current text rest : List Char) : ∃ before last,
    pieces scanner current text = before ++ [last] ∧
      pieces scanner current (text ++ rest) = before ++ pieces (scan scanner text) last rest := by
  induction text generalizing scanner current with
  | nil => exact ⟨[], current, rfl, rfl⟩
  | cons character others ih =>
    by_cases separates : character = ';' ∧ scanner.atTop = true
    · obtain ⟨before, last, whole, extended⟩ := ih .start []
      refine ⟨current :: before, last, ?_, ?_⟩
      · rw [pieces_cons, if_pos separates, whole, List.cons_append]
      · rw [List.cons_append, pieces_cons, if_pos separates, extended, scan_cons, separates.1, step_separator separates.2,
          List.cons_append]
    · obtain ⟨before, last, whole, extended⟩ := ih (step scanner character) (current ++ [character])
      refine ⟨before, last, ?_, ?_⟩
      · rw [pieces_cons, if_neg separates, whole]
      · rw [List.cons_append, pieces_cons, if_neg separates, extended]
        rfl

/-- The first piece goes on from what was read of it. -/
theorem pieces_head (scanner : Scanner) (current text : List Char) : ∃ more others,
    pieces scanner current text = (current ++ more) :: others := by
  induction text generalizing scanner current with
  | nil => exact ⟨[], [], by rw [pieces, List.append_nil]⟩
  | cons character rest ih =>
    rw [pieces_cons]
    split
    · exact ⟨[], _, by rw [List.append_nil]⟩
    · obtain ⟨more, others, shape⟩ := ih (step scanner character) (current ++ [character])
      exact ⟨character :: more, others, by rw [shape, List.append_assoc, List.singleton_append]⟩

/-- What was read of the first piece can be put in front afterwards. -/
theorem pieces_current (scanner : Scanner) (current text : List Char) : ∃ head tail,
    pieces scanner [] text = head :: tail ∧ pieces scanner current text = (current ++ head) :: tail := by
  have general : ∀ (text lead current : List Char) (scanner : Scanner), ∃ head tail,
      pieces scanner lead text = (lead ++ head) :: tail ∧
        pieces scanner (current ++ lead) text = (current ++ lead ++ head) :: tail := by
    intro text
    induction text with
    | nil => exact fun lead current scanner => ⟨[], [], by simp [pieces], by simp [pieces]⟩
    | cons character rest ih =>
      intro lead current scanner
      rw [pieces_cons, pieces_cons]
      split
      · exact ⟨[], _, by rw [List.append_nil], by rw [List.append_nil]⟩
      · obtain ⟨head, tail, own, longer⟩ := ih (lead ++ [character]) current (step scanner character)
        exact ⟨character :: head, tail, by simpa using own, by simpa using longer⟩
  simpa using general text [] current scanner

/-- A reader that has read nothing but blanks. -/
def Scanner.idle (scanner : Scanner) : Prop := scanner.mode = .plain [] ∧ scanner.closers = []

theorem Scanner.idle.atTop (idle : scanner.idle) : scanner.atTop = true := by
  rw [Scanner.atTop, idle.1, idle.2]
  rfl

theorem step_blank (idle : scanner.idle) (blank : isSpace (normalized character)) : (step scanner character).idle := by
  obtain ⟨mode, closers, afterReturn⟩ := scanner
  obtain ⟨rfl, rfl⟩ : mode = .plain [] ∧ closers = [] := idle
  have quiet : ∀ space, isSpace space → plainStep [] [] space = (.plain [], []) := by
    intro space listed
    simp only [isSpace, List.contains_iff_mem, List.mem_cons, List.not_mem_nil, or_false] at listed
    rcases listed with rfl | rfl | rfl
    · decide
    · decide
    · decide
  rw [step]
  split
  · exact ⟨rfl, rfl⟩
  · rw [advance, quiet _ blank]
    exact ⟨rfl, rfl⟩

theorem idle_of_blank {before : List (List Char)} {last : List Char} (idle : isBlank current = true → scanner.idle)
    (parts : pieces scanner current text = before ++ [last]) (blank : isBlank last = true) :
    (scan scanner text).idle := by
  induction text generalizing scanner current before with
  | nil =>
    have ends : [] ++ [current] = before ++ [last] := parts
    obtain ⟨_, same⟩ := List.append_inj' ends rfl
    exact idle (List.singleton_inj.mp same ▸ blank)
  | cons character rest ih =>
    rw [pieces_cons] at parts
    rw [scan_cons]
    split at parts
    · rename_i separates
      rw [separates.1, step_separator separates.2]
      cases before with
      | nil =>
        obtain ⟨_, empty⟩ := List.cons.inj parts
        obtain ⟨more, others, shape⟩ := pieces_head .start [] rest
        rw [shape] at empty
        cases empty
      | cons first others => exact ih (fun _ => ⟨rfl, rfl⟩) (List.cons.inj parts).2
    · refine ih (fun longer => ?_) parts
      rw [isBlank, List.all_append, Bool.and_eq_true] at longer
      exact step_blank (idle longer.1) (by simpa using longer.2)

/-- A text that ends inside of a declaration ends with something that is not blank. -/
theorem last_visible {before : List (List Char)} {last : List Char} (parts : pieces .start [] text = before ++ [last])
    (inside : (scan .start text).atTop = false) : isBlank last = false := by
  by_contra blank
  rw [Bool.not_eq_false] at blank
  rw [(idle_of_blank (fun _ => ⟨rfl, rfl⟩) parts blank).atTop] at inside
  cases inside

/-- After a text that ends outside the next declarations are read anew. -/
theorem declarations_append (top : (scan .start text).atTop = true) (rest : List Char) :
    declarations (text ++ ';' :: rest) = declarations text ++ declarations rest := by
  obtain ⟨before, last, whole, extended⟩ := pieces_append .start [] text (';' :: rest)
  rw [declarations, extended, pieces_cons, if_pos ⟨rfl, top⟩, declarations, whole, declarations, List.append_cons,
    List.filter_append]

/-- A text whose only declaration is read with a semicolon behind it ends outside. -/
theorem atTop_of_single {declaration : List Char} {others : List (List Char)}
    (first : declarations (text ++ ';' :: rest) = declaration :: others) (single : declarations text = [declaration]) :
    (scan .start text).atTop = true := by
  by_contra within
  rw [Bool.not_eq_true] at within
  obtain ⟨before, last, whole, extended⟩ := pieces_append .start [] text (';' :: rest)
  have visible := last_visible whole within
  rw [declarations, whole, List.filter_append, List.filter_cons_of_pos (by simpa using visible)] at single
  have ends : before.filter (!isBlank ·) ++ [last] = [] ++ [declaration] := single
  obtain ⟨blanks, same⟩ := List.append_inj' ends rfl
  obtain ⟨more, later, shape⟩ := pieces_head (step (scan .start text) ';') (last ++ [';']) rest
  have longer : isBlank (last ++ [';'] ++ more) = false := by
    rw [isBlank, List.all_append, List.all_append, Bool.and_eq_false_iff, Bool.and_eq_false_iff]
    exact .inl (.inl visible)
  rw [declarations, extended, pieces_cons, if_neg (by simp [within]), shape, List.filter_append, blanks, List.nil_append,
    List.filter_cons_of_pos (by simpa using longer)] at first
  have lengths := congrArg List.length ((List.cons.inj first).1.trans (List.singleton_inj.mp same).symm)
  simp at lengths

/-- Parts with semicolons behind them are one declaration each, exactly if each part by
itself is one and ends outside. -/
theorem declarations_parts_iff (parts : List (List Char)) :
    List.Forall₂ (fun part declaration => declarations part = [declaration]) parts
        (declarations (parts.flatMap (· ++ [';']))) ↔
      ∀ part ∈ parts, (scan .start part).atTop = true ∧ ∃ declaration, declarations part = [declaration] := by
  induction parts with
  | nil => exact iff_of_true .nil (by simp)
  | cons part rest ih =>
    have joined : (part :: rest).flatMap (· ++ [';']) = part ++ ';' :: rest.flatMap (· ++ [';']) := by simp
    rw [joined, List.forall_mem_cons, ← ih]
    constructor
    · intro each
      cases shape : declarations (part ++ ';' :: rest.flatMap (· ++ [';'])) with
      | nil =>
        rw [shape] at each
        cases each
      | cons declaration others =>
        rw [shape] at each
        obtain ⟨single, later⟩ := List.forall₂_cons.mp each
        have top := atTop_of_single shape single
        rw [declarations_append top, single] at shape
        have same : declarations (rest.flatMap (· ++ [';'])) = others := (List.cons.inj shape).2
        exact ⟨⟨top, declaration, single⟩, same.symm ▸ later⟩
    · rintro ⟨⟨top, declaration, single⟩, later⟩
      rw [declarations_append top, single]
      exact .cons single later

end Scanner

section Values

variable {label value declaration : List Char} {character : Char}

/-- A text in front of a value that names its property. -/
structure IsLabel (label : List Char) : Prop where
  settled : scan .start label = .start
  whole : pieces .start [] label = [label]
  visible : isBlank label = false
  colon : ':' ∈ label

instance (label : List Char) : Decidable (IsLabel label) :=
  decidable_of_iff (scan .start label = .start ∧ pieces .start [] label = [label] ∧ isBlank label = false ∧ ':' ∈ label)
    ⟨fun ⟨settled, whole, visible, colon⟩ => ⟨settled, whole, visible, colon⟩,
      fun fresh => ⟨fresh.settled, fresh.whole, fresh.visible, fresh.colon⟩⟩

/-- A value without a further declaration: only blanks come after a semicolon in it, and it
ends outside. -/
def isOneValue (value : List Char) : Bool :=
  (scan .start value).atTop && (pieces .start [] value).tail.all isBlank

theorem declarations_labelled (fresh : IsLabel label) (value : List Char) : ∃ head tail,
    pieces .start [] value = head :: tail ∧
      declarations (label ++ value) = (label ++ head) :: tail.filter (!isBlank ·) := by
  obtain ⟨before, last, own, extended⟩ := pieces_append .start [] label value
  obtain ⟨head, tail, shape, longer⟩ := pieces_current .start last value
  have ends : [] ++ [label] = before ++ [last] := fresh.whole.symm.trans own
  obtain ⟨rfl, same⟩ := List.append_inj' ends rfl
  obtain rfl : label = last := List.singleton_inj.mp same
  have kept : isBlank (label ++ head) = false := by
    rw [isBlank, List.all_append, ← isBlank, fresh.visible]
    rfl
  refine ⟨head, tail, shape, ?_⟩
  rw [declarations, extended, fresh.settled, longer, List.nil_append, List.filter_cons_of_pos (by simp [kept])]

/-- A label and a value are one declaration exactly if the value is one value. -/
theorem labelled_iff (fresh : IsLabel label) : ((scan .start (label ++ value)).atTop = true ∧
    ∃ declaration, declarations (label ++ value) = [declaration]) ↔ isOneValue value = true := by
  obtain ⟨head, tail, shape, listed⟩ := declarations_labelled fresh value
  rw [isOneValue, scan_append, fresh.settled, shape, listed, List.tail_cons, Bool.and_eq_true]
  refine and_congr_right fun _ => ?_
  constructor
  · rintro ⟨declaration, single⟩
    have empty := (List.cons.inj single).2
    rw [List.filter_eq_nil_iff] at empty
    rw [List.all_eq_true]
    intro piece inside
    simpa using empty piece inside
  · intro blank
    refine ⟨label ++ head, congrArg _ (List.filter_eq_nil_iff.mpr fun piece inside => ?_)⟩
    simp [List.all_eq_true.mp blank piece inside]

/-- The label names the property. -/
theorem propertyName_labelled (fresh : IsLabel label) (single : declarations (label ++ value) = [declaration]) :
    propertyName declaration = propertyName label := by
  obtain ⟨head, tail, _, listed⟩ := declarations_labelled fresh value
  rw [single] at listed
  have stops : (label.takeWhile (· ≠ ':')).length ≠ label.length := by
    intro same
    have everywhere := (List.takeWhile_prefix (· ≠ ':')).eq_of_length same
    rw [List.takeWhile_eq_self_iff] at everywhere
    simpa using everywhere ':' fresh.colon
  rw [(List.cons.inj listed).1, propertyName, List.takeWhile_append, if_neg stops, propertyName]

/-- Characters that only continue a name or end it. -/
def isQuiet (character : Char) : Bool := character.isAlphanum || character == '.' || character == '-'

theorem step_quiet (quiet : isQuiet character) (name : List Char) : ∃ longer,
    step ⟨.plain name, [], false⟩ character = ⟨.plain longer, [], false⟩ := by
  have others : ∀ other, isQuiet other = false → character ≠ other := by
    rintro other loud rfl
    rw [quiet] at loud
    cases loud
  have same : normalized character = character := by
    rw [normalized, if_neg, if_neg (others _ (by decide))]
    rintro (feed | feed)
    · exact others _ (by decide) feed
    · exact others _ (by decide) feed
  have continued : ∃ longer, plainStep name [] character = (.plain longer, []) := by
    simp only [plainStep, closerOf, others '"' (by decide), others '\'' (by decide), others '/' (by decide),
      others '\\' (by decide), others '(' (by decide), others '[' (by decide), others '{' (by decide),
      others '#' (by decide), others '@' (by decide), or_self, false_and, if_false, List.head?_nil, reduceCtorEq]
    split
    · exact ⟨_, rfl⟩
    · exact ⟨_, rfl⟩
  obtain ⟨longer, continues⟩ := continued
  refine ⟨longer, ?_⟩
  rw [step, if_neg (by simp), same, advance, continues, decide_eq_false (others '\r' (by decide))]

/-- A value of quiet characters is one value. -/
theorem isOneValue_quiet (quiet : ∀ character ∈ value, isQuiet character) : isOneValue value = true := by
  have passes : ∀ (text name current : List Char), (∀ character ∈ text, isQuiet character) →
      (∃ longer, scan ⟨.plain name, [], false⟩ text = ⟨.plain longer, [], false⟩) ∧
        pieces ⟨.plain name, [], false⟩ current text = [current ++ text] := by
    intro text
    induction text with
    | nil => exact fun name current _ => ⟨⟨name, rfl⟩, by rw [pieces, List.append_nil]⟩
    | cons character rest ih =>
      intro name current quiet
      obtain ⟨longer, continues⟩ := step_quiet (quiet character List.mem_cons_self) name
      obtain ⟨ends, whole⟩ := ih longer (current ++ [character]) fun other later =>
        quiet other (List.mem_cons_of_mem _ later)
      have bare : character ≠ ';' := by
        rintro rfl
        exact absurd (quiet ';' List.mem_cons_self) (by decide)
      rw [scan_cons, pieces_cons, if_neg fun separates => bare separates.1, continues, whole]
      exact ⟨ends, by simp⟩
  obtain ⟨⟨longer, ends⟩, whole⟩ := passes value [] [] quiet
  rw [isOneValue, Scanner.start, ends, whole]
  rfl

end Values

end Style

end DataMax.Library
