import DataMax.Domain.Decoding
import DataMax.Ingest.Markup

/-! The strings between parentheses that a PDF file shows, with their escapes. -/

namespace DataMax.Ingest

open Domain

section Source

def backslash : UInt8 := 0x5C

def openParenthesis : UInt8 := 0x28

def closeParenthesis : UInt8 := 0x29

def lineFeed : UInt8 := 0x0A

def carriageReturn : UInt8 := 0x0D

def isOctalDigit (byte : UInt8) : Bool := 0x30 ≤ byte && byte ≤ 0x37

/-- As many digits as there are, up to a count; their value, and what follows. -/
def takeOctal : (count value : Nat) → List UInt8 → Nat × List UInt8
  | count + 1, value, byte :: rest =>
    if isOctalDigit byte then takeOctal count (value * 8 + (byte.toNat - 0x30)) rest else (value, byte :: rest)
  | _, value, rest => (value, rest)

theorem length_takeOctal (count value : Nat) (bytes : List UInt8) :
    (takeOctal count value bytes).2.length ≤ bytes.length := by
  induction bytes generalizing count value with
  | nil => cases count <;> exact Nat.le_refl _
  | cons byte rest ih =>
    cases count with
    | zero => exact Nat.le_refl _
    | succ count =>
      rw [takeOctal]
      split
      · exact Nat.le_trans (ih _ _) (Nat.le_succ _)
      · exact Nat.le_refl _

/-- What an escaped byte stands for. -/
def unescaped (byte : UInt8) : UInt8 :=
  if byte = 0x6E then lineFeed
  else if byte = 0x72 then lineFeed
  else if byte = 0x74 then 0x09
  else if byte = 0x62 then 0x08
  else if byte = 0x66 then 0x0C
  else byte

def skipLineFeed (bytes : List UInt8) : List UInt8 := if bytes.head? = some lineFeed then bytes.tail else bytes

/-- The bytes up to the parenthesis that closes the literal, and what follows it. -/
def decodeLiteral (depth : Nat) (output : List UInt8) : List UInt8 → Option (List UInt8 × List UInt8)
  | [] => none
  | byte :: rest =>
    if byte = backslash then match rest with
      | [] => none
      | escape :: after =>
        if isOctalDigit escape then
          let octal := takeOctal 2 (escape.toNat - 0x30) after
          have _shorter := length_takeOctal 2 (escape.toNat - 0x30) after
          decodeLiteral depth (output ++ [.ofNat (min octal.1 0xFF)]) octal.2
        else if escape = carriageReturn then
          have _shorter : (skipLineFeed after).length ≤ after.length := by
            rw [skipLineFeed]
            split <;> simp
          decodeLiteral depth output (skipLineFeed after)
        else if escape = lineFeed then decodeLiteral depth output after
        else decodeLiteral depth (output ++ [unescaped escape]) after
    else if byte = openParenthesis then decodeLiteral (depth + 1) (output ++ [byte]) rest
    else if byte = closeParenthesis then
      if depth = 1 then some (output, rest) else decodeLiteral (depth - 1) (output ++ [byte]) rest
    else decodeLiteral depth (output ++ [byte]) rest
termination_by bytes => bytes.length

def decodePdfStringBytes (bytes : List UInt8) : String :=
  if bytes.take 2 = [0xFE, 0xFF] ∧ 2 < bytes.length then
    (fromUtf16 (bigEndianPairs (bytes.drop 2))).getD (fromUtf8Lossy bytes)
  else fromUtf8Lossy bytes

/-- The text of the literal that begins at `start`, and the position after it. -/
def decodePdfLiteralAt (bytes : List UInt8) (start : Nat) : Option (String × Nat) :=
  (decodeLiteral 1 [] (bytes.drop (start + 1))).map fun decoded =>
    (decodePdfStringBytes decoded.1, bytes.length - decoded.2.length)

/-- What is left is what follows the parenthesis. -/
theorem length_decodeLiteral {depth : Nat} {output bytes decoded rest : List UInt8}
    (found : decodeLiteral depth output bytes = some (decoded, rest)) : rest.length < bytes.length := by
  fun_induction decodeLiteral depth output bytes with
  | case1 | case2 => cases found
  | case3 depth output escape after octalEscape octal shorter ih =>
    have later := ih found
    have digits : octal.2.length ≤ after.length := shorter
    simp only [List.length_cons]
    omega
  | case4 depth output after shorter notOctal ih =>
    have later := ih found
    simp only [List.length_cons]
    omega
  | case8 =>
    cases found
    exact Nat.lt_succ_self _
  | case5 | case6 | case7 | case9 | case10 =>
    rename_i ih
    have later := ih found
    simp only [List.length_cons]
    omega

theorem decodePdfLiteralAt_position {bytes : List UInt8} {start next : Nat} {text : String}
    (found : decodePdfLiteralAt bytes start = some (text, next)) : start < next ∧ next ≤ bytes.length := by
  obtain ⟨⟨decoded, rest⟩, read, same⟩ := Option.map_eq_some_iff.mp found
  have left := length_decodeLiteral read
  rw [List.length_drop] at left
  obtain ⟨-, rfl⟩ := Prod.mk.injEq .. ▸ same
  dsimp only
  omega

end Source

section Extraction

-- `char::is_alphanumeric`
variable (isAlphanumeric : Char → Bool)

def isAsciiPunctuation (ch : Char) : Bool :=
  let code := ch.toNat
  (0x21 ≤ code && code ≤ 0x2F) || (0x3A ≤ code && code ≤ 0x40) || (0x5B ≤ code && code ≤ 0x60) ||
    (0x7B ≤ code && code ≤ 0x7E)

def isProbablyPdfTextLiteral (text : String) : Bool :=
  let trimmed := (trim text).toList
  let meaningful := (trimmed.filter fun ch => isAlphanumeric ch || isAsciiPunctuation ch).length
  4 ≤ trimmed.length && 4 ≤ meaningful && trimmed.head? ≠ some '/'

/-- The literal at the cursor, and where the reading goes on. -/
def literalAt (bytes : List UInt8) (cursor : Nat) : Option String × Nat :=
  if bytes[cursor]? = some openParenthesis then match decodePdfLiteralAt bytes cursor with
    | some (literal, next) =>
      let tail := fromUtf8Lossy ((bytes.drop next).take 48)
      let shown := contains tail "Tj" || contains tail "TJ" || isProbablyPdfTextLiteral isAlphanumeric literal
      (if shown then some literal else none, next)
    | none => (none, cursor + 1)
  else (none, cursor + 1)

/-- The reading gets on, and does not go past the end. -/
theorem literalAt_progress {bytes : List UInt8} {cursor : Nat} (inside : cursor < bytes.length) :
    cursor < (literalAt isAlphanumeric bytes cursor).2 ∧
      (literalAt isAlphanumeric bytes cursor).2 ≤ bytes.length := by
  rw [literalAt]
  split
  · split
    · rename_i literal next found
      exact decodePdfLiteralAt_position found
    · exact ⟨Nat.lt_succ_self cursor, inside⟩
  · exact ⟨Nat.lt_succ_self cursor, inside⟩

def literalsFrom (bytes : List UInt8) (cursor : Nat) : List String :=
  if inside : cursor < bytes.length then
    have _progress := literalAt_progress isAlphanumeric inside
    (literalAt isAlphanumeric bytes cursor).1.toList ++ literalsFrom bytes (literalAt isAlphanumeric bytes cursor).2
  else []
termination_by bytes.length - cursor

def extractPdfLiteralText (bytes : List UInt8) : Option String :=
  normalizeExtractedText ("\n".intercalate (literalsFrom isAlphanumeric bytes 0))

end Extraction

section Literals

def octalValue (digits : List UInt8) : Nat := digits.foldl (fun value digit => value * 8 + (digit.toNat - 0x30)) 0

/-- The letters of escapes, with what they stand for. -/
def escapeLetters : List (UInt8 × UInt8) :=
  [(0x6E, lineFeed), (0x72, carriageReturn), (0x74, 0x09), (0x62, 0x08), (0x66, 0x0C),
    (openParenthesis, openParenthesis), (closeParenthesis, closeParenthesis), (backslash, backslash)]

/-- A string of bytes, and what may stand for it between the parentheses of a literal. -/
inductive Written : List UInt8 → List UInt8 → Prop where
  | nil : Written [] []
  | raw {byte : UInt8} {text literal : List UInt8} (plain : byte ∉ [backslash, openParenthesis, closeParenthesis])
      (later : Written text literal) : Written (byte :: text) (byte :: literal)
  | balanced {inside written text literal : List UInt8} (inner : Written inside written)
      (later : Written text literal) : Written (openParenthesis :: (inside ++ closeParenthesis :: text))
        (openParenthesis :: (written ++ closeParenthesis :: literal))
  | escaped {letter byte : UInt8} {text literal : List UInt8} (meant : (letter, byte) ∈ escapeLetters)
      (later : Written text literal) : Written (byte :: text) (backslash :: letter :: literal)
  /-- The backslash before another byte is ignored. -/
  | ignored {byte : UInt8} {text literal : List UInt8} (noDigit : isOctalDigit byte = false)
      (noLetter : byte ∉ [lineFeed, carriageReturn, 0x6E, 0x72, 0x74, 0x62, 0x66]) (later : Written text literal) :
      Written (byte :: text) (backslash :: byte :: literal)
  | octal {byte first : UInt8} {digits text literal : List UInt8}
      (each : ∀ digit ∈ first :: digits, isOctalDigit digit) (short : digits.length ≤ 2)
      (value : octalValue (first :: digits) = byte.toNat)
      (ended : digits.length = 2 ∨ ∀ next ∈ literal.head?, isOctalDigit next = false) (later : Written text literal) :
      Written (byte :: text) (backslash :: first :: (digits ++ literal))
  | continued {text literal : List UInt8} (later : Written text literal) :
      Written text (backslash :: lineFeed :: literal)
  | continuedReturn {text literal : List UInt8} (apart : literal.head? ≠ some lineFeed)
      (later : Written text literal) : Written text (backslash :: carriageReturn :: literal)
  | continuedBoth {text literal : List UInt8} (later : Written text literal) :
      Written text (backslash :: carriageReturn :: lineFeed :: literal)

variable {text literal inside written output tail digits rest : List UInt8} {byte letter first : UInt8}
  {depth count value : Nat}

theorem decode_raw (plain : byte ∉ [backslash, openParenthesis, closeParenthesis]) :
    decodeLiteral depth output (byte :: rest) = decodeLiteral depth (output ++ [byte]) rest := by
  simp only [List.mem_cons, List.not_mem_nil, or_false, not_or] at plain
  rw [decodeLiteral.eq_def]
  dsimp only
  rw [if_neg plain.1, if_neg plain.2.1, if_neg plain.2.2]

theorem decode_open : decodeLiteral depth output (openParenthesis :: rest) =
    decodeLiteral (depth + 1) (output ++ [openParenthesis]) rest := by
  rw [decodeLiteral.eq_def]
  dsimp only
  rw [if_neg (by decide), if_pos rfl]

theorem decode_close (inner : depth ≠ 1) : decodeLiteral depth output (closeParenthesis :: rest) =
    decodeLiteral (depth - 1) (output ++ [closeParenthesis]) rest := by
  rw [decodeLiteral.eq_def]
  dsimp only
  rw [if_neg (by decide), if_neg (by decide), if_pos rfl, if_neg inner]

theorem decode_last : decodeLiteral 1 output (closeParenthesis :: rest) = some (output, rest) := by
  rw [decodeLiteral.eq_def]
  dsimp only
  rw [if_neg (by decide), if_neg (by decide), if_pos rfl, if_pos rfl]

theorem decode_escape (noDigit : isOctalDigit letter = false) (noReturn : letter ≠ carriageReturn)
    (noFeed : letter ≠ lineFeed) : decodeLiteral depth output (backslash :: letter :: rest) =
      decodeLiteral depth (output ++ [unescaped letter]) rest := by
  rw [decodeLiteral, if_pos rfl]
  simp only [noDigit, Bool.false_eq_true, if_false, noReturn, noFeed]

theorem decode_continued : decodeLiteral depth output (backslash :: lineFeed :: rest) =
    decodeLiteral depth output rest := by
  rw [decodeLiteral, if_pos rfl]
  rfl

theorem decode_continuedReturn : decodeLiteral depth output (backslash :: carriageReturn :: rest) =
    decodeLiteral depth output (skipLineFeed rest) := by
  rw [decodeLiteral, if_pos rfl]
  rfl

/-- Digits are read up to the last one that belongs to the escape. -/
theorem takeOctal_digits (each : ∀ digit ∈ digits, isOctalDigit digit) (short : digits.length ≤ count)
    (ended : digits.length = count ∨ ∀ next ∈ rest.head?, isOctalDigit next = false) :
    takeOctal count value (digits ++ rest) =
      (digits.foldl (fun value digit => value * 8 + (digit.toNat - 0x30)) value, rest) := by
  induction digits generalizing count value with
  | nil =>
    cases count with
    | zero => cases rest <;> rfl
    | succ count =>
      cases rest with
      | nil => rfl
      | cons next later =>
        have stop := (ended.resolve_left (by simp)) next rfl
        rw [List.nil_append, takeOctal, if_neg (Bool.eq_false_iff.mp stop)]
        rfl
  | cons digit digits ih =>
    obtain ⟨here, later⟩ := List.forall_mem_cons.mp each
    cases count with
    | zero => cases short
    | succ count =>
      rw [List.cons_append, takeOctal, if_pos here]
      exact ih later (Nat.le_of_succ_le_succ short) (ended.imp_left Nat.succ.inj)

theorem decode_octal (each : ∀ digit ∈ first :: digits, isOctalDigit digit) (short : digits.length ≤ 2)
    (meant : octalValue (first :: digits) = byte.toNat)
    (ended : digits.length = 2 ∨ ∀ next ∈ rest.head?, isOctalDigit next = false) :
    decodeLiteral depth output (backslash :: first :: (digits ++ rest)) =
      decodeLiteral depth (output ++ [byte]) rest := by
  obtain ⟨here, later⟩ := List.forall_mem_cons.mp each
  have small := byte.toNat_lt
  have value : digits.foldl (fun value digit => value * 8 + (digit.toNat - 0x30)) (first.toNat - 0x30) =
      byte.toNat := by
    rw [← meant, octalValue, List.foldl_cons, Nat.zero_mul, Nat.zero_add]
  have least : min byte.toNat 0xFF = byte.toNat := Nat.min_eq_left (by omega)
  rw [decodeLiteral, if_pos rfl]
  simp only [here, if_true, takeOctal_digits later short ended, value, least, UInt8.ofNat_toNat]

/-- The letters mean what they stand for, but for the carriage return. -/
theorem unescaped_letter (meant : (letter, byte) ∈ escapeLetters) (noReturn : byte ≠ carriageReturn) :
    isOctalDigit letter = false ∧ letter ≠ carriageReturn ∧ letter ≠ lineFeed ∧ unescaped letter = byte := by
  have letters : (escapeLetters.all fun entry => entry.2 = carriageReturn ∨ (isOctalDigit entry.1 = false ∧
      entry.1 ≠ carriageReturn ∧ entry.1 ≠ lineFeed ∧ unescaped entry.1 = entry.2)) = true := by decide
  exact (of_decide_eq_true (List.all_eq_true.mp letters _ meant)).resolve_left noReturn

/-- What is written is decoded up to the next parenthesis that closes. -/
theorem decode_written (written : Written text literal) (noReturn : carriageReturn ∉ text) (deep : 1 ≤ depth) :
    decodeLiteral depth output (literal ++ closeParenthesis :: tail) =
      decodeLiteral depth (output ++ text) (closeParenthesis :: tail) := by
  induction written generalizing depth output tail with
  | nil => rw [List.append_nil]; rfl
  | raw plain later ih =>
    rw [List.cons_append, decode_raw plain, ih (fun inside => noReturn (List.mem_cons_of_mem _ inside)) deep,
      List.append_assoc, List.singleton_append]
  | @balanced inside written text literal inner later ihInner ihLater =>
    have inside : carriageReturn ∉ inside := fun listed => noReturn (by simp [listed])
    have outside : carriageReturn ∉ text := fun listed => noReturn (by simp [listed])
    rw [List.cons_append, List.append_assoc, List.cons_append, decode_open, ihInner inside (Nat.le_add_left ..),
      decode_close (by omega), Nat.add_sub_cancel, ihLater outside deep]
    simp
  | escaped meant later ih =>
    obtain ⟨noDigit, letterReturn, letterFeed, same⟩ := unescaped_letter meant fun equal => noReturn (by simp [equal])
    rw [List.cons_append, List.cons_append, decode_escape noDigit letterReturn letterFeed, same,
      ih (fun inside => noReturn (List.mem_cons_of_mem _ inside)) deep, List.append_assoc, List.singleton_append]
  | ignored noDigit noLetter later ih =>
    simp only [List.mem_cons, List.not_mem_nil, or_false, not_or] at noLetter
    obtain ⟨noFeed, notReturn, n, r, t, b, f⟩ := noLetter
    rw [List.cons_append, List.cons_append, decode_escape noDigit notReturn noFeed, unescaped, if_neg n, if_neg r,
      if_neg t, if_neg b, if_neg f, ih (fun inside => noReturn (List.mem_cons_of_mem _ inside)) deep,
      List.append_assoc, List.singleton_append]
  | @octal byte first digits text literal each short value ended later ih =>
    have stops : digits.length = 2 ∨
        ∀ next ∈ (literal ++ closeParenthesis :: tail).head?, isOctalDigit next = false := by
      refine ended.imp_right fun ends => ?_
      cases literal with
      | nil =>
        intro next same
        obtain rfl := Option.some.inj same
        decide
      | cons => exact ends
    rw [List.cons_append, List.cons_append, List.append_assoc, decode_octal each short value stops,
      ih (fun inside => noReturn (List.mem_cons_of_mem _ inside)) deep, List.append_assoc, List.singleton_append]
  | continued later ih => rw [List.cons_append, List.cons_append, decode_continued, ih noReturn deep]
  | @continuedReturn text literal apart later ih =>
    have kept : skipLineFeed (literal ++ closeParenthesis :: tail) = literal ++ closeParenthesis :: tail := by
      rw [skipLineFeed]
      apply if_neg
      cases literal with
      | nil => simp [closeParenthesis, lineFeed]
      | cons => simpa using apart
    rw [List.cons_append, List.cons_append, decode_continuedReturn, kept, ih noReturn deep]
  | continuedBoth later ih =>
    rw [List.cons_append, List.cons_append, List.cons_append, decode_continuedReturn, skipLineFeed,
      if_pos List.head?_cons, List.tail_cons, ih noReturn deep]

/-- A cursor that gets on and does not pass the end comes to the end. -/
theorem rounds_to_end {last : Nat} {next : Nat → Nat}
    (progress : ∀ cursor, cursor < last → cursor < next cursor ∧ next cursor ≤ last) (cursor : Nat)
    (inside : cursor ≤ last) : ∃ rounds, rounds ≤ last - cursor ∧ next^[rounds] cursor = last := by
  induction left : last - cursor using Nat.strong_induction_on generalizing cursor with
  | _ left ih =>
    rcases Nat.lt_or_eq_of_le inside with before | same
    · obtain ⟨further, within⟩ := progress cursor before
      obtain ⟨rounds, few, ends⟩ := ih (last - next cursor) (by omega) (next cursor) within rfl
      exact ⟨rounds + 1, by omega, ends⟩
    · exact ⟨0, Nat.zero_le _, same⟩

/-- A literal decodes to the string that is written in it, whatever follows; and where anything is decoded
the position gets on. -/
theorem pdf_literal_decodes :
    (∀ before text literal after, Written text literal → carriageReturn ∉ text →
      decodePdfLiteralAt (before ++ openParenthesis :: (literal ++ closeParenthesis :: after)) before.length =
        some (decodePdfStringBytes text, before.length + literal.length + 2)) ∧
    (∀ bytes start text next, decodePdfLiteralAt bytes start = some (text, next) →
      start < next ∧ next ≤ bytes.length) ∧
    ∀ isAlphanumeric bytes, ∃ rounds, rounds ≤ bytes.length ∧
      (fun cursor => (literalAt isAlphanumeric bytes cursor).2)^[rounds] 0 = bytes.length := by
  refine ⟨?_, fun bytes start text next => decodePdfLiteralAt_position, ?_⟩
  · intro before text literal after written noReturn
    have content : (before ++ openParenthesis :: (literal ++ closeParenthesis :: after)).drop (before.length + 1) =
        literal ++ closeParenthesis :: after := by
      rw [← List.drop_drop, List.drop_left, List.drop_succ_cons, List.drop_zero]
    rw [decodePdfLiteralAt, content, decode_written written noReturn (Nat.le_refl 1), List.nil_append, decode_last,
      Option.map_some]
    simp
    omega
  · intro isAlphanumeric bytes
    exact rounds_to_end (fun cursor inside => literalAt_progress isAlphanumeric inside) 0 (Nat.zero_le _)

end Literals

end DataMax.Ingest
