import Mathlib.Data.List.Basic

/-! SQL text as a server reads it: words and numbers, names between backquotes, literals between quotes,
and single symbols. A comment would begin with one of the symbols `#`, `-` and `/`. -/

namespace DataMax.Library

inductive SqlToken where
  | word (text : List Char)
  | name (text : List Char)
  | literal (text : List Char)
  | symbol (char : Char)
  deriving DecidableEq

/-- Where in a statement the reader is, with what it has read of the current token. A closed name or
literal goes on when the quote comes twice. -/
inductive SqlMode where
  | outside
  | inWord (text : List Char)
  | inName (text : List Char)
  | nameClosed (text : List Char)
  | inLiteral (text : List Char)
  | escaped (text : List Char)
  | literalClosed (text : List Char)

def isWordChar (char : Char) : Bool := char.isAlphanum || char == '_'

namespace SqlMode

/-- The first character of a token. -/
def start (char : Char) : SqlMode × List SqlToken :=
  if char = '`' then (.inName [], [])
  else if char = '\'' then (.inLiteral [], [])
  else if isWordChar char then (.inWord [char], [])
  else if char.isWhitespace then (.outside, [])
  else (.outside, [.symbol char])

/-- The token that the text ends with; none where it ends between quotes. -/
def pending : SqlMode → Option (List SqlToken)
  | outside => some []
  | inWord text => some [.word text]
  | nameClosed text => some [.name text]
  | literalClosed text => some [.literal text]
  | inName _ | inLiteral _ | escaped _ => none

def startAfter (token : SqlToken) (char : Char) : SqlMode × List SqlToken :=
  ((start char).1, token :: (start char).2)

def step (char : Char) : SqlMode → SqlMode × List SqlToken
  | outside => start char
  | inWord text => if isWordChar char then (.inWord (text ++ [char]), []) else startAfter (.word text) char
  | inName text => if char = '`' then (.nameClosed text, []) else (.inName (text ++ [char]), [])
  | nameClosed text => if char = '`' then (.inName (text ++ [char]), []) else startAfter (.name text) char
  | inLiteral text =>
    if char = '\'' then (.literalClosed text, [])
    else if char = '\\' then (.escaped text, [])
    else (.inLiteral (text ++ [char]), [])
  | escaped text => (.inLiteral (text ++ [char]), [])
  | literalClosed text => if char = '\'' then (.inLiteral (text ++ [char]), []) else startAfter (.literal text) char

/-- The mode after a text, and the tokens that ended in it. -/
def after (mode : SqlMode) : List Char → SqlMode × List SqlToken
  | [] => (mode, [])
  | char :: rest => ((after (step char mode).1 rest).1, (step char mode).2 ++ (after (step char mode).1 rest).2)

/-- The tokens of the text, unless it ends between quotes. -/
def finished (mode : SqlMode) (text : List Char) : Option (List SqlToken) :=
  (mode.after text).1.pending.map ((mode.after text).2 ++ ·)

end SqlMode

open SqlMode

def readSql (text : String) : Option (List SqlToken) := SqlMode.outside.finished text.toList

/-- A character that ends a token and begins none with a quote. -/
def separates (char : Char) : Bool := !isWordChar char && char != '`' && char != '\''

/-- The text begins with a separator. -/
def opens (text : String) : Bool := text.toList.head?.any separates

/-- The text ends with a separator. -/
def closes (text : String) : Bool := text.toList.getLast?.any separates

/-- The tokens of a text whose quotes are closed. -/
def sqlTokens (text : String) : List SqlToken := (readSql text).getD []

/-- The quotes of the text are closed. -/
def IsWhole (text : String) : Prop := (readSql text).isSome

section Reading

variable {mode : SqlMode} {first second : List Char} {tokens others waiting : List SqlToken} {char : Char}

theorem after_append (mode : SqlMode) (first second : List Char) :
    mode.after (first ++ second) =
      (((mode.after first).1.after second).1, (mode.after first).2 ++ ((mode.after first).1.after second).2) := by
  induction first generalizing mode with
  | nil => rfl
  | cons char rest ih => rw [List.cons_append, SqlMode.after, ih, SqlMode.after, List.append_assoc]

theorem finished_append (mode : SqlMode) (first second : List Char) :
    mode.finished (first ++ second) =
      ((mode.after first).1.finished second).map ((mode.after first).2 ++ ·) := by
  rw [finished, after_append, finished, Option.map_map]
  congr 1
  funext last
  exact List.append_assoc ..

theorem finished_cons (mode : SqlMode) (char : Char) (rest : List Char) :
    mode.finished (char :: rest) = ((mode.step char).1.finished rest).map ((mode.step char).2 ++ ·) :=
  finished_append mode [char] rest |>.trans (by rw [SqlMode.after, SqlMode.after, List.append_nil])

theorem start_separator (separator : separates char) : (start char).1 = .outside := by
  simp only [separates, Bool.and_eq_true, Bool.not_eq_true', bne_iff_ne] at separator
  obtain ⟨⟨plain, unquoted⟩, bare⟩ := separator
  rw [start, if_neg unquoted, if_neg bare, plain, if_neg Bool.false_ne_true]
  split <;> rfl

/-- A separator ends the token that is waiting. -/
theorem step_separator (settled : mode.pending = some waiting) (separator : separates char) :
    mode.step char = (.outside, waiting ++ (start char).2) := by
  have outside := start_separator separator
  simp only [separates, Bool.and_eq_true, Bool.not_eq_true', bne_iff_ne] at separator
  obtain ⟨⟨plain, unquoted⟩, bare⟩ := separator
  cases mode with
  | outside =>
    cases settled
    exact Prod.ext outside rfl
  | inWord text =>
    cases settled
    rw [step, plain, if_neg Bool.false_ne_true, startAfter, outside, List.singleton_append]
  | nameClosed text =>
    cases settled
    rw [step, if_neg unquoted, startAfter, outside, List.singleton_append]
  | literalClosed text =>
    cases settled
    rw [step, if_neg bare, startAfter, outside, List.singleton_append]
  | inName text | inLiteral text | escaped text => cases settled

/-- Nothing settles on a separator but what lies outside. -/
theorem unsettled_separator (unsettled : mode.pending = none) (separator : separates char) :
    (mode.step char).1.pending = none := by
  simp only [separates, Bool.and_eq_true, Bool.not_eq_true', bne_iff_ne] at separator
  obtain ⟨⟨plain, unquoted⟩, bare⟩ := separator
  cases mode with
  | inName text =>
    rw [step, if_neg unquoted]
    rfl
  | inLiteral text =>
    rw [step, if_neg bare]
    split <;> rfl
  | escaped text => rfl
  | outside | inWord text | nameClosed text | literalClosed text => cases unsettled

theorem finished_settled (settled : mode.pending = some waiting) (free : second.head?.any separates) :
    mode.finished second = (SqlMode.outside.finished second).map (waiting ++ ·) := by
  cases second with
  | nil => cases free
  | cons char rest =>
    rw [finished_cons, finished_cons, step_separator settled free, step_separator rfl free, Option.map_map]
    congr 1
    funext last
    exact List.append_assoc ..

theorem after_separated (read : SqlMode.outside.finished first = some tokens) (free : first.getLast?.any separates) :
    (SqlMode.outside.after first).1 = .outside := by
  have filled : first ≠ [] := by
    rintro rfl
    cases free
  obtain ⟨front, last, rfl⟩ := List.eq_nil_or_concat first |>.resolve_left filled
  rw [List.concat_eq_append] at read free ⊢
  rw [List.getLast?_append, List.getLast?_singleton, Option.some_or, Option.any_some] at free
  have ended : (SqlMode.outside.after (front ++ [last])).1 = ((SqlMode.outside.after front).1.step last).1 := by
    rw [after_append, SqlMode.after, SqlMode.after]
  rw [ended]
  cases settled : (SqlMode.outside.after front).1.pending with
  | some waiting => rw [step_separator settled free]
  | none =>
    rw [finished, ended, unsettled_separator settled free] at read
    cases read

/-- Two texts that meet without a token across read as one after the other. -/
theorem readSql_append {first second : String} (read : readSql first = some tokens)
    (next : readSql second = some others) (met : closes first || opens second) :
    readSql (first ++ second) = some (tokens ++ others) := by
  rw [readSql] at read next ⊢
  rw [String.toList_append, finished_append]
  have settled : (SqlMode.outside.after first.toList).1.finished second.toList =
      (SqlMode.outside.finished second.toList).bind fun rest =>
        (SqlMode.outside.after first.toList).1.pending.map (· ++ rest) := by
    rw [finished] at read
    obtain ⟨waiting, pending, _⟩ := Option.map_eq_some_iff.mp read
    rw [pending, next]
    rcases Bool.or_eq_true_iff.mp met with before | behind
    · rw [after_separated read before] at pending ⊢
      cases pending
      exact next
    · rw [finished_settled pending behind, next]
      rfl
  rw [settled, next, Option.bind_some, Option.map_map]
  rw [finished] at read
  obtain ⟨waiting, pending, rfl⟩ := Option.map_eq_some_iff.mp read
  rw [pending, Option.map_some, Function.comp_apply, List.append_assoc]

theorem readSql_whole {text : String} (whole : IsWhole text) : readSql text = some (sqlTokens text) := by
  obtain ⟨tokens, read⟩ := Option.isSome_iff_exists.mp whole
  rw [sqlTokens, read, Option.getD_some]

theorem isWhole_append {first second : String} (whole : IsWhole first) (also : IsWhole second)
    (met : closes first || opens second) : IsWhole (first ++ second) := by
  rw [IsWhole, readSql_append (readSql_whole whole) (readSql_whole also) met, Option.isSome_some]

theorem sqlTokens_append {first second : String} (whole : IsWhole first) (also : IsWhole second)
    (met : closes first || opens second) : sqlTokens (first ++ second) = sqlTokens first ++ sqlTokens second := by
  rw [sqlTokens, readSql_append (readSql_whole whole) (readSql_whole also) met, Option.getD_some]

theorem opens_append {first second : String} (opened : opens first) : opens (first ++ second) := by
  rw [opens, Option.any_eq_true] at opened ⊢
  obtain ⟨char, starts, free⟩ := opened
  refine ⟨char, ?_, free⟩
  rw [String.toList_append, List.head?_append, starts, Option.some_or]

theorem after_inName (text rest : List Char) (bare : '`' ∉ rest) :
    (SqlMode.inName text).after rest = (.inName (text ++ rest), []) := by
  induction rest generalizing text with
  | nil => rw [SqlMode.after, List.append_nil]
  | cons char rest ih =>
    obtain ⟨different, others⟩ := not_or.mp (bare ∘ List.mem_cons.mpr)
    rw [SqlMode.after, step, if_neg (Ne.symm different), ih _ others, List.append_assoc, List.singleton_append]
    rfl

/-- A name without a backquote in it is read back from between its quotes. -/
theorem readSql_name {text : String} (bare : '`' ∉ text.toList) :
    readSql ("`" ++ text ++ "`") = some [.name text.toList] := by
  have closed : ("`" ++ text ++ "`").toList = '`' :: (text.toList ++ ['`']) := by
    rw [String.toList_append, String.toList_append]
    rfl
  have opened : SqlMode.outside.step '`' = (.inName [], []) := rfl
  rw [readSql, closed, finished_cons, opened, finished_append, after_inName [] _ bare]
  rfl

theorem after_inWord (text rest : List Char) (plain : rest.all isWordChar) :
    (SqlMode.inWord text).after rest = (.inWord (text ++ rest), []) := by
  induction rest generalizing text with
  | nil => rw [SqlMode.after, List.append_nil]
  | cons char rest ih =>
    obtain ⟨same, others⟩ := Bool.and_eq_true_iff.mp plain
    rw [SqlMode.after, step, if_pos same, ih _ others, List.append_assoc, List.singleton_append]
    rfl

theorem start_word (plain : isWordChar char) : start char = (.inWord [char], []) := by
  have unquoted : char ≠ '`' := by
    rintro rfl
    exact absurd plain (by decide)
  have bare : char ≠ '\'' := by
    rintro rfl
    exact absurd plain (by decide)
  rw [start, if_neg unquoted, if_neg bare, if_pos plain]

/-- A text of word characters is one word. -/
theorem readSql_word {text : String} (filled : text.toList ≠ []) (plain : text.toList.all isWordChar) :
    readSql text = some [.word text.toList] := by
  rw [readSql]
  cases spelled : text.toList with
  | nil => exact absurd spelled filled
  | cons char rest =>
    rw [spelled, List.all_cons, Bool.and_eq_true] at plain
    rw [finished_cons, SqlMode.step, start_word plain.1, finished, after_inWord _ _ plain.2]
    rfl

end Reading

end DataMax.Library
