import DataMax.Json.Value
import DataMax.Library.Framing
import DataMax.Library.Separated

/-! The compact text of a JSON value: bare tokens and quoted strings. -/

namespace DataMax.Json

open Library

inductive Token where
  | bare (text : List Char)
  | quoted (text : List Char)
  deriving DecidableEq

def escapeChar (char : Char) : List Char :=
  if char = '"' then ['\\', '"']
  else if char = '\\' then ['\\', '\\']
  else if char = '\x08' then ['\\', 'b']
  else if char = '\t' then ['\\', 't']
  else if char = '\n' then ['\\', 'n']
  else if char = '\x0C' then ['\\', 'f']
  else if char = '\r' then ['\\', 'r']
  else if char.toNat < 0x20 then
    ['\\', 'u', '0', '0', Nat.digitChar (char.toNat / 16), Nat.digitChar (char.toNat % 16)]
  else [char]

theorem escapeChar_eq {char : Char} (noQuote : char ≠ '"') (noSlash : char ≠ '\\') (printable : 0x20 ≤ char.toNat) :
    escapeChar char = [char] := by
  have others : ∀ control : Char, control.toNat < 0x20 → char ≠ control := by
    rintro control small rfl
    omega
  rw [escapeChar, if_neg noQuote, if_neg noSlash, if_neg (others _ (by decide)), if_neg (others _ (by decide)),
    if_neg (others _ (by decide)), if_neg (others _ (by decide)), if_neg (others _ (by decide)),
    if_neg (Nat.not_lt.mpr printable)]

def Token.chars : Token → List Char
  | .bare text => text
  | .quoted text => '"' :: (text.flatMap escapeChar ++ ['"'])

-- `floatText` writes a double by its bits.
variable (floatText : UInt64 → String)

def numberText : Number → String
  | .posInt value => toString value.toNat
  | .negInt value => toString value.toInt
  | .float bits => floatText bits

mutual

def tokens : Value → List Token
  | .null => [.bare "null".toList]
  | .bool true => [.bare "true".toList]
  | .bool false => [.bare "false".toList]
  | .number value => [.bare (numberText floatText value).toList]
  | .string value => [.quoted value.toList]
  | .array items => .bare ['['] :: ([Token.bare [',']].intercalate (itemTokens items) ++ [.bare [']']])
  | .object entries => .bare ['{'] :: ([Token.bare [',']].intercalate (entryTokens entries) ++ [.bare ['}']])

def itemTokens : List Value → List (List Token)
  | [] => []
  | item :: rest => tokens item :: itemTokens rest

def entryTokens : List (String × Value) → List (List Token)
  | [] => []
  | (key, item) :: rest => (.quoted key.toList :: .bare [':'] :: tokens item) :: entryTokens rest

end

def render (tokens : List Token) : List Char := tokens.flatMap Token.chars

def Value.text (value : Value) : String := .ofList (render (tokens floatText value))

attribute [local simp] tokens itemTokens entryTokens in
theorem itemTokens_eq (items : List Value) : itemTokens floatText items = items.map (tokens floatText) := by
  induction items with
  | nil => rfl
  | cons item rest ih => simp [ih]

theorem entryTokens_eq (entries : List (String × Value)) : entryTokens floatText entries =
    entries.map fun entry => .quoted entry.1.toList :: .bare [':'] :: tokens floatText entry.2 := by
  induction entries with
  | nil => rfl
  | cons entry rest ih => rw [entryTokens, ih, List.map_cons]

section Quoted

variable {floatText} {text : List Char}

@[simp] theorem quoted_string (value : String) : .quoted text ∈ tokens floatText (.string value) ↔ text = value.toList := by
  simp [tokens]

@[simp] theorem quoted_bool (value : Bool) : .quoted text ∉ tokens floatText (.bool value) := by
  cases value <;> simp [tokens]

@[simp] theorem quoted_null : .quoted text ∉ tokens floatText .null := by simp [tokens]

@[simp] theorem quoted_number (value : Number) : .quoted text ∉ tokens floatText (.number value) := by simp [tokens]

@[simp] theorem quoted_array (items : List Value) : .quoted text ∈ tokens floatText (.array items) ↔
    ∃ item ∈ items, .quoted text ∈ tokens floatText item := by
  rw [tokens, itemTokens_eq, List.mem_cons, List.mem_append, mem_intercalate_iff (by simp)]
  simp

@[simp] theorem quoted_object (entries : List (String × Value)) : .quoted text ∈ tokens floatText (.object entries) ↔
    ∃ entry ∈ entries, text = entry.1.toList ∨ .quoted text ∈ tokens floatText entry.2 := by
  rw [tokens, entryTokens_eq, List.mem_cons, List.mem_append, mem_intercalate_iff (by simp)]
  simp

theorem quoted_of_json {entries : List (String × Value)} (quoted : .quoted text ∈ tokens floatText (json entries)) :
    ∃ entry ∈ entries, text = entry.1.toList ∨ .quoted text ∈ tokens floatText entry.2 := by
  rw [json, Value.ofMap, quoted_object] at quoted
  obtain ⟨entry, kept, written⟩ := quoted
  exact ⟨entry, SortedMap.mem_of_get?_ofList (SortedMap.mem_entries_iff.mp kept), written⟩

theorem quoted_json {entries : List (String × Value)} (distinct : (entries.map (·.1)).Nodup) :
    .quoted text ∈ tokens floatText (json entries) ↔
      ∃ entry ∈ entries, text = entry.1.toList ∨ .quoted text ∈ tokens floatText entry.2 := by
  simp only [json, Value.ofMap, quoted_object, SortedMap.mem_ofList distinct]

end Quoted

section Bare

/-- The characters of numbers. -/
def isNumberChar (char : Char) : Bool := char.isDigit || ['+', '-', '.', 'e', 'E'].contains char

/-- The characters of what is not quoted. -/
def isStructural (char : Char) : Bool :=
  isNumberChar char || [',', ':', '[', ']', '{', '}', 't', 'r', 'u', 'e', 'f', 'a', 'l', 's', 'n'].contains char

variable {floatText} {text : List Char}

theorem isNumberChar_of_digits {count : Nat} {char : Char} (inside : char ∈ (toString count).toList) :
    isNumberChar char := by
  rw [Nat.toString_eq_repr, Nat.repr_eq_ofList_toDigits, String.toList_ofList] at inside
  simp [isNumberChar, @Nat.isDigit_of_mem_toDigits 10 count char (by decide) (by decide) inside]

theorem isNumberChar_of_numberText (floats : ∀ bits, ∀ char ∈ (floatText bits).toList, isNumberChar char)
    (value : Number) : ∀ char ∈ (numberText floatText value).toList, isNumberChar char := by
  intro char inside
  cases value with
  | posInt value => exact isNumberChar_of_digits inside
  | negInt value =>
    rw [numberText] at inside
    cases signed : value.toInt with
    | ofNat count => exact isNumberChar_of_digits (signed ▸ inside)
    | negSucc count =>
      have shape : toString (Int.negSucc count) = "-" ++ toString (count + 1) := rfl
      rw [signed, shape, String.toList_append, List.mem_append] at inside
      rcases inside with sign | digits
      · have minus : char = '-' := by simpa using sign
        subst minus
        decide
      · exact isNumberChar_of_digits digits
  | float bits => exact floats bits char inside

theorem structural_separated {parts : List (List Token)} (mark : Char) (structural : isStructural mark)
    (each : ∀ part ∈ parts, .bare text ∈ part → ∀ char ∈ text, isStructural char)
    (listed : .bare text ∈ [Token.bare [mark]].intercalate parts) : ∀ char ∈ text, isStructural char := by
  rcases mem_intercalate listed with same | ⟨part, inside, within⟩
  · cases same
    simpa using structural
  · exact each part inside within

mutual

theorem bare_structural (floats : ∀ bits, ∀ char ∈ (floatText bits).toList, isNumberChar char) (value : Value)
    (listed : .bare text ∈ tokens floatText value) : ∀ char ∈ text, isStructural char := by
  cases value with
  | null =>
    simp only [tokens, List.mem_singleton, Token.bare.injEq] at listed
    subst listed
    exact List.all_eq_true.mp (by decide)
  | bool value =>
    cases value <;>
    · simp only [tokens, List.mem_singleton, Token.bare.injEq] at listed
      subst listed
      exact List.all_eq_true.mp (by decide)
  | number value =>
    simp only [tokens, List.mem_singleton, Token.bare.injEq] at listed
    subst listed
    intro char inside
    simp [isStructural, isNumberChar_of_numberText floats value char inside]
  | string value => simp [tokens] at listed
  | array items =>
    rw [tokens, List.mem_cons, List.mem_append, List.mem_singleton] at listed
    rcases listed with same | inside | same
    · cases same
      exact List.all_eq_true.mp (by decide)
    · exact structural_separated ',' (by decide) (itemTokens_structural floats items) inside
    · cases same
      exact List.all_eq_true.mp (by decide)
  | object entries =>
    rw [tokens, List.mem_cons, List.mem_append, List.mem_singleton] at listed
    rcases listed with same | inside | same
    · cases same
      exact List.all_eq_true.mp (by decide)
    · exact structural_separated ',' (by decide) (entryTokens_structural floats entries) inside
    · cases same
      exact List.all_eq_true.mp (by decide)

theorem itemTokens_structural (floats : ∀ bits, ∀ char ∈ (floatText bits).toList, isNumberChar char)
    (items : List Value) : ∀ part ∈ itemTokens floatText items, .bare text ∈ part → ∀ char ∈ text, isStructural char := by
  cases items with
  | nil => simp [itemTokens]
  | cons item rest =>
    intro part listed
    rw [itemTokens, List.mem_cons] at listed
    rcases listed with rfl | later
    · exact bare_structural floats item
    · exact itemTokens_structural floats rest part later

theorem entryTokens_structural (floats : ∀ bits, ∀ char ∈ (floatText bits).toList, isNumberChar char)
    (entries : List (String × Value)) :
    ∀ part ∈ entryTokens floatText entries, .bare text ∈ part → ∀ char ∈ text, isStructural char := by
  cases entries with
  | nil => simp [entryTokens]
  | cons entry rest =>
    intro part listed inside
    obtain ⟨key, item⟩ := entry
    rw [entryTokens, List.mem_cons] at listed
    rcases listed with rfl | later
    · simp only [List.mem_cons, reduceCtorEq, Token.bare.injEq, false_or] at inside
      rcases inside with rfl | within
      · exact List.all_eq_true.mp (by decide)
      · exact bare_structural floats item within
    · exact entryTokens_structural floats rest part later inside

end

end Bare

section Found

variable {structural : Char → Prop} {found : List Char → Prop} {tokens : List Token}

/-- Only quoted texts and runs of structural characters stand between two quotation marks. -/
theorem found_append_render (parts : LocalTo '"' found)
    (plain : ∀ chars : List Char, (∀ char ∈ chars, structural char) → ¬ found chars)
    (bare : ∀ text, .bare text ∈ tokens → ∀ char ∈ text, structural char) (lead : List Char)
    (leading : ∀ char ∈ lead, structural char) : found (lead ++ render tokens) ↔
      ∃ text, .quoted text ∈ tokens ∧ found (text.flatMap escapeChar) := by
  induction tokens generalizing lead with
  | nil => simpa [render] using plain lead leading
  | cons token rest ih =>
    have later : ∀ text, .bare text ∈ rest → ∀ char ∈ text, structural char :=
      fun text listed => bare text (List.mem_cons_of_mem token listed)
    cases token with
    | bare text =>
      have extended : ∀ char ∈ lead ++ text, structural char := by
        intro char inside
        rcases List.mem_append.mp inside with early | late
        · exact leading char early
        · exact bare text List.mem_cons_self char late
      have moved := ih later (lead ++ text) extended
      rw [List.append_assoc] at moved
      simpa [render, Token.chars] using moved
    | quoted text =>
      have following := ih later [] (by simp)
      rw [List.nil_append] at following
      have shape : lead ++ render (.quoted text :: rest) =
          lead ++ '"' :: (text.flatMap escapeChar ++ '"' :: render rest) := by simp [render, Token.chars]
      rw [shape, parts.split, parts.split, following]
      simp [plain lead leading]

/-- What cannot contain a quotation mark is found in a rendered text only inside
its quoted texts. -/
theorem found_render (parts : LocalTo '"' found)
    (plain : ∀ chars : List Char, (∀ char ∈ chars, structural char) → ¬ found chars)
    (bare : ∀ text, .bare text ∈ tokens → ∀ char ∈ text, structural char) :
    found (render tokens) ↔ ∃ text, .quoted text ∈ tokens ∧ found (text.flatMap escapeChar) :=
  found_append_render parts plain bare [] (by simp)

end Found

end DataMax.Json
