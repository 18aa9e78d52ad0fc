import DataMax.Json.Text
import DataMax.Library.EventStream

/-! Reading a quoted text back, and the line breaks that a JSON text never has. -/

namespace DataMax.Json

open Library

def hexValue (digit : Char) : Nat := if digit.isDigit then digit.toNat - '0'.toNat else digit.toNat - 'a'.toNat + 10

def unescapeChar (code : Char) : Char :=
  if code = 'b' then '\x08' else if code = 't' then '\t' else if code = 'n' then '\n' else if code = 'f' then '\x0C'
  else if code = 'r' then '\r' else code

/-- What is before the closing quotation mark, and what is after it. -/
def readQuoted : List Char → Option (List Char × List Char)
  | [] => none
  | '"' :: rest => some ([], rest)
  | '\\' :: 'u' :: '0' :: '0' :: high :: low :: rest =>
    (readQuoted rest).map (Prod.map (Char.ofNat (16 * hexValue high + hexValue low) :: ·) id)
  | '\\' :: code :: rest => (readQuoted rest).map (Prod.map (unescapeChar code :: ·) id)
  | char :: rest => (readQuoted rest).map (Prod.map (char :: ·) id)

variable {char : Char} {text rest : List Char}

theorem hexValue_digits {code : Nat} (small : code < 0x20) :
    16 * hexValue (Nat.digitChar (code / 16)) + hexValue (Nat.digitChar (code % 16)) = code := by
  have every : ∀ code < 0x20, 16 * hexValue (Nat.digitChar (code / 16)) + hexValue (Nat.digitChar (code % 16)) = code := by
    decide
  exact every code small

theorem readQuoted_escapeChar : readQuoted (escapeChar char ++ rest) = (readQuoted rest).map (Prod.map (char :: ·) id) := by
  by_cases quote : char = '"'
  · subst quote; rfl
  by_cases slash : char = '\\'
  · subst slash; rfl
  by_cases back : char = '\x08'
  · subst back; rfl
  by_cases tab : char = '\t'
  · subst tab; rfl
  by_cases feed : char = '\n'
  · subst feed; rfl
  by_cases form : char = '\x0C'
  · subst form; rfl
  by_cases carriage : char = '\r'
  · subst carriage; rfl
  rw [escapeChar, if_neg quote, if_neg slash, if_neg back, if_neg tab, if_neg feed, if_neg form, if_neg carriage]
  split
  · rename_i control
    rw [List.cons_append, List.cons_append, List.cons_append, List.cons_append, List.cons_append, List.cons_append,
      List.nil_append, readQuoted, hexValue_digits control, Char.ofNat_toNat]
  · rw [List.singleton_append, readQuoted]
    · exact quote
    · intro _ _ _ same
      exact absurd same slash
    · intro _ _ same
      exact absurd same slash

theorem readQuoted_flatMap : readQuoted (text.flatMap escapeChar ++ '"' :: rest) = some (text, rest) := by
  induction text with
  | nil => rfl
  | cons char tail ih => rw [List.flatMap_cons, List.append_assoc, readQuoted_escapeChar, ih]; rfl

theorem printable_digitChar {digit : Nat} (small : digit < 16) : 0x20 ≤ (Nat.digitChar digit).toNat := by
  have every : ∀ digit < 16, 0x20 ≤ (Nat.digitChar digit).toNat := by decide
  exact every digit small

theorem printable_escapeChar (char : Char) : ∀ written ∈ escapeChar char, 0x20 ≤ written.toNat := by
  have two (code : Char) (printable : 0x20 ≤ code.toNat) : ∀ written ∈ ['\\', code], 0x20 ≤ written.toNat := by
    intro written inside
    rcases List.mem_pair.mp inside with rfl | rfl
    · decide
    · exact printable
  have either {test : Prop} [Decidable test] {yes no : List Char}
      (first : test → ∀ written ∈ yes, 0x20 ≤ written.toNat)
      (second : ¬ test → ∀ written ∈ no, 0x20 ≤ written.toNat) :
      ∀ written ∈ (if test then yes else no), 0x20 ≤ written.toNat := by
    split
    · exact first ‹test›
    · exact second ‹¬ test›
  rw [escapeChar]
  refine either (fun _ => two '"' (by decide)) fun _ => ?_
  refine either (fun _ => two '\\' (by decide)) fun _ => ?_
  refine either (fun _ => two 'b' (by decide)) fun _ => ?_
  refine either (fun _ => two 't' (by decide)) fun _ => ?_
  refine either (fun _ => two 'n' (by decide)) fun _ => ?_
  refine either (fun _ => two 'f' (by decide)) fun _ => ?_
  refine either (fun _ => two 'r' (by decide)) fun _ => either (fun control => ?_) fun printable => ?_
  · simp only [List.forall_mem_cons]
    exact ⟨by decide, by decide, by decide, by decide, printable_digitChar (by omega), printable_digitChar (by omega),
      by simp⟩
  · simpa using printable

theorem unbroken_of_printable (printable : ∀ char ∈ text, 0x20 ≤ char.toNat) : Unbroken text :=
  ⟨fun inside => absurd (printable _ inside) (by decide), fun inside => absurd (printable _ inside) (by decide)⟩

/-- The text of a JSON value breaks no line unless a number does. -/
theorem printable_render {tokens : List Token} (bare : ∀ text, .bare text ∈ tokens → ∀ char ∈ text, 0x20 ≤ char.toNat) :
    ∀ char ∈ render tokens, 0x20 ≤ char.toNat := by
  intro char inside
  obtain ⟨token, listed, within⟩ := List.mem_flatMap.mp inside
  cases token with
  | bare text => exact bare text listed char within
  | quoted text =>
    rw [Token.chars, List.mem_cons, List.mem_append, List.mem_singleton] at within
    rcases within with rfl | escaped | rfl
    · decide
    · obtain ⟨original, _, written⟩ := List.mem_flatMap.mp escaped
      exact printable_escapeChar original char written
    · decide

end DataMax.Json
