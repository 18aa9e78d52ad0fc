import DataMax.Domain.Text
import DataMax.Library.Replacement
import Mathlib.Algebra.Group.Nat.Defs

/-! Text functions of the standard library that rewrite a text: replacement, lines,
trimming by other characters. -/

namespace DataMax.Domain

open Library

/-- `str::replace` of a part that is not empty. -/
def replaceText (part replacement text : String) : String :=
  .ofList (replaceAll part.toList replacement.toList text.toList)

def dropCarriageReturn (line : List Char) : List Char :=
  if line.getLast? = some '\r' then line.dropLast else line

/-- `str::lines`: a line ends with a line feed, which a carriage return may precede. -/
def lines (text : String) : List String :=
  let pieces := text.toList.splitOn '\n'
  let ended := pieces.dropLast.map dropCarriageReturn
  let rest := pieces.getLast?.getD []
  ((if rest = [] then ended else ended ++ [rest])).map String.ofList

def joinLines (lines : List String) : String := "\n".intercalate lines

def trimEnd (text : String) : String := .ofList (text.toList.reverse.dropWhile isWhitespace).reverse

/-- `str::trim_matches` -/
def trimMatches (matched : Char → Bool) (text : String) : String :=
  .ofList ((text.toList.dropWhile matched).reverse.dropWhile matched).reverse

/-- The position of the first occurrence of the part, `str::find`. -/
def findText (part text : String) : Option Nat := text.toList.tails.findIdx? part.toList.isPrefixOf

/-- The position of the last occurrence of the character, `str::rfind`. -/
def rfindChar (character : Char) (text : String) : Option Nat :=
  (text.toList.reverse.findIdx? (· == character)).map fun back => text.toList.length - 1 - back

def takeText (count : Nat) (text : String) : String := .ofList (text.toList.take count)

def dropStarts (part : List Char) : Nat → List Char → List Char
  | 0, text => text
  | rounds + 1, text =>
    if part.isPrefixOf text then dropStarts part rounds (text.drop part.length) else text

/-- `str::trim_start_matches`, which takes the part away as often as it is there. -/
def trimStartMatches (part text : String) : String := .ofList (dropStarts part.toList text.length text.toList)

/-- A number may have a plus sign. -/
def unsignedDigits : List Char → List Char
  | '+' :: rest => rest
  | other => other

/-- `str::parse::<usize>` -/
def parseUsize (text : String) : Option Nat :=
  let digits := unsignedDigits text.toList
  let value := digits.foldl (fun value digit => value * 10 + (digit.toNat - '0'.toNat)) 0
  if digits ≠ [] ∧ digits.all Char.isDigit ∧ value < 2 ^ 64 then some value else none

/-- What reads as a number has a digit, and otherwise digits and a sign only. -/
theorem digits_of_parseUsize {text : String} {number : Nat} (read : parseUsize text = some number) :
    (∃ digit ∈ text.toList, digit.isDigit = true) ∧ ∀ char ∈ text.toList, char = '+' ∨ char.isDigit = true := by
  have inner : ∀ chars : List Char, unsignedDigits chars ⊆ chars ∧
      ∀ char ∈ chars, char = '+' ∨ char ∈ unsignedDigits chars := by
    intro chars
    unfold unsignedDigits
    split
    · exact ⟨List.subset_cons_self .., by simp⟩
    · exact ⟨List.Subset.refl _, fun char listed => .inr listed⟩
  rw [parseUsize] at read
  split at read
  · rename_i valid
    obtain ⟨nonempty, digits, -⟩ := valid
    rw [List.all_eq_true] at digits
    obtain ⟨first, inside⟩ := List.exists_mem_of_ne_nil _ nonempty
    refine ⟨⟨first, (inner _).1 inside, digits first inside⟩, fun char listed => ?_⟩
    exact ((inner _).2 char listed).imp_right (digits char)
  · cases read

/-- A trimmed text has nothing to trim at its start. -/
theorem dropWhile_trim (text : String) : (trim text).toList.dropWhile isWhitespace = (trim text).toList := by
  let first := text.toList.dropWhile isWhitespace
  have leading : first.rdropWhile isWhitespace <+: first := List.rdropWhile_prefix isWhitespace first
  have same : first.dropWhile isWhitespace = first := List.dropWhile_idempotent isWhitespace _
  have shape : (trim text).toList = first.rdropWhile isWhitespace := String.toList_ofList
  rw [shape, List.dropWhile_eq_self_iff]
  intro nonempty
  rw [leading.getElem nonempty]
  exact List.dropWhile_eq_self_iff.mp same (Nat.lt_of_lt_of_le nonempty leading.length_le)

end DataMax.Domain
