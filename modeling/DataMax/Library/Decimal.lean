import DataMax.Library.Float64
import Mathlib.Data.Nat.Digits.Lemmas

/-! Doubles by their bits: read from a decimal text, written as the shortest one that
reads as the same double. -/

namespace DataMax.Library

/-- The sign of a double and its rank. -/
def doubleBits (negative : Bool) (rank : Nat) : UInt64 := .ofNat (if negative then 2 ^ 63 + rank else rank)

def notANumber : UInt64 := 0x7FF8000000000000

def isNegative (bits : UInt64) : Bool := 2 ^ 63 ≤ bits.toNat

def rankOf (bits : UInt64) : Nat := bits.toNat % 2 ^ 63

def isFiniteDouble (bits : UInt64) : Bool := rankOf bits < infinityRank

section Parsing

def digitsValue (digits : List Char) : Nat := digits.foldl (fun value digit => 10 * value + (digit.toNat - 0x30)) 0

/-- `value` times ten to the power of `exponent`. -/
def scaleTen (value : Nat) (exponent : Int) : ℚ :=
  if 0 ≤ exponent then value * 10 ^ exponent.toNat else value / 10 ^ (-exponent).toNat

def splitSign : List Char → Bool × List Char
  | '-' :: rest => (true, rest)
  | '+' :: rest => (false, rest)
  | characters => (false, characters)

/-- Digits before and after the point, one of which may be missing, and what follows them. -/
def splitMantissa (characters : List Char) : Option (Nat × Int × List Char) :=
  let whole := characters.takeWhile Char.isDigit
  match characters.dropWhile Char.isDigit with
  | '.' :: rest =>
    let fraction := rest.takeWhile Char.isDigit
    if whole = [] ∧ fraction = [] then none
    else some (digitsValue (whole ++ fraction), -fraction.length, rest.dropWhile Char.isDigit)
  | rest => if whole = [] then none else some (digitsValue whole, 0, rest)

/-- Nothing, or an `e` with a signed number. -/
def exponentValue : List Char → Option Int
  | [] => some 0
  | mark :: rest =>
    let (negative, digits) := splitSign rest
    if (mark = 'e' ∨ mark = 'E') ∧ digits ≠ [] ∧ digits.all Char.isDigit then
      some (if negative then -digitsValue digits else digitsValue digits)
    else none

/-- `parse::<f64>` -/
def parseF64 (text : String) : Option UInt64 :=
  let (negative, unsigned) := splitSign text.toList
  let word := unsigned.map Char.toLower
  if word = "inf".toList ∨ word = "infinity".toList then some (doubleBits negative infinityRank)
  else if word = "nan".toList then some (doubleBits negative notANumber.toNat)
  else do
    let (digits, shift, rest) ← splitMantissa unsigned
    let exponent ← exponentValue rest
    some (doubleBits negative (Float64.nearestRank (scaleTen digits (shift + exponent))))

end Parsing

section Display

/-- The power of ten below a positive magnitude. -/
def powerBelow (magnitude : ℚ) : Int :=
  let quotient : Int := (Nat.log 10 magnitude.num.natAbs : Int) - Nat.log 10 magnitude.den
  if magnitude < scaleTen 1 quotient then quotient - 1 else quotient

/-- The nearer of the two decimals with this number of digits, if it reads as the double. -/
def decimalOf (rank count : Nat) : Option (Nat × Int) :=
  let magnitude := Float64.rankMagnitude rank
  let exponent := powerBelow magnitude - count + 1
  let scaled := magnitude / scaleTen 1 exponent
  let below := scaled.floor.toNat
  let reads (digits : Nat) : Bool := Float64.nearestRank (scaleTen digits exponent) = rank
  let nearer := if scaled - below ≤ 1 / 2 then [below, below + 1] else [below + 1, below]
  (nearer.find? reads).map (·, exponent)

/-- Seventeen digits are always enough. -/
def shortestDecimal (rank : Nat) : Nat × Int :=
  ((List.range 17).findSome? fun count => decimalOf rank (count + 1)).getD (0, 0)

/-- The digits with the point at its place. -/
def placePoint (digits : List Char) (exponent : Int) : List Char :=
  if 0 ≤ exponent then digits ++ List.replicate exponent.toNat '0'
  else
    let fractional := (-exponent).toNat
    let padded := List.replicate (fractional + 1 - digits.length) '0' ++ digits
    padded.take (padded.length - fractional) ++ '.' :: padded.drop (padded.length - fractional)

def magnitudeText (rank : Nat) : List Char :=
  if rank = 0 then ['0']
  else
    let (digits, exponent) := shortestDecimal rank
    -- A power of ten is found with one digit more than it needs.
    if digits % 10 = 0 then placePoint (Nat.toDigits 10 (digits / 10)) (exponent + 1)
    else placePoint (Nat.toDigits 10 digits) exponent

/-- `Display` of a double. -/
def displayF64 (bits : UInt64) : String :=
  if infinityRank < rankOf bits then "NaN"
  else .ofList ((if isNegative bits then ['-'] else []) ++
    if rankOf bits = infinityRank then "inf".toList else magnitudeText (rankOf bits))

/-- The characters of displayed numbers. -/
def isNumeralChar (character : Char) : Bool := character.isAlphanum || character == '.' || character == '-'

variable {character : Char}

theorem isNumeralChar_digit (digit : character.isDigit) : isNumeralChar character := by
  have alphanumeric : character.isAlphanum := Bool.or_eq_true_iff.mpr (.inr digit)
  rw [isNumeralChar, alphanumeric]
  rfl

theorem isNumeralChar_placePoint {digits : List Char} {exponent : Int} (numeric : ∀ digit ∈ digits, digit.isDigit)
    (inside : character ∈ placePoint digits exponent) : isNumeralChar character := by
  have written : ∀ count, ∀ digit ∈ List.replicate count '0' ++ digits, isNumeralChar digit := by
    intro count digit listed
    rcases List.mem_append.mp listed with zero | later
    · rw [(List.mem_replicate.mp zero).2]
      decide
    · exact isNumeralChar_digit (numeric digit later)
  rw [placePoint] at inside
  split at inside
  · rcases List.mem_append.mp inside with digit | zero
    · exact isNumeralChar_digit (numeric character digit)
    · rw [(List.mem_replicate.mp zero).2]
      decide
  · rcases List.mem_append.mp inside with early | later
    · exact written _ character (List.mem_of_mem_take early)
    · rcases List.mem_cons.mp later with rfl | late
      · decide
      · exact written _ character (List.mem_of_mem_drop late)

theorem isNumeralChar_magnitudeText {rank : Nat} (inside : character ∈ magnitudeText rank) : isNumeralChar character := by
  have digits : ∀ count, ∀ digit ∈ Nat.toDigits 10 count, digit.isDigit := fun count digit listed =>
    Nat.isDigit_of_mem_toDigits (by decide) (by decide) listed
  rw [magnitudeText] at inside
  split at inside
  · rw [List.mem_singleton.mp inside]
    decide
  · dsimp only at inside
    split at inside
    · exact isNumeralChar_placePoint (digits _) inside
    · exact isNumeralChar_placePoint (digits _) inside

/-- A double is written with letters, digits, a point and a sign. -/
theorem isNumeralChar_displayF64 {bits : UInt64} (inside : character ∈ (displayF64 bits).toList) :
    isNumeralChar character := by
  have words : ∀ letter ∈ "NaN".toList ++ "inf".toList, isNumeralChar letter := List.all_eq_true.mp (by decide)
  rw [displayF64] at inside
  split at inside
  · exact words character (List.mem_append_left _ inside)
  · rw [String.toList_ofList, List.mem_append] at inside
    rcases inside with sign | magnitude
    · split at sign
      · rw [List.mem_singleton.mp sign]
        decide
      · cases sign
    · split at magnitude
      · exact words character (List.mem_append_right _ magnitude)
      · exact isNumeralChar_magnitudeText magnitude

end Display

end DataMax.Library
