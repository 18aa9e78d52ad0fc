import Mathlib.Algebra.Ring.Nat
import Mathlib.Data.List.Basic
import Mathlib.Tactic.Common

/-! Bytes read as text: UTF-8 with replacement characters, and UTF-16. -/

namespace DataMax.Domain

section Utf8

/-- How many bytes follow the first one of a character, and between what the first of those is. -/
def followingBytes (first : Nat) : Option (Nat × Nat × Nat) :=
  if first < 0x80 then some (0, 0x80, 0xBF)
  else if 0xC2 ≤ first ∧ first ≤ 0xDF then some (1, 0x80, 0xBF)
  else if first = 0xE0 then some (2, 0xA0, 0xBF)
  else if first = 0xED then some (2, 0x80, 0x9F)
  else if 0xE1 ≤ first ∧ first ≤ 0xEF then some (2, 0x80, 0xBF)
  else if first = 0xF0 then some (3, 0x90, 0xBF)
  else if 0xF1 ≤ first ∧ first ≤ 0xF3 then some (3, 0x80, 0xBF)
  else if first = 0xF4 then some (3, 0x80, 0x8F)
  else none

/-- The code point, unless a byte is missing, and the bytes from there on. -/
def takeFollowing : (count low high code : Nat) → List UInt8 → Option Nat × List UInt8
  | 0, _, _, code, rest => (some code, rest)
  | _ + 1, _, _, _, [] => (none, [])
  | count + 1, low, high, code, byte :: rest =>
    if low ≤ byte.toNat ∧ byte.toNat ≤ high then takeFollowing count 0x80 0xBF (code * 0x40 + byte.toNat % 0x40) rest
    else (none, byte :: rest)

theorem length_takeFollowing (count low high code : Nat) (bytes : List UInt8) :
    (takeFollowing count low high code bytes).2.length ≤ bytes.length := by
  induction bytes generalizing count low high code with
  | nil => cases count <;> exact Nat.le_refl _
  | cons byte rest ih =>
    cases count with
    | zero => exact Nat.le_refl _
    | succ count =>
      rw [takeFollowing]
      split
      · exact Nat.le_trans (ih _ _ _ _) (Nat.le_succ _)
      · exact Nat.le_refl _

def replacementCharacter : Char := '\uFFFD'

/-- The bits of the first byte that belong to the code point. -/
def leadBits (first count : Nat) : Nat := if count = 0 then first else first % 2 ^ (6 - count)

def lossyCharacters : List UInt8 → List Char
  | [] => []
  | first :: rest => match followingBytes first.toNat with
    | none => replacementCharacter :: lossyCharacters rest
    | some (count, low, high) =>
      let taken := takeFollowing count low high (leadBits first.toNat count) rest
      have _shorter := length_takeFollowing count low high (leadBits first.toNat count) rest
      (taken.1.map Char.ofNat).getD replacementCharacter :: lossyCharacters taken.2
termination_by bytes => bytes.length

/-- `String::from_utf8_lossy` -/
def fromUtf8Lossy (bytes : List UInt8) : String := .ofList (lossyCharacters bytes)

end Utf8

section Utf16

/-- `u16::from_be_bytes` of each two bytes. -/
def bigEndianPairs : List UInt8 → List Nat
  | high :: low :: rest => (high.toNat * 0x100 + low.toNat) :: bigEndianPairs rest
  | _ => []

def utf16Characters : List Nat → Option (List Char)
  | [] => some []
  | unit :: rest =>
    if unit < 0xD800 ∨ 0xDFFF < unit then (utf16Characters rest).map (Char.ofNat unit :: ·)
    else match rest with
      | low :: later =>
        if unit ≤ 0xDBFF ∧ 0xDC00 ≤ low ∧ low ≤ 0xDFFF then
          (utf16Characters later).map (Char.ofNat (0x10000 + (unit - 0xD800) * 0x400 + (low - 0xDC00)) :: ·)
        else none
      | [] => none

/-- `String::from_utf16(..).ok()` -/
def fromUtf16 (units : List Nat) : Option String := (utf16Characters units).map .ofList

end Utf16

end DataMax.Domain
