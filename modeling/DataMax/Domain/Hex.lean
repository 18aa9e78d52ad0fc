import DataMax.Domain.Text
import DataMax.Library.Framing
import Mathlib.Data.List.SplitLengths

/-! Digests and UUIDs written in hexadecimal. -/

namespace DataMax.Domain

open Library

/-- `{byte:02x}` -/
def hexByte (byte : UInt8) : List Char := [Nat.digitChar (byte.toNat / 16), Nat.digitChar (byte.toNat % 16)]

def hex (bytes : List UInt8) : String := .ofList (bytes.flatMap hexByte)

theorem hexDigit_injective : ∀ first second : Fin 16, Nat.digitChar first = Nat.digitChar second → first = second := by
  decide

theorem mem_hexByte {byte : UInt8} {char : Char} (inside : char ∈ hexByte byte) :
    ∃ digit : Fin 16, char = Nat.digitChar digit := by
  have small := byte.toNat_lt
  simp only [hexByte, List.mem_cons, List.not_mem_nil, or_false] at inside
  rcases inside with high | low
  · exact ⟨⟨byte.toNat / 16, by omega⟩, high⟩
  · exact ⟨⟨byte.toNat % 16, by omega⟩, low⟩

theorem hexByte_injective : Function.Injective hexByte := by
  intro first second same
  have firstSmall := first.toNat_lt
  have secondSmall := second.toNat_lt
  simp only [hexByte, List.cons.injEq, and_true] at same
  have high := congrArg Fin.val (hexDigit_injective ⟨first.toNat / 16, by omega⟩ ⟨second.toNat / 16, by omega⟩ same.1)
  have low := congrArg Fin.val (hexDigit_injective ⟨first.toNat % 16, by omega⟩ ⟨second.toNat % 16, by omega⟩ same.2)
  apply UInt8.toNat_inj.mp
  simp only at high low
  omega

theorem hexDigits_injective : Function.Injective fun bytes : List UInt8 => bytes.flatMap hexByte := by
  have widths : ∀ byte, (hexByte byte).length = 2 := fun _ => rfl
  exact (PrefixFree.of_width widths hexByte_injective).flatMap_injective fun _ => by simp [hexByte]

theorem hex_injective : Function.Injective hex := fun _ _ same =>
  hexDigits_injective (String.ofList_injective same)

@[simp] theorem trim_hex (bytes : List UInt8) : trim (hex bytes) = hex bytes := by
  have visible : ∀ digit : Fin 16, isWhitespace (Nat.digitChar digit) = false := by decide
  apply trim_eq_self
  intro char inside
  rw [hex, String.toList_ofList, List.mem_flatMap] at inside
  obtain ⟨byte, _, within⟩ := inside
  obtain ⟨digit, rfl⟩ := mem_hexByte within
  exact visible digit

structure UuidBytes where
  bytes : List UInt8
  width : bytes.length = 16
  deriving DecidableEq

namespace UuidBytes

/-- The digits of five groups of bytes. -/
def groups (uuid : UuidBytes) : List (List Char) :=
  ([4, 2, 2, 2, 6].splitLengths uuid.bytes).map fun group => group.flatMap hexByte

/-- The hyphenated text, in lower case. -/
def text (uuid : UuidBytes) : String := .ofList (['-'].intercalate uuid.groups)

theorem mem_groups {uuid : UuidBytes} {group : List Char} {char : Char} (listed : group ∈ uuid.groups)
    (inside : char ∈ group) : ∃ digit : Fin 16, char = Nat.digitChar digit := by
  obtain ⟨bytes, _, rfl⟩ := List.mem_map.mp listed
  obtain ⟨byte, _, within⟩ := List.mem_flatMap.mp inside
  exact mem_hexByte within

theorem mem_text {uuid : UuidBytes} {char : Char} (inside : char ∈ uuid.text.toList) :
    char = '-' ∨ ∃ digit : Fin 16, char = Nat.digitChar digit := by
  rw [text, String.toList_ofList] at inside
  exact (mem_intercalate inside).imp_right fun ⟨_, listed, within⟩ => mem_groups listed within

/-- A character that is neither a digit nor a hyphen. -/
theorem not_mem_text {char : Char} (other : char ≠ '-') (noDigit : ∀ digit : Fin 16, char ≠ Nat.digitChar digit)
    (uuid : UuidBytes) : char ∉ uuid.text.toList := by
  intro inside
  rcases mem_text inside with hyphen | ⟨digit, same⟩
  · exact other hyphen
  · exact noDigit digit same

theorem text_ne_empty (uuid : UuidBytes) : uuid.text ≠ "" := by
  intro empty
  have hyphen : '-' ∈ uuid.text.toList := by
    rw [text, String.toList_ofList]
    simp [groups, List.splitLengths]
  rw [empty] at hyphen
  cases hyphen

theorem groups_digits (uuid : UuidBytes) : uuid.groups.flatten = uuid.bytes.flatMap hexByte := by
  have whole : ([4, 2, 2, 2, 6].splitLengths uuid.bytes).flatten = uuid.bytes :=
    List.flatten_splitLengths _ _ (by simp [uuid.width])
  have nested : ∀ parts : List (List UInt8),
      (parts.map fun group => group.flatMap hexByte).flatten = parts.flatten.flatMap hexByte := by
    intro parts
    induction parts with
    | nil => rfl
    | cons head rest ih => rw [List.map_cons, List.flatten_cons, ih, List.flatten_cons, List.flatMap_append]
  rw [groups, nested, whole]

theorem text_injective : Function.Injective text := by
  intro first second same
  have bare : ∀ uuid : UuidBytes, ∀ group ∈ uuid.groups, '-' ∉ group := by
    intro uuid group listed inside
    obtain ⟨digit, hyphen⟩ := mem_groups listed inside
    revert digit
    decide
  have split : first.groups = second.groups := by
    rw [← List.splitOn_intercalate '-' (bare first) (by simp [groups]), String.ofList_injective same,
      List.splitOn_intercalate '-' (bare second) (by simp [groups])]
  have digits : first.bytes = second.bytes :=
    hexDigits_injective (by simpa only [groups_digits] using congrArg List.flatten split)
  cases first
  cases second
  cases digits
  rfl

end UuidBytes

end DataMax.Domain
