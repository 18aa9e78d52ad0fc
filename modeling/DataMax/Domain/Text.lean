import Mathlib.Data.List.DropRight
import Mathlib.Data.List.Infix

/-! Text functions of the standard library that the repositories apply to
their arguments. -/

namespace DataMax.Domain

/-- The characters with the Unicode property `White_Space`. -/
def isWhitespace (char : Char) : Bool :=
  let code := char.toNat
  (0x9 ≤ code && code ≤ 0xD) || code == 0x20 || code == 0x85 || code == 0xA0 || code == 0x1680 ||
    (0x2000 ≤ code && code ≤ 0x200A) || code == 0x2028 || code == 0x2029 || code == 0x202F ||
    code == 0x205F || code == 0x3000

def trim (text : String) : String :=
  .ofList ((text.toList.dropWhile isWhitespace).reverse.dropWhile isWhitespace).reverse

def trimStart (text : String) : String := .ofList (text.toList.dropWhile isWhitespace)

/-- `to_ascii_lowercase`. -/
def asciiLower (text : String) : String := text.map Char.toLower

def startsWith (text start : String) : Bool := start.toList.isPrefixOf text.toList

def endsWith (text ending : String) : Bool := ending.toList.isSuffixOf text.toList

/-- The part occurs somewhere in the text. -/
def contains (text part : String) : Bool := text.toList.tails.any part.toList.isPrefixOf

/-- The words between whitespace. -/
def words (text : String) : List String :=
  ((text.toList.splitOnP isWhitespace).filter (!·.isEmpty)).map String.ofList

/-- The parts between the marks, `split` of a character. -/
def splitAt (mark : Char) (text : String) : List String := (text.toList.splitOn mark).map String.ofList

theorem contains_iff {text part : String} : contains text part ↔ part.toList <:+: text.toList := by
  rw [contains, List.any_eq_true, List.infix_iff_prefix_suffix]
  simp only [List.mem_tails, List.isPrefixOf_iff_prefix, and_comm]

theorem alphanum_code {char : Char} (alphanumeric : char.isAlphanum) : 0x30 ≤ char.toNat ∧ char.toNat ≤ 0x7A := by
  delta Char.isAlphanum Char.isAlpha Char.isUpper Char.isLower Char.isDigit at alphanumeric
  simp only [Bool.or_eq_true, Bool.and_eq_true, decide_eq_true_eq, ge_iff_le, UInt32.le_iff_toNat_le] at alphanumeric
  have codes : 'A'.val.toNat = 65 ∧ 'Z'.val.toNat = 90 ∧ 'a'.val.toNat = 97 ∧ 'z'.val.toNat = 122 ∧
      '0'.val.toNat = 48 ∧ '9'.val.toNat = 57 := by decide
  change 0x30 ≤ char.val.toNat ∧ char.val.toNat ≤ 0x7A
  omega

/-- An ASCII text is as long in bytes as in characters. -/
theorem utf8ByteSize_ascii {chars : List Char} (ascii : ∀ char ∈ chars, char.toNat ≤ 0x7F) :
    (String.ofList chars).utf8ByteSize = chars.length := by
  induction chars using List.reverseRecOn with
  | nil => rfl
  | append_singleton shorter last ih =>
    have small : last.val ≤ 0x7F := UInt32.le_iff_toNat_le.mpr (ascii last (by simp))
    have single : last.utf8Size = 1 := if_pos small
    have extended : String.ofList (shorter ++ [last]) = (String.ofList shorter).push last :=
      String.toList_inj.mp (by simp)
    rw [extended, String.utf8ByteSize_push, ih fun char inside => ascii char (by simp [inside]), single]
    simp

theorem toLower_ascii {char : Char} (ascii : char.toNat ≤ 0x7F) : char.toLower.toNat ≤ 0x7F := by
  delta Char.toLower
  split
  · rename_i upper
    have bound : char.val.toNat ≤ 90 := UInt32.le_iff_toNat_le.mp upper.2
    have shifted : (char.val + ('a'.val - 'A'.val)).toNat = char.val.toNat + 32 := by
      have distance : ('a'.val - 'A'.val).toNat = 32 := by decide
      rw [UInt32.toNat_add, distance]
      exact Nat.mod_eq_of_lt (by omega)
    change (char.val + ('a'.val - 'A'.val)).toNat ≤ 0x7F
    omega
  · exact ascii

theorem toLower_of_not_upper {char : Char} (other : char.isUpper = false) : char.toLower = char := by
  have outside : ¬ (char.val ≥ 'A'.val ∧ char.val ≤ 'Z'.val) := by
    delta Char.isUpper at other
    simpa using other
  delta Char.toLower
  exact dif_neg outside

theorem toLower_of_digit {char : Char} (digit : char.isDigit) : char.toLower = char := by
  apply toLower_of_not_upper
  delta Char.isDigit at digit
  delta Char.isUpper
  simp only [Bool.and_eq_true, decide_eq_true_eq, UInt32.le_iff_toNat_le, ge_iff_le] at digit
  simp only [decide_eq_false_iff_not, UInt32.le_iff_toNat_le, ge_iff_le]
  have codes : 'A'.val.toNat = 65 ∧ '9'.val.toNat = 57 := by decide
  omega

theorem toLower_of_not_alpha {char : Char} (other : char.isAlpha = false) :
    char.toLower = char ∧ char.isLower = false := by
  delta Char.isAlpha at other
  rw [Bool.or_eq_false_iff] at other
  exact ⟨toLower_of_not_upper other.1, other.2⟩

theorem toLower_of_upper {char : Char} (upper : char.isUpper) : char.toLower.isLower := by
  delta Char.isUpper at upper
  have between := of_decide_eq_true upper
  have first : 65 ≤ char.val.toNat := UInt32.le_iff_toNat_le.mp between.1
  have last : char.val.toNat ≤ 90 := UInt32.le_iff_toNat_le.mp between.2
  have shifted : (char.val + ('a'.val - 'A'.val)).toNat = char.val.toNat + 32 := by
    have distance : ('a'.val - 'A'.val).toNat = 32 := by decide
    rw [UInt32.toNat_add, distance]
    exact Nat.mod_eq_of_lt (by omega)
  have lowered : char.toLower.val = char.val + ('a'.val - 'A'.val) := by
    delta Char.toLower
    rw [dif_pos between]
  have codes : 'a'.val.toNat = 97 ∧ 'z'.val.toNat = 122 := by decide
  delta Char.isLower
  simp only [Bool.and_eq_true, decide_eq_true_eq, UInt32.le_iff_toNat_le, ge_iff_le, lowered, shifted]
  omega

theorem isUpper_of_lower {char : Char} (lower : char.isLower) : char.isUpper = false := by
  delta Char.isLower at lower
  delta Char.isUpper
  simp only [Bool.and_eq_true, decide_eq_true_eq, UInt32.le_iff_toNat_le, ge_iff_le] at lower
  simp only [decide_eq_false_iff_not, UInt32.le_iff_toNat_le, ge_iff_le]
  have codes : 'a'.val.toNat = 97 ∧ 'Z'.val.toNat = 90 := by decide
  omega

/-- What is in lower case stays. -/
theorem toLower_toLower (char : Char) : char.toLower.toLower = char.toLower := by
  cases upper : char.isUpper with
  | true => exact toLower_of_not_upper (isUpper_of_lower (toLower_of_upper upper))
  | false => rw [toLower_of_not_upper upper, toLower_of_not_upper upper]

def utf8 (text : String) : List UInt8 := text.toUTF8.data.toList

/-- Both ends of the trimmed text stay. -/
theorem trim_trim (text : String) : trim (trim text) = trim text := by
  let first := text.toList.dropWhile isWhitespace
  let last := first.rdropWhile isWhitespace
  have ends : last.rdropWhile isWhitespace = last := List.rdropWhile_idempotent isWhitespace first
  have starts : last.dropWhile isWhitespace = last := by
    rw [List.dropWhile_eq_self_iff]
    intro nonempty
    have same : first.dropWhile isWhitespace = first := List.dropWhile_idempotent isWhitespace _
    have leading : last <+: first := List.rdropWhile_prefix isWhitespace first
    rw [leading.getElem nonempty]
    exact List.dropWhile_eq_self_iff.mp same (Nat.lt_of_lt_of_le nonempty leading.length_le)
  have shape : trim text = .ofList last := rfl
  rw [shape, trim, String.toList_ofList, starts]
  exact congrArg String.ofList ends

/-- What is trimmed away is white space on both sides. -/
theorem trim_split (text : String) : ∃ before after, text.toList = before ++ (trim text).toList ++ after ∧
    (∀ char ∈ before, isWhitespace char = true) ∧ ∀ char ∈ after, isWhitespace char = true := by
  let rest := text.toList.dropWhile isWhitespace
  have last : rest = (trim text).toList ++ rest.rtakeWhile isWhitespace := by
    rw [trim, String.toList_ofList]
    exact List.rdropWhile_append_rtakeWhile.symm
  refine ⟨text.toList.takeWhile isWhitespace, rest.rtakeWhile isWhitespace, ?_, fun char => List.mem_takeWhile_imp,
    fun char => List.mem_rtakeWhile_imp⟩
  rw [List.append_assoc, ← last, List.takeWhile_append_dropWhile]

theorem mem_trim {text : String} {char : Char} (inside : char ∈ (trim text).toList) : char ∈ text.toList := by
  rw [trim, String.toList_ofList, List.mem_reverse] at inside
  have later := (List.dropWhile_suffix isWhitespace).subset inside
  exact (List.dropWhile_suffix isWhitespace).subset (List.mem_reverse.mp later)

theorem utf8_injective : Function.Injective utf8 := by
  intro first second same
  apply String.toByteArray_inj.mp
  exact ByteArray.ext (Array.toList_inj.mp same)

/-- Only the ends of a text are trimmed. -/
theorem trim_eq_self_of_ends {text : String} (first : ∀ char ∈ text.toList.head?, isWhitespace char = false)
    (last : ∀ char ∈ text.toList.getLast?, isWhitespace char = false) : trim text = text := by
  have unchanged : ∀ chars : List Char, (∀ char ∈ chars.head?, isWhitespace char = false) →
      chars.dropWhile isWhitespace = chars := by
    intro chars seen
    cases chars with
    | nil => rfl
    | cons head rest => exact List.dropWhile_cons_of_neg (by simp [seen head rfl])
  rw [trim, unchanged _ first, unchanged _ (by simpa [List.head?_reverse] using last), List.reverse_reverse,
    String.ofList_toList]

/-- A text without whitespace has nothing to trim. -/
theorem trim_eq_self {text : String} (visible : ∀ char ∈ text.toList, isWhitespace char = false) :
    trim text = text := by
  apply trim_eq_self_of_ends
  · exact fun char inside => visible char (List.mem_of_mem_head? inside)
  · exact fun char inside => visible char (List.mem_of_getLast? inside)

theorem trim_last {text : String} {char : Char} (last : char ∈ (trim text).toList.getLast?) :
    isWhitespace char = false := by
  rw [trim, String.toList_ofList, List.getLast?_reverse] at last
  have stopped := List.head?_dropWhile_not isWhitespace (text.toList.dropWhile isWhitespace).reverse
  rw [last] at stopped
  simpa using stopped

/-- Only a blank text is trimmed to nothing. -/
theorem trim_ne_empty {text : String} {char : Char} (inside : char ∈ text.toList)
    (visible : isWhitespace char = false) : trim text ≠ "" := by
  intro empty
  have last : (text.toList.dropWhile isWhitespace).rdropWhile isWhitespace = [] := by
    have characters := congrArg String.toList empty
    rwa [trim, String.toList_ofList] at characters
  have first : text.toList.dropWhile isWhitespace = [] := by
    cases shape : text.toList.dropWhile isWhitespace with
    | nil => rfl
    | cons head rest =>
      rw [shape, List.rdropWhile_eq_nil_iff] at last
      have blank := last head List.mem_cons_self
      have stopped := List.dropWhile_idempotent isWhitespace text.toList
      rw [shape, List.dropWhile_cons_of_pos blank] at stopped
      have shorter : (rest.dropWhile isWhitespace).length ≤ rest.length :=
        (List.dropWhile_suffix isWhitespace).length_le
      rw [stopped, List.length_cons] at shorter
      omega
  have blank := List.dropWhile_eq_nil_iff.mp first char inside
  simp [visible] at blank

end DataMax.Domain
