import Mathlib.Data.List.TakeWhile

/-! Internet addresses: the kinds of hosts that are not public, and reading an address from its text. -/

namespace DataMax.Library

structure Ipv4 where
  first : UInt8
  second : UInt8
  third : UInt8
  fourth : UInt8
  deriving DecidableEq

namespace Ipv4

variable (address : Ipv4)

def isLoopback : Bool := address.first == 127

def isUnspecified : Bool := address == ⟨0, 0, 0, 0⟩

def isPrivate : Bool := address.first == 10 || (address.first == 172 && 16 ≤ address.second && address.second ≤ 31) ||
  (address.first == 192 && address.second == 168)

def isLinkLocal : Bool := address.first == 169 && address.second == 254

def isBroadcast : Bool := address == ⟨255, 255, 255, 255⟩

def isMulticast : Bool := 224 ≤ address.first && address.first ≤ 239

def isDocumentation : Bool :=
  (address.first == 192 && address.second == 0 && address.third == 2) ||
    (address.first == 198 && address.second == 51 && address.third == 100) ||
    (address.first == 203 && address.second == 0 && address.third == 113)

/-- The four numbers between dots. -/
def chars : List Char := Nat.toDigits 10 address.first.toNat ++ '.' :: (Nat.toDigits 10 address.second.toNat ++
  '.' :: (Nat.toDigits 10 address.third.toNat ++ '.' :: Nat.toDigits 10 address.fourth.toNat))

def text : String := .ofList address.chars

end Ipv4

/-- Eight groups of sixteen bits. -/
structure Ipv6 where
  segments : List UInt16
  width : segments.length = 8
  deriving DecidableEq

namespace Ipv6

variable (address : Ipv6)

def leading : UInt16 := address.segments.headD 0

def isLoopback : Bool := address.segments == [0, 0, 0, 0, 0, 0, 0, 1]

def isUnspecified : Bool := address.segments == [0, 0, 0, 0, 0, 0, 0, 0]

def isMulticast : Bool := address.leading &&& 0xFF00 == 0xFF00

def isUniqueLocal : Bool := address.leading &&& 0xFE00 == 0xFC00

def isUnicastLinkLocal : Bool := address.leading &&& 0xFFC0 == 0xFE80

/-- The address that an IPv4-mapped one stands for. -/
def toIpv4Mapped : Option Ipv4 := match address.segments with
  | [0, 0, 0, 0, 0, 0xFFFF, high, low] =>
    some ⟨(high >>> 8).toUInt8, high.toUInt8, (low >>> 8).toUInt8, low.toUInt8⟩
  | _ => none

/-- Eight of the groups, with zeros where there are fewer. -/
def ofGroups (groups : List UInt16) : Ipv6 := ⟨(groups ++ List.replicate 8 0).take 8, by simp⟩

end Ipv6

inductive IpAddress where
  | v4 (address : Ipv4)
  | v6 (address : Ipv6)
  deriving DecidableEq

namespace IpAddress

def isLoopback : IpAddress → Bool
  | v4 address => address.isLoopback
  | v6 address => address.isLoopback

def isUnspecified : IpAddress → Bool
  | v4 address => address.isUnspecified
  | v6 address => address.isUnspecified

def isMulticast : IpAddress → Bool
  | v4 address => address.isMulticast
  | v6 address => address.isMulticast

/-- A mapped address is the address it stands for. -/
def unmapped : IpAddress → IpAddress
  | v4 address => v4 address
  | v6 address => (address.toIpv4Mapped.map v4).getD (v6 address)

end IpAddress

section Reading

/-- The value of a digit, of either case. -/
def digitValue (radix : Nat) (char : Char) : Option Nat :=
  let code := char.toNat
  let value := if char.isDigit then some (code - 48) else if 97 ≤ code ∧ code ≤ 122 then some (code - 87)
    else if 65 ≤ code ∧ code ≤ 90 then some (code - 55) else none
  value.filter (· < radix)

/-- All the digits there are, if they are not too many. -/
def readNumber (radix most bound : Nat) (allowZeroPrefix : Bool) (text : List Char) : Option (Nat × List Char) :=
  let digits := text.takeWhile fun char => (digitValue radix char).isSome
  let value := digits.foldl (fun value digit => value * radix + (digitValue radix digit).getD 0) 0
  if digits = [] ∨ most < digits.length ∨ (!allowZeroPrefix && digits.head? == some '0' && 1 < digits.length) ∨
    bound ≤ value then none
  else some (value, text.drop digits.length)

variable {Item : Type}

/-- All parts but the first stand behind a mark. -/
def readSeparated (mark : Char) (isFirst : Bool) (reader : List Char → Option (Item × List Char)) (text : List Char) :
    Option (Item × List Char) :=
  if isFirst then reader text else match text with
    | [] => none
    | char :: rest => if char = mark then reader rest else none

def readOctet (isFirst : Bool) : List Char → Option (Nat × List Char) :=
  readSeparated '.' isFirst (readNumber 10 3 256 false)

def readIpv4 (text : List Char) : Option (Ipv4 × List Char) := do
  let (first, text) ← readOctet true text
  let (second, text) ← readOctet false text
  let (third, text) ← readOctet false text
  let (fourth, text) ← readOctet false text
  some (⟨.ofNat first, .ofNat second, .ofNat third, .ofNat fourth⟩, text)

/-- Groups until the slots are filled, the last two perhaps as an IPv4 address. -/
def readGroups : Nat → Bool → List Char → List UInt16 × Bool × List Char
  | 0, _, text => ([], false, text)
  | slots + 1, isFirst, text =>
    match if slots = 0 then none else readSeparated ':' isFirst readIpv4 text with
    | some (address, rest) =>
      ([address.first.toUInt16 <<< 8 ||| address.second.toUInt16, address.third.toUInt16 <<< 8 ||| address.fourth.toUInt16],
        true, rest)
    | none => match readSeparated ':' isFirst (readNumber 16 4 65536 true) text with
      | none => ([], false, text)
      | some (group, rest) =>
        let (groups, embedded, rest) := readGroups slots false rest
        (.ofNat group :: groups, embedded, rest)

def readIpv6 (text : List Char) : Option (Ipv6 × List Char) :=
  let (head, embedded, rest) := readGroups 8 true text
  if head.length = 8 then some (.ofGroups head, rest)
  else if embedded then none
  else match rest with
    | ':' :: ':' :: rest =>
      let (tail, _, rest) := readGroups (8 - (head.length + 1)) true rest
      some (.ofGroups (head ++ List.replicate (8 - head.length - tail.length) 0 ++ tail), rest)
    | _ => none

def parseIpAddress (text : String) : Option IpAddress :=
  match (readIpv4 text.toList).map (Prod.map IpAddress.v4 id) <|> (readIpv6 text.toList).map (Prod.map IpAddress.v6 id) with
  | some (address, []) => some address
  | _ => none

variable {rest : List Char}

/-- No digit follows. -/
def Ended (rest : List Char) : Prop := ∀ char ∈ rest.head?, (digitValue 10 char).isSome = false

attribute [local simp] readNumber readSeparated readIpv4 readGroups readIpv6 parseIpAddress in
theorem readNumber_octet {octet : Nat} (small : octet < 256) (ended : Ended rest) :
    readNumber 10 3 256 false (Nat.toDigits 10 octet ++ rest) = some (octet, rest) := by
  have every : ∀ octet < 256, (Nat.toDigits 10 octet).all (fun char => (digitValue 10 char).isSome) ∧
      readNumber 10 3 256 false (Nat.toDigits 10 octet) = some (octet, []) := by decide +kernel
  obtain ⟨digits, alone⟩ := every octet small
  have taken : (Nat.toDigits 10 octet ++ rest).takeWhile (fun char => (digitValue 10 char).isSome) = Nat.toDigits 10 octet := by
    rw [List.takeWhile_append_of_pos (List.all_eq_true.mp digits)]
    cases rest with
    | nil => simp
    | cons char rest => simp [ended char rfl]
  have own : (Nat.toDigits 10 octet).takeWhile (fun char => (digitValue 10 char).isSome) = Nat.toDigits 10 octet := by
    exact List.takeWhile_eq_self_iff.mpr (List.all_eq_true.mp digits)
  rw [readNumber] at alone ⊢
  simp only [taken, own] at alone ⊢
  split at alone
  · cases alone
  · rename_i fits
    rw [if_neg fits]
    simp only [Option.some.injEq, Prod.mk.injEq] at alone
    simp [alone.1]

theorem readIpv4_chars (address : Ipv4) (ended : Ended rest) : readIpv4 (address.chars ++ rest) = some (address, rest) := by
  obtain ⟨first, second, third, fourth⟩ := address
  have dotted : ∀ text, Ended ('.' :: text) := by
    intro text char inside
    cases inside
    decide
  have start (text : List Char) : readOctet true (Nat.toDigits 10 first.toNat ++ '.' :: text) =
      some (first.toNat, '.' :: text) := readNumber_octet first.toNat_lt (dotted text)
  have later (octet : UInt8) {text : List Char} (ended : Ended text) :
      readOctet false ('.' :: (Nat.toDigits 10 octet.toNat ++ text)) = some (octet.toNat, text) :=
    readNumber_octet octet.toNat_lt ended
  simp only [Ipv4.chars, readIpv4, List.append_assoc, List.cons_append, start, later second (dotted _), later third (dotted _),
    later fourth ended, Option.bind_eq_bind, Option.bind_some, UInt8.ofNat_toNat]

theorem parseIpAddress_text (address : Ipv4) : parseIpAddress address.text = some (.v4 address) := by
  have whole := readIpv4_chars address (by simp [Ended] : Ended [])
  rw [List.append_nil] at whole
  rw [parseIpAddress, Ipv4.text, String.toList_ofList, whole]
  rfl

theorem text_injective : Function.Injective Ipv4.text := by
  intro first second same
  have read := congrArg parseIpAddress same
  rw [parseIpAddress_text, parseIpAddress_text] at read
  simpa using read

theorem readNumber_none {radix most bound : Nat} {zeros : Bool} {char : Char} (other : (digitValue radix char).isSome = false) :
    readNumber radix most bound zeros (char :: rest) = none := by
  simp [readNumber, other]

/-- A bracket starts no address. -/
theorem parseIpAddress_bracket (text : String) : parseIpAddress ("[" ++ text) = none := by
  have chars : ("[" ++ text).toList = '[' :: text.toList := by simp
  have noIpv4 : readIpv4 ('[' :: text.toList) = none := by
    rw [readIpv4, readOctet, readSeparated, if_pos rfl, readNumber_none (by decide)]
    rfl
  have noGroup : readSeparated ':' true (readNumber 16 4 65536 true) ('[' :: text.toList) = none := by
    rw [readSeparated, if_pos rfl, readNumber_none (by decide)]
  have noIpv6 : readIpv6 ('[' :: text.toList) = none := by
    have nothing : readGroups 8 true ('[' :: text.toList) = ([], false, '[' :: text.toList) := by
      rw [readGroups, readSeparated, if_pos rfl, noIpv4, noGroup]
      simp
    rw [readIpv6, nothing]
    simp
  rw [parseIpAddress, chars, noIpv4, noIpv6]
  rfl

/-- The characters that addresses are written with. -/
def isAddressChar (char : Char) : Bool := (digitValue 16 char).isSome || char == ':' || char == '.'

/-- What is read in front of the rest has these characters only. -/
def ReadTo (text rest : List Char) : Prop := ∃ used, text = used ++ rest ∧ ∀ char ∈ used, isAddressChar char

variable {text : List Char}

theorem ReadTo.refl (text : List Char) : ReadTo text text := ⟨[], rfl, by simp⟩

theorem ReadTo.trans {middle : List Char} (first : ReadTo text middle) (second : ReadTo middle rest) : ReadTo text rest := by
  obtain ⟨used, rfl, own⟩ := first
  obtain ⟨more, rfl, later⟩ := second
  exact ⟨used ++ more, by simp, List.forall_mem_append.mpr ⟨own, later⟩⟩

theorem ReadTo.cons {char : Char} (own : isAddressChar char) (read : ReadTo text rest) : ReadTo (char :: text) rest := by
  obtain ⟨used, rfl, later⟩ := read
  exact ⟨char :: used, rfl, List.forall_mem_cons.mpr ⟨own, later⟩⟩

theorem digit_of_radix {radix : Nat} {char : Char} (small : radix ≤ 16) (digit : (digitValue radix char).isSome) :
    isAddressChar char := by
  obtain ⟨value, read⟩ := Option.isSome_iff_exists.mp digit
  obtain ⟨known, below⟩ := Option.filter_eq_some_iff.mp read
  have wider : digitValue 16 char = some value :=
    Option.filter_eq_some_iff.mpr ⟨known, decide_eq_true ((of_decide_eq_true below).trans_le small)⟩
  simp [isAddressChar, wider]

theorem readNumber_readTo {radix most bound number : Nat} {zeros : Bool} (small : radix ≤ 16)
    (read : readNumber radix most bound zeros text = some (number, rest)) : ReadTo text rest := by
  rw [readNumber] at read
  split at read
  · cases read
  · cases read
    refine ⟨_, (List.prefix_iff_eq_append.mp (List.takeWhile_prefix _)).symm, fun char inside => ?_⟩
    exact digit_of_radix small (List.mem_takeWhile_imp (p := fun char => (digitValue radix char).isSome) inside)

theorem readSeparated_readTo {mark : Char} {isFirst : Bool} {reader : List Char → Option (Item × List Char)} {item : Item}
    (own : isAddressChar mark) (reads : ∀ {text}, reader text = some (item, rest) → ReadTo text rest)
    (read : readSeparated mark isFirst reader text = some (item, rest)) : ReadTo text rest := by
  rw [readSeparated.eq_def] at read
  split at read
  · exact reads read
  · cases text with
    | nil => cases read
    | cons char text =>
      dsimp only at read
      split at read
      · rename_i same
        exact (reads read).cons (same ▸ own)
      · cases read

theorem readOctet_readTo {isFirst : Bool} {number : Nat} (read : readOctet isFirst text = some (number, rest)) :
    ReadTo text rest :=
  readSeparated_readTo (by decide) (readNumber_readTo (by decide)) read

theorem readIpv4_readTo {address : Ipv4} (read : readIpv4 text = some (address, rest)) : ReadTo text rest := by
  simp only [readIpv4, Option.bind_eq_bind, Option.bind_eq_some_iff, Option.some.injEq, Prod.mk.injEq, Prod.exists] at read
  obtain ⟨_, _, first, _, _, second, _, _, third, _, _, fourth, -, rfl⟩ := read
  exact (readOctet_readTo first).trans ((readOctet_readTo second).trans ((readOctet_readTo third).trans (readOctet_readTo fourth)))

theorem readGroups_readTo (slots : Nat) (isFirst : Bool) (text : List Char) :
    ReadTo text (readGroups slots isFirst text).2.2 := by
  induction slots generalizing isFirst text with
  | zero => exact .refl text
  | succ slots ih =>
    rw [readGroups.eq_def]
    dsimp only
    split
    · rename_i dotted
      split at dotted
      · cases dotted
      · exact readSeparated_readTo (by decide) readIpv4_readTo dotted
    · split
      · exact .refl text
      · rename_i numbered
        exact (readSeparated_readTo (by decide) (readNumber_readTo (by decide)) numbered).trans (ih false _)

theorem readIpv6_readTo {address : Ipv6} (read : readIpv6 text = some (address, rest)) : ReadTo text rest := by
  have head := readGroups_readTo 8 true text
  rw [readIpv6.eq_def] at read
  generalize readGroups 8 true text = groups at head read
  obtain ⟨groups, embedded, middle⟩ := groups
  dsimp only at head read
  split at read
  · cases read
    exact head
  · split at read
    · cases read
    · split at read
      · cases read
        exact head.trans (((readGroups_readTo _ true _).cons (by decide)).cons (by decide))
      · cases read

/-- An address is written with digits, colons and dots. -/
theorem parseIpAddress_chars {text : String} {address : IpAddress} (read : parseIpAddress text = some address) :
    ∀ char ∈ text.toList, isAddressChar char := by
  have whole : ReadTo text.toList [] := by
    rw [parseIpAddress] at read
    cases dotted : readIpv4 text.toList with
    | some found =>
      obtain ⟨_, _ | _⟩ := found
      · exact readIpv4_readTo dotted
      · simp [dotted] at read
    | none => cases grouped : readIpv6 text.toList with
      | some found =>
        obtain ⟨_, _ | _⟩ := found
        · exact readIpv6_readTo grouped
        · simp [dotted, grouped] at read
      | none => simp [dotted, grouped] at read
  obtain ⟨used, same, own⟩ := whole
  rw [same, List.append_nil]
  exact own

end Reading

end DataMax.Library
