import DataMax.Domain.Words
import DataMax.Library.Decimal
import DataMax.Library.Framing
import DataMax.Library.Separated
import Mathlib.Algebra.Order.Round
import Mathlib.Data.Rat.Floor
import Mathlib.Tactic.Linarith
import Mathlib.Tactic.Ring

/-! The timestamps in the transcripts of media. Doubles are read as the rational numbers that they are. -/

namespace DataMax.Ingest

open Domain Library

/-- `parse::<f64>` of a text that names a finite number. -/
def parseSeconds (text : String) : Option ℚ := do
  let (negative, unsigned) := splitSign text.toList
  let (digits, shift, rest) ← splitMantissa unsigned
  let exponent ← exponentValue rest
  let magnitude := scaleTen digits (shift + exponent)
  some (if negative then -magnitude else magnitude)

def parseMediaTimestamp (value : String) : Option ℚ :=
  let normalized := (trim value).map fun ch => if ch = ',' then '.' else ch
  match splitAt ':' normalized with
  | [hours, minutes, seconds] => do
    some ((← parseSeconds hours) * 3600 + (← parseSeconds minutes) * 60 + (← parseSeconds seconds))
  | [minutes, seconds] => do some ((← parseSeconds minutes) * 60 + (← parseSeconds seconds))
  | [seconds] => parseSeconds seconds
  | _ => none

/-- `as u64` -/
def asU64 (value : ℤ) : Nat := min value.toNat (2 ^ 64 - 1)

/-- `f64::round`, away from zero in the middle. -/
def roundAway (value : ℚ) : ℤ := if 0 ≤ value then ⌊value + 1 / 2⌋ else -⌊1 / 2 - value⌋

/-- At least so many digits. -/
def zeroPadded (width number : Nat) : String :=
  .ofList (List.replicate (width - (Nat.toDigits 10 number).length) '0' ++ Nat.toDigits 10 number)

def formatMediaTimestamp (seconds : ℚ) : String :=
  let safeSeconds := max seconds 0
  let total := asU64 ⌊safeSeconds⌋
  let millis := asU64 (roundAway ((safeSeconds - total) * 1000))
  let hours := total / 3600
  let minutes := total % 3600 / 60
  let secs := total % 60
  if 0 < hours then
    zeroPadded 2 hours ++ ":" ++ zeroPadded 2 minutes ++ ":" ++ zeroPadded 2 secs ++ "." ++ zeroPadded 3 millis
  else zeroPadded 2 minutes ++ ":" ++ zeroPadded 2 secs ++ "." ++ zeroPadded 3 millis

/-- What a clock shows, the hours only when there are some. -/
def clockText (hours minutes secs millis : Nat) : String :=
  (if 0 < hours then zeroPadded 2 hours ++ ":" else "") ++ zeroPadded 2 minutes ++ ":" ++ zeroPadded 2 secs ++ "." ++
    zeroPadded 3 millis

/-- The text shows the clock and reads as the nearest number of milliseconds. -/
structure IsTimestamp (seconds : ℚ) (text : String) : Prop where
  form : ∃ hours minutes secs millis, minutes < 60 ∧ secs < 60 ∧ millis < 1000 ∧ text = clockText hours minutes secs millis
  nearest : ∃ count : ℕ, parseMediaTimestamp text = some ((count : ℚ) / 1000) ∧
    ∀ other : ℤ, |seconds - (count : ℚ) / 1000| ≤ |seconds - (other : ℚ) / 1000|

section Reading

variable {width number : Nat} {chars : List Char}

theorem zeroPadded_digit {ch : Char} (inside : ch ∈ (zeroPadded width number).toList) : ch.isDigit := by
  rw [zeroPadded, String.toList_ofList] at inside
  rcases List.mem_append.mp inside with zero | digit
  · rw [(List.mem_replicate.mp zero).2]
    decide
  · exact Nat.isDigit_of_mem_toDigits (by decide) (by decide) digit

theorem digitsValue_zeroPadded (width number : Nat) : digitsValue (zeroPadded width number).toList = number := by
  rw [zeroPadded, String.toList_ofList]
  change Nat.ofDigitChars 10 _ 0 = number
  rw [Nat.ofDigitChars_append, Nat.ofDigitChars_replicate_zero, Nat.mul_zero, Nat.ofDigitChars_ten_toDigits]

theorem digitsValue_append (front back : List Char) :
    digitsValue (front ++ back) = digitsValue front * 10 ^ back.length + digitsValue back := by
  change Nat.ofDigitChars 10 _ 0 = Nat.ofDigitChars 10 _ 0 * _ + Nat.ofDigitChars 10 _ 0
  rw [Nat.ofDigitChars_append, Nat.ofDigitChars_eq_ofDigitChars_zero, Nat.mul_comm]

theorem zeroPadded_filled (width number : Nat) : (zeroPadded width number).toList ≠ [] := by
  rw [zeroPadded, String.toList_ofList]
  exact List.append_ne_nil_of_right_ne_nil _ Nat.toDigits_ne_nil

theorem splitSign_digit (first : ∀ ch ∈ chars.head?, ch.isDigit) : splitSign chars = (false, chars) := by
  rw [splitSign.eq_def]
  split
  · exact absurd (first '-' rfl) (by decide)
  · exact absurd (first '+' rfl) (by decide)
  · rfl

variable {whole fraction : List Char}

/-- Digits read as their number. -/
theorem parseSeconds_whole (filled : whole ≠ []) (digits : ∀ ch ∈ whole, ch.isDigit) :
    parseSeconds (.ofList whole) = some (digitsValue whole : ℚ) := by
  have sign : splitSign whole = (false, whole) := splitSign_digit fun ch first => digits ch (List.mem_of_mem_head? first)
  have mantissa : splitMantissa whole = some (digitsValue whole, 0, []) := by
    rw [splitMantissa, List.takeWhile_eq_self_iff.mpr digits, List.dropWhile_eq_nil_iff.mpr digits]
    simp [filled]
  rw [parseSeconds, String.toList_ofList, sign]
  simp [mantissa, exponentValue, scaleTen]

/-- And digits behind a point as a fraction. -/
theorem parseSeconds_fraction (filled : whole ≠ []) (digits : ∀ ch ∈ whole, ch.isDigit)
    (later : ∀ ch ∈ fraction, ch.isDigit) : parseSeconds (.ofList (whole ++ '.' :: fraction)) =
      some ((digitsValue whole : ℚ) + (digitsValue fraction : ℚ) / 10 ^ fraction.length) := by
  have sign : splitSign (whole ++ '.' :: fraction) = (false, whole ++ '.' :: fraction) := by
    refine splitSign_digit fun ch first => digits ch ?_
    rw [List.head?_append_of_ne_nil _ filled] at first
    exact List.mem_of_mem_head? first
  have point : ¬ '.'.isDigit = true := by decide
  have mantissa : splitMantissa (whole ++ '.' :: fraction) =
      some (digitsValue (whole ++ fraction), -(fraction.length : Int), []) := by
    rw [splitMantissa, List.takeWhile_append_of_pos digits, List.dropWhile_append_of_pos digits,
      List.takeWhile_cons_of_neg point, List.dropWhile_cons_of_neg point, List.append_nil]
    simp [filled, List.takeWhile_eq_self_iff.mpr later, List.dropWhile_eq_nil_iff.mpr later]
  have scaled : scaleTen (digitsValue (whole ++ fraction)) (-fraction.length) =
      (digitsValue whole : ℚ) + (digitsValue fraction : ℚ) / 10 ^ fraction.length := by
    have power : (10 : ℚ) ^ fraction.length ≠ 0 := pow_ne_zero _ (by decide)
    rw [scaleTen]
    split
    · rename_i none
      obtain rfl : fraction = [] := List.length_eq_zero_iff.mp (by omega)
      simp [digitsValue]
    · rw [digitsValue_append, neg_neg, Int.toNat_natCast]
      push_cast
      field_simp
  rw [parseSeconds, String.toList_ofList, sign]
  simp [mantissa, exponentValue, scaled]

end Reading

section Clocks

variable {hours minutes secs millis : Nat} {text : String}

/-- What clocks are written with. -/
def isClockChar (ch : Char) : Bool := ch.isDigit || ch == ':' || ch == '.'

theorem normalized_clock (clock : ∀ ch ∈ text.toList, isClockChar ch) :
    ((trim text).map fun ch => if ch = ',' then '.' else ch) = text := by
  have visible : ∀ ch, isClockChar ch → isWhitespace ch = false := by
    intro ch kind
    simp only [isClockChar, Bool.or_eq_true, beq_iff_eq] at kind
    rcases kind with (digit | rfl) | rfl
    · exact visible_alphanum (by simp [Char.isAlphanum, digit])
    · decide
    · decide
  rw [trim_eq_self fun ch inside => visible ch (clock ch inside)]
  refine String.toList_injective ?_
  rw [String.toList_map]
  refine (List.map_congr_left fun ch inside => if_neg ?_).trans (List.map_id _)
  rintro rfl
  exact absurd (clock _ inside) (by decide)

/-- The parts of a clock, between colons. -/
def clockParts (hours minutes secs millis : Nat) : List String :=
  (if 0 < hours then [zeroPadded 2 hours] else []) ++ [zeroPadded 2 minutes, zeroPadded 2 secs ++ "." ++ zeroPadded 3 millis]

theorem toList_clockText (hours minutes secs millis : Nat) : (clockText hours minutes secs millis).toList =
    [':'].intercalate ((clockParts hours minutes secs millis).map String.toList) := by
  have joined : clockText hours minutes secs millis = ":".intercalate (clockParts hours minutes secs millis) := by
    rw [clockText, clockParts]
    split <;> simp [String.intercalate_cons_cons, String.append_assoc]
  rw [joined, String.toList_intercalate]
  rfl

theorem mem_clockParts {part : String} (listed : part ∈ clockParts hours minutes secs millis) {ch : Char} (inside : ch ∈ part.toList) :
    ch.isDigit ∨ ch = '.' := by
  have parts : part = zeroPadded 2 hours ∨ part = zeroPadded 2 minutes ∨ part = zeroPadded 2 secs ++ "." ++ zeroPadded 3 millis := by
    rw [clockParts] at listed
    split at listed
    · simpa only [List.singleton_append, List.mem_cons, List.not_mem_nil, or_false] using listed
    · right
      simpa only [List.nil_append, List.mem_cons, List.not_mem_nil, or_false] using listed
  rcases parts with rfl | rfl | rfl
  · exact .inl (zeroPadded_digit inside)
  · exact .inl (zeroPadded_digit inside)
  · simp only [String.toList_append, List.mem_append] at inside
    rcases inside with (digit | point) | digit
    · exact .inl (zeroPadded_digit digit)
    · exact .inr (by simpa using point)
    · exact .inl (zeroPadded_digit digit)

theorem splitAt_clockText (hours minutes secs millis : Nat) :
    splitAt ':' (clockText hours minutes secs millis) = clockParts hours minutes secs millis := by
  have filled : (clockParts hours minutes secs millis).map String.toList ≠ [] := by simp [clockParts]
  have bare : ∀ part ∈ clockParts hours minutes secs millis, ':' ∉ part.toList := by
    intro part listed inside
    rcases mem_clockParts listed inside with digit | point
    · exact absurd digit (by decide)
    · exact absurd point (by decide)
  rw [splitAt, toList_clockText, splitOn_joined ':' filled]
  have pieces : ((clockParts hours minutes secs millis).map String.toList).flatMap (·.splitOn ':') =
      (clockParts hours minutes secs millis).map String.toList := by
    rw [List.flatMap_map, List.flatMap_congr fun part listed => List.splitOn_eq_singleton (bare part listed)]
    exact (List.map_eq_flatMap).symm
  rw [pieces, List.map_map]
  exact (List.map_congr_left fun part _ => String.ofList_toList).trans (List.map_id _)

theorem parseSeconds_padded (width number : Nat) : parseSeconds (zeroPadded width number) = some (number : ℚ) := by
  have read := parseSeconds_whole (zeroPadded_filled width number) fun ch inside => zeroPadded_digit inside
  rwa [String.ofList_toList, digitsValue_zeroPadded] at read

theorem parseSeconds_pointed (secs millis : Nat) : parseSeconds (zeroPadded 2 secs ++ "." ++ zeroPadded 3 millis) =
    some ((secs : ℚ) + (millis : ℚ) / 10 ^ (zeroPadded 3 millis).length) := by
  have read := parseSeconds_fraction (zeroPadded_filled 2 secs) (fun ch inside => zeroPadded_digit inside)
    (fun ch (inside : ch ∈ (zeroPadded 3 millis).toList) => zeroPadded_digit inside)
  have shape : String.ofList ((zeroPadded 2 secs).toList ++ '.' :: (zeroPadded 3 millis).toList) =
      zeroPadded 2 secs ++ "." ++ zeroPadded 3 millis := String.toList_injective (by simp)
  rw [shape, digitsValue_zeroPadded, digitsValue_zeroPadded, String.length_toList] at read
  exact read

/-- A clock reads as its seconds, and the digits behind the point as a fraction, however many there are. -/
theorem parse_clockText (hours minutes secs millis : Nat) : parseMediaTimestamp (clockText hours minutes secs millis) =
    some ((hours : ℚ) * 3600 + minutes * 60 + secs + millis / 10 ^ (zeroPadded 3 millis).length) := by
  have clock : ∀ ch ∈ (clockText hours minutes secs millis).toList, isClockChar ch := by
    intro ch inside
    rw [toList_clockText] at inside
    rcases mem_intercalate inside with rfl | ⟨_, mapped, within⟩
    · rfl
    · obtain ⟨part, listed, rfl⟩ := List.mem_map.mp mapped
      rcases mem_clockParts listed within with digit | rfl
      · simp [isClockChar, digit]
      · rfl
  rw [parseMediaTimestamp, normalized_clock clock, splitAt_clockText, clockParts]
  by_cases some : 0 < hours
  · rw [if_pos some]
    simp [parseSeconds_padded, parseSeconds_pointed, add_assoc]
  · obtain rfl : hours = 0 := by omega
    rw [if_neg some]
    simp [parseSeconds_padded, parseSeconds_pointed, add_assoc]

end Clocks

section Rounding

variable {seconds : ℚ}

/-- The milliseconds within the second, rounded on their own. -/
def ownMillis (seconds : ℚ) : Nat := (round (Int.fract seconds * 1000)).toNat

theorem asU64_of_small {value : ℤ} (small : value < 2 ^ 64) : asU64 value = value.toNat := by
  rw [asU64]
  omega

theorem ownMillis_eq (seconds : ℚ) : (ownMillis seconds : ℤ) = round (Int.fract seconds * 1000) := by
  refine Int.toNat_of_nonneg ?_
  rw [round_eq]
  have part := Int.fract_nonneg seconds
  exact Int.floor_nonneg.mpr (by linarith)

theorem ownMillis_lt_iff (seconds : ℚ) : ownMillis seconds < 1000 ↔ Int.fract seconds < 1999 / 2000 := by
  have whole : ownMillis seconds < 1000 ↔ round (Int.fract seconds * 1000) < 1000 := by
    rw [← ownMillis_eq]
    norm_cast
  rw [whole, round_eq, Int.floor_lt]
  constructor <;> intro below <;> push_cast at * <;> linarith

theorem ownMillis_le (seconds : ℚ) : ownMillis seconds ≤ 1000 := by
  have whole : (ownMillis seconds : ℤ) < 1001 := by
    rw [ownMillis_eq, round_eq, Int.floor_lt]
    have part := Int.fract_lt_one seconds
    push_cast
    linarith
  omega

/-- What is written: the whole seconds by the clock, and behind them the milliseconds. -/
theorem formatMediaTimestamp_eq (nonneg : 0 ≤ seconds) (small : seconds < 2 ^ 53) :
    formatMediaTimestamp seconds = clockText (⌊seconds⌋.toNat / 3600) (⌊seconds⌋.toNat % 3600 / 60)
      (⌊seconds⌋.toNat % 60) (ownMillis seconds) := by
  have whole : asU64 ⌊seconds⌋ = ⌊seconds⌋.toNat := by
    refine asU64_of_small (Int.floor_lt.mpr (small.trans ?_))
    norm_num
  have cast : ((⌊seconds⌋.toNat : ℕ) : ℚ) = ⌊seconds⌋ := by
    exact_mod_cast Int.toNat_of_nonneg (Int.floor_nonneg.mpr nonneg)
  have rest : seconds - ⌊seconds⌋ = Int.fract seconds := Int.self_sub_floor seconds
  have millis : asU64 (roundAway (Int.fract seconds * 1000)) = ownMillis seconds := by
    have positive : 0 ≤ Int.fract seconds * 1000 := mul_nonneg (Int.fract_nonneg seconds) (by norm_num)
    rw [roundAway, if_pos positive, ← round_eq, asU64_of_small, ownMillis]
    rw [← ownMillis_eq]
    have bound := ownMillis_le seconds
    omega
  rw [formatMediaTimestamp, max_eq_left nonneg]
  rw [whole, cast, rest, millis, clockText]
  split <;> simp [String.append_assoc]

theorem zeroPadded_length {width number : Nat} (long : (Nat.toDigits 10 number).length ≤ width) :
    (zeroPadded width number).length = width := by
  rw [zeroPadded, String.length_ofList, List.length_append, List.length_replicate]
  omega

/-- The text reads as the whole seconds and the digits behind the point. -/
theorem parse_formatMediaTimestamp (nonneg : 0 ≤ seconds) (small : seconds < 2 ^ 53) :
    parseMediaTimestamp (formatMediaTimestamp seconds) =
      some ((⌊seconds⌋ : ℚ) + ownMillis seconds / 10 ^ (zeroPadded 3 (ownMillis seconds)).length) := by
  have parts : ⌊seconds⌋.toNat / 3600 * 3600 + ⌊seconds⌋.toNat % 3600 / 60 * 60 + ⌊seconds⌋.toNat % 60 = ⌊seconds⌋.toNat := by
    omega
  have cast : ((⌊seconds⌋.toNat : ℕ) : ℚ) = ⌊seconds⌋ := by
    exact_mod_cast Int.toNat_of_nonneg (Int.floor_nonneg.mpr nonneg)
  rw [formatMediaTimestamp_eq nonneg small, parse_clockText, ← cast]
  refine congrArg some ?_
  conv_rhs => rw [← parts]
  push_cast
  ring

theorem isTimestamp_of_short (nonneg : 0 ≤ seconds) (small : seconds < 2 ^ 53) (short : ownMillis seconds < 1000) :
    IsTimestamp seconds (formatMediaTimestamp seconds) where
  form := ⟨⌊seconds⌋.toNat / 3600, ⌊seconds⌋.toNat % 3600 / 60, ⌊seconds⌋.toNat % 60, ownMillis seconds, by omega, by omega,
    short, formatMediaTimestamp_eq nonneg small⟩
  nearest := by
    have digits : (Nat.toDigits 10 (ownMillis seconds)).length ≤ 3 := (Nat.length_toDigits_le_iff (by decide) (by decide)).mpr short
    have cast : ((⌊seconds⌋.toNat : ℕ) : ℚ) = ⌊seconds⌋ := by
      exact_mod_cast Int.toNat_of_nonneg (Int.floor_nonneg.mpr nonneg)
    have count : ((⌊seconds⌋.toNat * 1000 + ownMillis seconds : ℕ) : ℚ) = round (seconds * 1000) := by
      have split : seconds * 1000 = Int.fract seconds * 1000 + (⌊seconds⌋ * 1000 : ℤ) := by
        have parts := Int.floor_add_fract seconds
        push_cast
        linarith
      rw [split, round_add_intCast, ← ownMillis_eq]
      push_cast
      rw [cast]
      ring
    refine ⟨⌊seconds⌋.toNat * 1000 + ownMillis seconds, ?_, fun other => ?_⟩
    · rw [parse_formatMediaTimestamp nonneg small, zeroPadded_length digits]
      push_cast
      rw [cast]
      refine congrArg some ?_
      ring
    · rw [count]
      have nearest := round_le (seconds * 1000) other
      have scaled (number : ℚ) : |seconds - number / 1000| = |seconds * 1000 - number| / 1000 := by
        have thousand : (0 : ℚ) < 1000 := by norm_num
        rw [← abs_of_pos thousand, ← abs_div, abs_of_pos thousand]
        congr 1
        field_simp
      rw [scaled, scaled]
      exact div_le_div_of_nonneg_right nearest (by norm_num)

/-- A second rounded up is written as a fourth digit: it is never carried. -/
theorem short_of_isTimestamp (nonneg : 0 ≤ seconds) (small : seconds < 2 ^ 53)
    (shown : IsTimestamp seconds (formatMediaTimestamp seconds)) : ownMillis seconds < 1000 := by
  by_contra long
  have full : ownMillis seconds = 1000 := le_antisymm (ownMillis_le seconds) (Nat.le_of_not_lt long)
  have late : 1999 / 2000 ≤ Int.fract seconds := not_lt.mp fun early => long ((ownMillis_lt_iff seconds).mpr early)
  obtain ⟨count, read, nearest⟩ := shown.nearest
  rw [parse_formatMediaTimestamp nonneg small, full] at read
  have four : (zeroPadded 3 1000).length = 4 := by decide
  rw [four] at read
  have value : (count : ℚ) / 1000 = ⌊seconds⌋ + 1 / 10 := by
    rw [← Option.some.inj read]
    norm_num
  have next := nearest ((⌊seconds⌋ + 1) * 1000)
  have parts := Int.floor_add_fract seconds
  have below := Int.fract_lt_one seconds
  rw [value] at next
  push_cast at next
  rw [mul_div_cancel_right₀ _ (by norm_num), abs_of_nonneg (by linarith), abs_of_nonpos (by linarith)] at next
  linarith

/-- A timestamp is right exactly where the milliseconds do not round up to a whole second. -/
theorem media_timestamps_round_trip_iff (seconds : ℚ) (nonneg : 0 ≤ seconds) (small : seconds < 2 ^ 53) :
    IsTimestamp seconds (formatMediaTimestamp seconds) ↔ Int.fract seconds < 1999 / 2000 := by
  rw [← ownMillis_lt_iff]
  exact ⟨short_of_isTimestamp nonneg small, isTimestamp_of_short nonneg small⟩

theorem media_timestamp_half : IsTimestamp (5 / 2) (formatMediaTimestamp (5 / 2)) ↔ Int.fract (5 / 2 : ℚ) < 1999 / 2000 :=
  media_timestamps_round_trip_iff (5 / 2) (by norm_num) (by norm_num)

theorem media_timestamp_uncarried : ¬ ∀ seconds : ℚ, 0 ≤ seconds → seconds < 2 ^ 53 →
    IsTimestamp seconds (formatMediaTimestamp seconds) := by
  intro always
  have early := short_of_isTimestamp (by norm_num) (by norm_num) (always (599996 / 10000) (by norm_num) (by norm_num))
  exact absurd early (by decide +kernel)

end Rounding

end DataMax.Ingest
