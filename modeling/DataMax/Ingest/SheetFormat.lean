import DataMax.Domain.Lines
import DataMax.Library.Decimal

/-! The cells of a sheet as they are shown: serial numbers under a heading that says so become
dates, times of day and hours. -/

namespace DataMax.Ingest

open Domain Library

def sheetRowIsHeaderLike (row : List String) : Bool :=
  let nonEmpty := row.filter (trim · ≠ "")
  nonEmpty.length ≥ 2 && !(nonEmpty.any fun value => (parseF64 (trim value)).isSome)

def sheetHeaderRowCount (rows : List (List String)) : Nat :=
  min (max ((rows.take 3).takeWhile sheetRowIsHeaderLike).length 1) rows.length

def sheetColumnHints (rows : List (List String)) (headerRowCount : Nat) : List String :=
  let maxColumns := (rows.map List.length).foldl max 0
  (List.range maxColumns).map fun columnIndex =>
    " ".intercalate ((((rows.take headerRowCount).filterMap (·[columnIndex]?)).map trim).filter (· ≠ ""))

def sheetHeaderIsClockTime (lowerHint hint : String) : Bool :=
  ["card", "clock", "punch"].any (contains lowerHint) || ["打卡", "上班", "下班", "签到", "签退"].any (contains hint)

def sheetHeaderIsDate (lowerHint hint : String) : Bool :=
  (contains lowerHint "date" || contains hint "日期") && !(sheetHeaderIsClockTime lowerHint hint)

def sheetHeaderIsWorkDuration (lowerHint hint : String) : Bool :=
  ["workperiod", "work_period", "duration"].any (contains lowerHint) || ["工作时长", "工时"].any (contains hint)

def parseExcelSerialNumber (value : String) : Option UInt64 := (parseF64 value).filter isFiniteDouble

/-- The number that a finite double is. -/
def serialValue (serial : UInt64) : ℚ :=
  let magnitude := Float64.rankMagnitude (rankOf serial)
  if isNegative serial then -magnitude else magnitude

/-- `{:02}` -/
def twoDigits (number : Nat) : String := if number < 10 then "0" ++ toString number else toString number

/-- Year, month and day of the day that is so many days after 30 December 1899, counted from a March
at which a cycle of four hundred years begins. -/
def excelDate (days : Nat) : Nat × Nat × Nat :=
  let day := days + 693899
  let dayOfEra := day % 146097
  let yearOfEra := (dayOfEra - dayOfEra / 1460 + dayOfEra / 36524 - dayOfEra / 146096) / 365
  let dayOfYear := dayOfEra - (365 * yearOfEra + yearOfEra / 4 - yearOfEra / 100)
  let marchMonth := (5 * dayOfYear + 2) / 153
  let month := if marchMonth < 10 then marchMonth + 3 else marchMonth - 9
  (day / 146097 * 400 + yearOfEra + (if month ≤ 2 then 1 else 0), month,
    dayOfYear - (153 * marchMonth + 2) / 5 + 1)

def formatExcelSerialDate (serial : UInt64) : Option String :=
  let value := serialValue serial
  if 1 ≤ value ∧ value < 100000 then
    let (year, month, day) := excelDate value.floor.toNat
    some (toString year ++ "-" ++ twoDigits month ++ "-" ++ twoDigits day)
  else none

/-- The seconds are a product of doubles, rounded half away from zero. -/
def formatExcelSerialClockTime (serial : UInt64) : Option String :=
  let value := serialValue serial
  if value = 0 then some "未打卡"
  else if 1 ≤ value ∧ value < 100000 then
    let product := Float64.rankMagnitude (Float64.nearestRank ((value - value.floor) * 86400))
    let totalSeconds := min (product + 1 / 2).floor.toNat 86399
    some (twoDigits (totalSeconds / 3600) ++ ":" ++ twoDigits (totalSeconds % 3600 / 60))
  else none

def trimEndMatches (character : Char) (text : String) : String := .ofList (text.toList.rdropWhile (· = character))

/-- `{:.2}`, and then no zeros at the end of the fraction. -/
def formatDecimalHours (value : UInt64) : String :=
  let hundredths := Float64.nearest (Float64.rankMagnitude (rankOf value) * 100)
  let sign := if isNegative value then "-" else ""
  trimEndMatches '.' (trimEndMatches '0' (sign ++ toString (hundredths / 100) ++ "." ++ twoDigits (hundredths % 100)))

def formatSheetCellText (value : String) (headerHint : Option String) : String :=
  let trimmed := trim value
  if trimmed = "" then ""
  else
    let hint := headerHint.getD ""
    let lowerHint := asciiLower hint
    match parseExcelSerialNumber trimmed with
    | none => value
    | some number =>
      if sheetHeaderIsClockTime lowerHint hint then (formatExcelSerialClockTime number).getD value
      else if sheetHeaderIsDate lowerHint hint then (formatExcelSerialDate number).getD value
      else if sheetHeaderIsWorkDuration lowerHint hint then formatDecimalHours number ++ "小时"
      else value

end DataMax.Ingest
