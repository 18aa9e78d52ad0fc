import DataMax.Json.Value

/-! Keys and texts of a JSON value at every depth. -/

namespace DataMax.Json

open Library

variable {keyOk otherKeyOk : String → Prop} {textOk otherTextOk : Option String → String → Prop}
  {under : Option String} {value : Value} {entries : List (String × Value)}

/-- At every depth the keys are fine, and so are the texts under the key they stand
right under, if they stand under one. -/
inductive Throughout (keyOk : String → Prop) (textOk : Option String → String → Prop) : Option String → Value → Prop where
  | null {under : Option String} : Throughout keyOk textOk under .null
  | bool {under : Option String} {value : Bool} : Throughout keyOk textOk under (.bool value)
  | number {under : Option String} {value : Number} : Throughout keyOk textOk under (.number value)
  | string {under : Option String} {text : String} (fine : textOk under text) :
      Throughout keyOk textOk under (.string text)
  | array {under : Option String} {items : List Value} (fine : ∀ item ∈ items, Throughout keyOk textOk none item) :
      Throughout keyOk textOk under (.array items)
  | object {under : Option String} {entries : List (String × Value)}
      (keys : ∀ entry ∈ entries, keyOk entry.1)
      (fine : ∀ entry ∈ entries, Throughout keyOk textOk (some entry.1) entry.2) :
      Throughout keyOk textOk under (.object entries)

theorem Throughout.entry (whole : Throughout keyOk textOk under (.object entries)) {entry : String × Value}
    (inside : entry ∈ entries) : keyOk entry.1 ∧ Throughout keyOk textOk (some entry.1) entry.2 := by
  cases whole with
  | object keys fine => exact ⟨keys entry inside, fine entry inside⟩

/-- What is fine is fine by a weaker measure. -/
theorem Throughout.mono (whole : Throughout keyOk textOk under value)
    (keys : ∀ key, keyOk key → otherKeyOk key) (texts : ∀ under text, textOk under text → otherTextOk under text) :
    Throughout otherKeyOk otherTextOk under value := by
  induction whole with
  | null => exact .null
  | bool => exact .bool
  | number => exact .number
  | string fine => exact .string (texts _ _ fine)
  | array _ ih => exact .array ih
  | object named _ ih => exact .object (fun entry inside => keys _ (named entry inside)) ih

/-- Two measures are one. -/
theorem Throughout.and (first : Throughout keyOk textOk under value) (second : Throughout otherKeyOk otherTextOk under value) :
    Throughout (fun key => keyOk key ∧ otherKeyOk key) (fun under text => textOk under text ∧ otherTextOk under text)
      under value := by
  induction first with
  | null => exact .null
  | bool => exact .bool
  | number => exact .number
  | string fine =>
    cases second with
    | string also => exact .string ⟨fine, also⟩
  | array _ ih =>
    cases second with
    | array also => exact .array fun item inside => ih item inside (also item inside)
  | object named _ ih =>
    cases second with
    | object others also =>
      exact .object (fun entry inside => ⟨named entry inside, others entry inside⟩)
        fun entry inside => ih entry inside (also entry inside)

/-- Where the key does not matter, a value may stand under any. -/
theorem Throughout.anywhere {textFine : String → Prop} {other : Option String}
    (whole : Throughout keyOk (fun _ => textFine) under value) : Throughout keyOk (fun _ => textFine) other value := by
  cases whole with
  | null => exact .null
  | bool => exact .bool
  | number => exact .number
  | string fine => exact .string fine
  | array fine => exact .array fine
  | object keys fine => exact .object keys fine

end DataMax.Json
