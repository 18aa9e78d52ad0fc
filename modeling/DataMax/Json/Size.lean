import DataMax.Json.Access
import DataMax.Json.Text

/-! How many bytes the text of a JSON value has, and how many more with one more member. -/

namespace DataMax.Json

open Library

def charsSize (chars : List Char) : Nat := (String.ofList chars).utf8ByteSize

@[simp] theorem charsSize_nil : charsSize [] = 0 := rfl

@[simp] theorem charsSize_append (first second : List Char) : charsSize (first ++ second) = charsSize first + charsSize second := by
  rw [charsSize, String.ofList_append, String.utf8ByteSize_append, charsSize, charsSize]

variable (floatText : UInt64 → String)

def Value.size (value : Value) : Nat := (value.text floatText).utf8ByteSize

def memberTokens (entry : String × Value) : List Token := .quoted entry.1.toList :: .bare [':'] :: tokens floatText entry.2

/-- The bytes of a key with its value. -/
def memberSize (entry : String × Value) : Nat := charsSize (render (memberTokens floatText entry))

variable {floatText}

theorem render_append (first second : List Token) : render (first ++ second) = render first ++ render second := by
  rw [render, List.flatMap_append, render, render]

/-- Parts and the commas between them. -/
theorem charsSize_intercalate (parts : List (List Token)) : charsSize (render ([Token.bare [',']].intercalate parts)) =
    (parts.map fun part => charsSize (render part)).sum + (parts.length - 1) := by
  induction parts with
  | nil => rfl
  | cons part rest ih =>
    cases rest with
    | nil => simp
    | cons next others =>
      have comma : charsSize (render [Token.bare [',']]) = 1 := rfl
      rw [List.intercalate_cons_cons, render_append, render_append, charsSize_append, charsSize_append, ih, comma]
      simp only [List.map_cons, List.sum_cons, List.length_cons]
      omega

theorem size_ofMap (map : Map) : (Value.ofMap map).size floatText =
    2 + (map.entries.map (memberSize floatText)).sum + (map.entries.length - 1) := by
  have start : charsSize (render [Token.bare ['{']]) = 1 := rfl
  have stop : charsSize (render [Token.bare ['}']]) = 1 := rfl
  have parts : entryTokens floatText map.entries = map.entries.map (memberTokens floatText) := entryTokens_eq floatText _
  have shape : tokens floatText (Value.ofMap map) = [Token.bare ['{']] ++
      ([Token.bare [',']].intercalate (map.entries.map (memberTokens floatText)) ++ [Token.bare ['}']]) := by
    rw [Value.ofMap, tokens, parts]
    rfl
  have whole : (Value.ofMap map).size floatText = charsSize (render (tokens floatText (Value.ofMap map))) := rfl
  rw [whole, shape, render_append, render_append, charsSize_append, charsSize_append, start, stop, charsSize_intercalate,
    List.map_map, List.length_map]
  have sizes : memberSize floatText = fun entry => charsSize (render (memberTokens floatText entry)) := by
    funext entry
    rw [memberSize]
  simp only [Function.comp_def]
  rw [sizes]
  omega

/-- A new member makes an object longer by itself, and by a comma where there are others. -/
theorem size_insert {map : Map} {key : String} (absent : map.get? key = none) (item : Value) :
    (Value.ofMap (map.insert key item)).size floatText = (Value.ofMap map).size floatText +
      memberSize floatText (key, item) + if map.entries = [] then 0 else 1 := by
  have perm : (map.insert key item).entries.Perm ((key, item) :: map.entries) := SortedMap.insertEntry_perm absent
  rw [size_ofMap, size_ofMap, (perm.map _).sum_eq, perm.length_eq, List.map_cons, List.sum_cons, List.length_cons]
  split
  · rename_i nothing
    rw [nothing]
    simp
  · rename_i some
    have positive := List.length_pos_iff.mpr some
    omega

end DataMax.Json
