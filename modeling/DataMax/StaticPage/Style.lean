import DataMax.Domain.Text
import DataMax.Json.Access
import DataMax.Library.Declarations
import Mathlib.Data.List.Forall2

/-! The style attribute of a rendered page: what its palette can declare. -/

namespace DataMax.StaticPage

open Domain Json Library

section Rendering

/-- The value under a path of keys. -/
def nested (value : Value) (path : List String) : Option Value := path.foldlM Value.get value

def nestedString (value : Value) (path : List String) (fallback : String) : String :=
  match nested value path with
  | none => fallback
  | some current => ((current.asStr.map trim).filter (· ≠ "")).getD fallback

def nestedNumber (value : Value) (path : List String) (fallback : UInt64) : UInt64 :=
  match nested value path with
  | none => fallback
  | some current => current.asF64.getD fallback

def styleDeclaration (name value : String) : String := name ++ ":" ++ value ++ ";"

def staticPageVisualStyleAttr (visualSpec : Value) : String :=
  let background := nestedString visualSpec ["palette", "background"] "#f7f8fb"
  let surface := nestedString visualSpec ["palette", "surface"] "rgba(255,255,255,0.76)"
  let text := nestedString visualSpec ["palette", "text"] "#101827"
  let muted := nestedString visualSpec ["palette", "mutedText"] "#475569"
  let accent := nestedString visualSpec ["palette", "accent"] "#2563eb"
  let chart := nestedString visualSpec ["palette", "chart"] "#0ea5e9"
  let radius := nestedNumber visualSpec ["surface", "radius"] (doubleBits false (Float64.nearestRank 26))
  styleDeclaration "--static-page-bg" background ++ styleDeclaration "--static-page-surface" surface ++
    styleDeclaration "--static-page-text" text ++ styleDeclaration "--static-page-muted" muted ++
    styleDeclaration "--static-page-accent" accent ++ styleDeclaration "--static-page-chart" chart ++
    styleDeclaration "--static-page-radius" (displayF64 radius ++ "px")

end Rendering

section Declarations

/-- The custom properties of the palette, with the key and the fallback of each. -/
def paletteProperties : List (String × String × String) := [
  ("--static-page-bg", "background", "#f7f8fb"),
  ("--static-page-surface", "surface", "rgba(255,255,255,0.76)"),
  ("--static-page-text", "text", "#101827"),
  ("--static-page-muted", "mutedText", "#475569"),
  ("--static-page-accent", "accent", "#2563eb"),
  ("--static-page-chart", "chart", "#0ea5e9")]

def customProperties : List String := paletteProperties.map (·.1) ++ ["--static-page-radius"]

/-- What the attribute says of each property. -/
def styleProperties (visualSpec : Value) : List (String × String) :=
  (paletteProperties.map fun (name, key, fallback) => (name, nestedString visualSpec ["palette", key] fallback)) ++
    [("--static-page-radius",
      displayF64 (nestedNumber visualSpec ["surface", "radius"] (doubleBits false (Float64.nearestRank 26))) ++ "px")]

def partText (property : String × String) : List Char := (property.1 ++ ":").toList ++ property.2.toList

/-- The declaration is of this property and comes from its own part of the text. -/
structure Declares (property : String × String) (declaration : List Char) : Prop where
  name : Style.propertyName declaration = property.1.toList
  own : Style.declarations (partText property) = [declaration]

/-- The declarations of the attribute are those of the seven properties, one of each. -/
def IsClosedStyle (visualSpec : Value) : Prop :=
  List.Forall₂ Declares (styleProperties visualSpec) (Style.declarations (staticPageVisualStyleAttr visualSpec).toList)

variable {visualSpec : Value}

theorem styleAttr_parts (visualSpec : Value) : (staticPageVisualStyleAttr visualSpec).toList =
    ((styleProperties visualSpec).map partText).flatMap (· ++ [';']) := by
  have declared : ∀ name value, (styleDeclaration name value).toList = partText (name, value) ++ [';'] := by
    simp [styleDeclaration, partText]
  simp only [staticPageVisualStyleAttr, String.toList_append, declared, styleProperties,
    paletteProperties, List.map_cons, List.map_nil, List.cons_append, List.nil_append, List.flatMap_cons,
    List.flatMap_nil, List.append_assoc, List.append_nil]

theorem properties_named (visualSpec : Value) : (styleProperties visualSpec).map (·.1) = customProperties := by
  simp [styleProperties, customProperties, paletteProperties]

theorem label_fresh {property : String × String} (listed : property ∈ styleProperties visualSpec) :
    Style.IsLabel (property.1 ++ ":").toList ∧
      Style.propertyName (property.1 ++ ":").toList = property.1.toList := by
  have labels : ∀ name ∈ customProperties, Style.IsLabel (name ++ ":").toList ∧
      Style.propertyName (name ++ ":").toList = name.toList := by
    have checked : customProperties.all fun name => decide (Style.IsLabel (name ++ ":").toList ∧
        Style.propertyName (name ++ ":").toList = name.toList) := by decide +kernel
    exact fun name inside => of_decide_eq_true (List.all_eq_true.mp checked name inside)
  exact labels property.1 (properties_named visualSpec ▸ List.mem_map_of_mem listed)

theorem isOneValue_radius (bits : UInt64) : Style.isOneValue (displayF64 bits ++ "px").toList = true := by
  apply Style.isOneValue_quiet
  intro character inside
  rw [String.toList_append, List.mem_append] at inside
  rcases inside with numeral | unit
  · exact isNumeralChar_displayF64 numeral
  · exact List.all_eq_true.mp (by decide : "px".toList.all Style.isQuiet = true) character unit

/-- The properties are the declared ones if each of their texts is one value. -/
theorem closedStyle_iff_properties : IsClosedStyle visualSpec ↔
    ∀ property ∈ styleProperties visualSpec, Style.isOneValue property.2.toList = true := by
  have parts := Style.declarations_parts_iff ((styleProperties visualSpec).map partText)
  rw [← styleAttr_parts, List.forall₂_map_left_iff, List.forall_mem_map] at parts
  have each : (∀ property ∈ styleProperties visualSpec, (Style.scan .start (partText property)).atTop = true ∧
      ∃ declaration, Style.declarations (partText property) = [declaration]) ↔
        ∀ property ∈ styleProperties visualSpec, Style.isOneValue property.2.toList = true :=
    forall₂_congr fun property listed => Style.labelled_iff (label_fresh listed).1
  rw [← each, ← parts]
  constructor
  · exact fun closed => closed.imp fun _ _ declares => declares.own
  · intro own
    have kept := (List.forall₂_and_left _ _).mpr ⟨fun property listed => listed, own⟩
    refine kept.imp fun property declaration both => ⟨?_, both.2⟩
    have fresh := label_fresh both.1
    rw [Style.propertyName_labelled fresh.1 both.2, fresh.2]

/-- A background that fetches an image. -/
def fetchingPalette : Value :=
  json [("palette", json [("background", .string "red;background:url(https://example.com/track)")])]

end Declarations

end DataMax.StaticPage
