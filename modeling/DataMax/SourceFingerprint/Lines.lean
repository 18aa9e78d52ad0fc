import DataMax.SourceFingerprint.Encoding

/-! The digested text determines the set of the components that it was written
from. -/

namespace DataMax.SourceFingerprint

open Domain Library

section Rendering

/-- `{length}:` -/
def number (length : Nat) : List Char := (toString length).toList ++ [':']

/-- The bytes of the characters. -/
def byteSize (chars : List Char) : Nat := (String.ofList chars).utf8ByteSize

def framedText (text : String) : List Char := number (byteSize text.toList) ++ text.toList

/-- A component with the line break after it. -/
def line (component : String × List String) : List Char :=
  framedText component.1 ++ (component.2.flatMap (fun part => '|' :: framedText part) ++ ['\n'])

theorem number_prefixFree : PrefixFree number := by
  apply PrefixFree.terminated
  · intro first second same
    have digits := congrArg (Nat.ofDigitChars 10 · 0) same
    simpa [Nat.toString_eq_repr, Nat.repr_eq_ofList_toDigits] using digits
  · intro length inside
    have digit : ':'.isDigit = true := by
      apply @Nat.isDigit_of_mem_toDigits 10 length _ (by decide) (by decide)
      rwa [Nat.toString_eq_repr, Nat.repr_eq_ofList_toDigits, String.toList_ofList] at inside
    cases digit

theorem framedText_prefixFree : PrefixFree framedText := by
  have numbers := number_prefixFree
  apply numbers.framed
  · intro first second
    simp [byteSize, String.ofList_append]
  · intro chars none
    have empty : String.ofList chars = "" := String.utf8ByteSize_eq_zero_iff.mp none
    simpa using congrArg String.toList empty
  · exact fun _ _ same => String.toList_inj.mp same

theorem line_prefixFree : PrefixFree line := by
  have texts := framedText_prefixFree
  exact texts.pair (texts.sequence (by decide))

theorem canonicalComponent_line (component : String × List String) :
    (canonicalComponent component.1 component.2).toList ++ ['\n'] = line component := by
  have pushed : ∀ (parts : List String) (output : String),
      (parts.foldl (fun output part => output ++ "|" ++ toString part.utf8ByteSize ++ ":" ++ part) output).toList =
        output.toList ++ parts.flatMap fun part => '|' :: framedText part := by
    intro parts
    induction parts with
    | nil => simp
    | cons part rest ih =>
      intro output
      rw [List.foldl_cons, ih]
      simp [framedText, number, byteSize]
  rw [canonicalComponent, pushed]
  simp [line, framedText, number, byteSize]

theorem canonicalComponent_injective :
    Function.Injective fun component : String × List String => canonicalComponent component.1 component.2 := by
  intro first second same
  have lines := line_prefixFree
  apply lines.injective
  rw [← canonicalComponent_line, ← canonicalComponent_line]
  exact congrArg (fun text => text.toList ++ ['\n']) same

/-- The lines of a digested text can be read back. -/
theorem lines_eq {first second : List String}
    (firstLines : ∀ text ∈ first, ∃ component : String × List String, canonicalComponent component.1 component.2 = text)
    (secondLines : ∀ text ∈ second, ∃ component : String × List String,
      canonicalComponent component.1 component.2 = text)
    (same : String.join (first.map (· ++ "\n")) = String.join (second.map (· ++ "\n"))) : first = second := by
  have written : ∀ texts : List String, (∀ text ∈ texts, ∃ component : String × List String,
      canonicalComponent component.1 component.2 = text) →
      ∃ source : List (String × List String), texts = (source.map fun component =>
          canonicalComponent component.1 component.2) ∧
        (String.join (texts.map (· ++ "\n"))).toList = source.flatMap line := by
    intro texts
    induction texts with
    | nil => exact fun _ => ⟨[], rfl, rfl⟩
    | cons text rest ih =>
      intro fits
      obtain ⟨component, rfl⟩ := fits text List.mem_cons_self
      obtain ⟨source, rfl, joined⟩ := ih fun other inside => fits other (List.mem_cons_of_mem _ inside)
      refine ⟨component :: source, rfl, ?_⟩
      rw [List.map_cons, String.join_cons, String.toList_append, joined, List.flatMap_cons,
        ← canonicalComponent_line, String.toList_append]
      rfl
  obtain ⟨source, rfl, firstText⟩ := written first firstLines
  obtain ⟨other, rfl, secondText⟩ := written second secondLines
  have lines := line_prefixFree
  have read := lines.flatMap_injective (fun component => by simp [line])
    (firstText.symm.trans ((congrArg String.toList same).trans secondText))
  rw [read]

end Rendering

section Fingerprint

variable {rfc3339 : DateTime → String} {sha256 : String → List UInt8}
  {first second : SemanticSourceFingerprintInput}

theorem mem_canonical {text : String} : text ∈ canonical rfc3339 first ↔
    ∃ component ∈ components rfc3339 first, canonicalComponent component.1 component.2 = text := by
  rw [canonical, mem_dedupAdjacent_sortBy_self, List.mem_map]

/-- Equal fingerprints come from equal sets of components. -/
theorem sourceFingerprint_eq (collisionFree : Function.Injective sha256) :
    sourceFingerprint rfc3339 sha256 first = sourceFingerprint rfc3339 sha256 second ↔
      ∀ component, component ∈ components rfc3339 first ↔ component ∈ components rfc3339 second := by
  constructor
  · intro same
    have texts := collisionFree (hex_injective same)
    have written : ∀ {input : SemanticSourceFingerprintInput}, ∀ text ∈ canonical rfc3339 input,
        ∃ component : String × List String, canonicalComponent component.1 component.2 = text := by
      intro input text inside
      rw [mem_canonical] at inside
      exact inside.imp fun _ => And.right
    have lines := lines_eq written written texts
    have listed : ∀ {input : SemanticSourceFingerprintInput} {component : String × List String},
        canonicalComponent component.1 component.2 ∈ canonical rfc3339 input ↔
          component ∈ components rfc3339 input := by
      intro input component
      rw [mem_canonical]
      exact ⟨fun ⟨other, inside, equal⟩ => canonicalComponent_injective equal ▸ inside,
        fun inside => ⟨component, inside, rfl⟩⟩
    intro component
    rw [← listed, lines, listed]
  · intro same
    have lines : canonical rfc3339 first = canonical rfc3339 second := by
      apply dedupAdjacent_sortBy_self_congr
      intro text
      simp only [List.mem_map, same]
    rw [sourceFingerprint, sourceFingerprint, lines]

end Fingerprint

end DataMax.SourceFingerprint
