import DataMax.Domain.Lines

/-! The five predefined entities of XML, decoded one after the other. -/

namespace DataMax.Ingest

open Domain Library

def decodeXmlEntities (text : String) : String :=
  replaceText "&apos;" "'" <| replaceText "&quot;" "\"" <| replaceText "&amp;" "&" <|
    replaceText "&gt;" ">" <| replaceText "&lt;" "<" text

/-- Without an ampersand there is nothing to decode. -/
theorem decodeXmlEntities_plain {text : String} (noMark : '&' ∉ text.toList) : decodeXmlEntities text = text := by
  have kept : ∀ part replacement : String, '&' ∈ part.toList → replaceText part replacement text = text := by
    intro part replacement mark
    rw [replaceText, replaceAll_eq_self fun inside => noMark (inside.subset mark), String.ofList_toList]
  rw [decodeXmlEntities, kept "&lt;" "<" (by decide), kept "&gt;" ">" (by decide), kept "&amp;" "&" (by decide),
    kept "&quot;" "\"" (by decide), kept "&apos;" "'" (by decide)]

section Escaping

/-- The entity that stands for a character. -/
def entityOf (character : Char) : List Char :=
  if character = '&' then "&amp;".toList
  else if character = '<' then "&lt;".toList
  else if character = '>' then "&gt;".toList
  else if character = '"' then "&quot;".toList
  else if character = '\'' then "&apos;".toList
  else [character]

def escapeXml (text : String) : String := .ofList (text.toList.flatMap entityOf)

variable {done : List Char} {character : Char} {text : List Char}

/-- The characters that were decoded stand for themselves again. -/
def encodedBut (done : List Char) (character : Char) : List Char :=
  if character ∈ done then [character] else entityOf character

def marked : List Char := ['&', '<', '>', '"', '\'']

theorem entityOf_plain (plain : character ∉ marked) : entityOf character = [character] := by
  simp only [marked, List.mem_cons, List.not_mem_nil, or_false, not_or] at plain
  obtain ⟨amp, less, greater, quote, apostrophe⟩ := plain
  rw [entityOf, if_neg amp, if_neg less, if_neg greater, if_neg quote, if_neg apostrophe]

theorem avoids_singleton {mark : Char} {tail : List Char} (apart : character ≠ mark) :
    avoids (mark :: tail) [character] := by
  have different : agree (mark :: tail) [character] = false := by
    rw [Bool.eq_false_iff, ne_eq, agree_iff, List.cons_prefix_cons, List.cons_prefix_cons]
    exact fun either => either.elim (fun same => apart same.1.symm) fun same => apart same.1
  simp [avoids, different]

theorem entityOf_marked : ∀ other ∈ marked, entityOf other = '&' :: (entityOf other).tail := by
  have every : (marked.all fun other => entityOf other = '&' :: (entityOf other).tail) = true := by decide
  exact fun other listed => of_decide_eq_true (List.all_eq_true.mp every other listed)

theorem amp_marked : '&' ∈ marked := by decide

/-- No entity starts inside another one. -/
theorem entityOf_avoids {other : Char} (listed : other ∈ marked) (apart : character ≠ other) :
    avoids (entityOf other) (entityOf character) := by
  by_cases plain : character ∈ marked
  · have pairs : (marked.all fun other => marked.all fun character =>
        character = other || avoids (entityOf other) (entityOf character)) = true := by decide
    have pair := List.all_eq_true.mp (List.all_eq_true.mp pairs other listed) character plain
    simpa [apart] using pair
  · have noMark : character ≠ '&' := by
      rintro rfl
      exact plain amp_marked
    rw [entityOf_plain plain, entityOf_marked other listed]
    exact avoids_singleton noMark

/-- While the ampersand is still encoded, decoding one more entity decodes it alone. -/
theorem decode_next {other : Char} (listed : other ∈ marked) (fresh : other ∉ done) (encoded : '&' ∉ done) :
    replaceAll (entityOf other) [other] (text.flatMap (encodedBut done)) = text.flatMap (encodedBut (other :: done)) := by
  refine replaceAll_flatMap (by rw [entityOf_marked other listed]; exact List.cons_ne_nil _ _) fun character => ?_
  by_cases same : character = other
  · left
    rw [same, encodedBut, encodedBut, if_neg fresh, if_pos List.mem_cons_self]
    exact ⟨rfl, rfl⟩
  · right
    have kept : encodedBut (other :: done) character = encodedBut done character := by
      simp [encodedBut, same]
    refine ⟨?_, kept⟩
    rw [encodedBut]
    split
    · rename_i decoded
      have noMark : character ≠ '&' := by
        rintro rfl
        exact encoded decoded
      rw [entityOf_marked other listed]
      exact avoids_singleton noMark
    · exact entityOf_avoids listed same

/-- Once the ampersand is decoded, an entity that the text itself spells is decoded as well. -/
theorem decode_after {other : Char} (listed : other ∈ marked) (fresh : other ∉ done)
    (plain : (entityOf other).all (fun character => character ∉ marked ∨ character ∈ done))
    (unmarked : '&' ∉ (entityOf other).tail) : replaceAll (entityOf other) [other] (text.flatMap (encodedBut done)) =
      (replaceAll (entityOf other) [other] text).flatMap (encodedBut (other :: done)) := by
  simp only [List.all_eq_true, decide_eq_true_eq] at plain
  have hidden : other ∉ entityOf other := fun inside =>
    (plain other inside).elim (fun unlisted => unlisted listed) fresh
  have own : encodedBut done other = entityOf other := if_neg fresh
  have others : ∀ character, character ≠ other → encodedBut done character = [character] ∨
      character ∉ entityOf other ∧ avoids (entityOf other) (encodedBut done character) ∧
        ∃ rest, encodedBut done character = '&' :: rest := by
    intro character apart
    by_cases known : character ∈ done
    · exact .inl (if_pos known)
    · rw [encodedBut, if_neg known]
      by_cases special : character ∈ marked
      · refine .inr ⟨fun inside => (plain character inside).elim (fun unlisted => unlisted special) known,
          entityOf_avoids listed apart, _, entityOf_marked character special⟩
      · exact .inl (entityOf_plain special)
  have results : (fun character => if character = other then [other] else encodedBut done character) =
      encodedBut (other :: done) := by
    funext character
    by_cases same : character = other <;> simp [encodedBut, same]
  rw [entityOf_marked other listed] at hidden own others ⊢
  have encodes : EncodesOne '&' (entityOf other).tail other (encodedBut done) := ⟨unmarked, hidden, own, others⟩
  rw [encodes.replaceAll_flatMap, results]

/-- What is left of an escaped text after decoding. -/
theorem decode_escapeXml (text : String) : decodeXmlEntities (escapeXml text) =
    replaceText "&apos;" "'" (replaceText "&quot;" "\"" text) := by
  have start : encodedBut [] = entityOf := by
    funext character
    simp [encodedBut]
  have last : ∀ rest : List Char, rest.flatMap (encodedBut ['\'', '"', '&', '>', '<']) = rest := by
    intro rest
    refine (List.flatMap_congr fun character _ => ?_).trans (List.flatMap_singleton' rest)
    rw [encodedBut]
    split
    · rfl
    · rename_i unknown
      refine entityOf_plain fun special => unknown ?_
      simp only [marked, List.mem_cons, List.not_mem_nil, or_false] at special ⊢
      tauto
  have less := @decode_next [] text.toList '<' (by decide) (by decide) (by decide)
  have greater := @decode_next ['<'] text.toList '>' (by decide) (by decide) (by decide)
  have amp := @decode_next ['>', '<'] text.toList '&' (by decide) (by decide) (by decide)
  have quote := @decode_after ['&', '>', '<'] text.toList '"' (by decide) (by decide) (by decide) (by decide)
  have apostrophe := @decode_after ['"', '&', '>', '<'] (replaceAll (entityOf '"') ['"'] text.toList) '\'' (by decide)
    (by decide) (by decide) (by decide)
  rw [last] at apostrophe
  rw [start] at less
  simp only [decodeXmlEntities, escapeXml, replaceText, String.toList_ofList]
  change String.ofList (replaceAll (entityOf '\'') ['\''] (replaceAll (entityOf '"') ['"'] (replaceAll (entityOf '&') ['&']
    (replaceAll (entityOf '>') ['>'] (replaceAll (entityOf '<') ['<'] (text.toList.flatMap entityOf)))))) = _
  rw [less, greater, amp, quote, apostrophe]
  rfl

/-- An escaped text comes back unless it spells the entity of a quote or of an apostrophe. -/
theorem entities_restored_iff (text : String) : decodeXmlEntities (escapeXml text) = text ↔
    contains text "&quot;" = false ∧ contains text "&apos;" = false := by
  have absent : ∀ part text : String, contains text part = false ↔ ¬ part.toList <:+: text.toList := by
    intro part text
    rw [← Bool.not_eq_true, contains_iff]
  rw [decode_escapeXml, absent, absent, ← String.toList_inj]
  simp only [replaceText, String.toList_ofList]
  constructor
  · intro same
    have quoteless : ¬ "&quot;".toList <:+: text.toList := by
      intro inside
      have less := @length_replaceAll_lt _ _ "&quot;".toList "\"".toList text.toList (by decide) inside
      have more := @length_replaceFrom_le _ _ "&apos;".toList "'".toList
        (replaceAll "&quot;".toList "\"".toList text.toList) (by decide) 0 (Nat.zero_le _)
      rw [← replaceAll, same] at more
      omega
    rw [replaceAll_eq_self quoteless] at same
    exact ⟨quoteless, (replaceAll_eq_self_iff (by decide)).mp same⟩
  · rintro ⟨quoteless, apostropheless⟩
    rw [replaceAll_eq_self quoteless, replaceAll_eq_self apostropheless]

/-- The text that shows the entity of a quote comes back as a quote. -/
theorem entities_restored_quote : ¬ ∀ text, decodeXmlEntities (escapeXml text) = text := by
  intro restored
  have shown := restored "&quot;"
  revert shown
  decide

end Escaping

end DataMax.Ingest
