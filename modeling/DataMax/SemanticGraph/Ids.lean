import DataMax.SemanticGraph.Matcher

/-! The ids of nodes and edges tell apart what they were made from, as far as the
digest does. -/

namespace DataMax.SemanticGraph

open Domain Library SemanticUnderstanding

section Text

/-- No character of the text is blank or separates the parts of an id. -/
def IsPlain (text : String) : Prop := ∀ char ∈ text.toList, isWhitespace char = false ∧ char ≠ '\x00'

instance (text : String) : Decidable (IsPlain text) :=
  List.decidableBAll (fun char => isWhitespace char = false ∧ char ≠ '\x00') text.toList

variable {text other : String}

theorem IsPlain.trim_eq (plain : IsPlain text) : trim text = text :=
  trim_eq_self fun char inside => (plain char inside).1

theorem IsPlain.append (plain : IsPlain text) (following : IsPlain other) : IsPlain (text ++ other) := by
  intro char inside
  rw [String.toList_append, List.mem_append] at inside
  exact inside.elim (plain char) (following char)

theorem digit_plain : ∀ digit : Fin 16, isWhitespace (Nat.digitChar digit) = false ∧ Nat.digitChar digit ≠ '\x00' := by
  decide

theorem hex_plain (bytes : List UInt8) : IsPlain (hex bytes) := by
  intro char inside
  rw [hex, String.toList_ofList, List.mem_flatMap] at inside
  obtain ⟨byte, _, within⟩ := inside
  obtain ⟨digit, rfl⟩ := mem_hexByte within
  exact digit_plain digit

theorem uuid_plain (uuid : UuidBytes) : IsPlain uuid.text := by
  intro char inside
  rcases UuidBytes.mem_text inside with rfl | ⟨digit, rfl⟩
  · decide
  · exact digit_plain digit

theorem afterColon_append (bare : ':' ∉ text.toList) : afterColon (text ++ ":" ++ other) = other := by
  have skipped : (text ++ ":" ++ other).toList.dropWhile (· ≠ ':') = ':' :: other.toList := by
    rw [String.toList_append, String.toList_append, List.append_assoc, List.dropWhile_append_of_pos]
    · rfl
    · intro char inside
      have different : char ≠ ':' := fun same => bare (same ▸ inside)
      simpa using different
  rw [afterColon, skipped]
  exact String.ofList_toList

end Text

section Digests

variable {digest : String → List UInt8} {kind : String} {parts others : List String}

theorem foldl_parts (start : String) (parts : List String) :
    (parts.foldl (fun text part => text ++ "\x00" ++ trim part) start).toList =
      start.toList ++ parts.flatMap fun part => '\x00' :: (trim part).toList := by
  induction parts generalizing start with
  | nil => simp
  | cons head rest ih =>
    rw [List.foldl_cons, ih]
    simp

theorem semanticId_plain (plain : IsPlain (trim kind)) : IsPlain (semanticId digest kind parts) := by
  refine (plain.append ?_).append (hex_plain _)
  intro char inside
  obtain rfl : char = ':' := by simpa using inside
  decide

/-- What follows the kind is the digest. -/
theorem semanticId_eq_of_afterColon (bare : ':' ∉ (trim kind).toList)
    (same : afterColon (semanticId digest kind parts) = afterColon (semanticId digest kind others)) :
    semanticId digest kind parts = semanticId digest kind others := by
  simp only [semanticId, stableSemanticId] at same ⊢
  rw [afterColon_append bare, afterColon_append bare] at same
  rw [same]

variable (collisionFree : Function.Injective digest)

include collisionFree

theorem semanticId_parts (same : semanticId digest kind parts = semanticId digest kind others) :
    (parts.flatMap fun part => '\x00' :: (trim part).toList) =
      others.flatMap fun part => '\x00' :: (trim part).toList := by
  have digests := String.append_right_inj _ |>.mp same
  have texts := congrArg String.toList (collisionFree (hex_injective digests))
  rw [foldl_parts, foldl_parts] at texts
  exact List.append_cancel_left texts

theorem semanticId_injective (plain : ∀ part ∈ parts, IsPlain part) (othersPlain : ∀ part ∈ others, IsPlain part)
    (same : semanticId digest kind parts = semanticId digest kind others) : parts = others := by
  have rendered := semanticId_parts collisionFree same
  have rows : ∀ list : List String, (∀ part ∈ list, IsPlain part) →
      (list.flatMap fun part => '\x00' :: (trim part).toList) = (list.map String.toList).flatMap ('\x00' :: ·) := by
    intro list each
    rw [List.flatMap_map]
    exact List.flatMap_congr fun part inside => by rw [(each part inside).trim_eq]
  have bare : ∀ list : List String, (∀ part ∈ list, IsPlain part) →
      ∀ part ∈ list.map String.toList, '\x00' ∉ part := by
    intro list each part inside separator
    obtain ⟨text, listed, rfl⟩ := List.mem_map.mp inside
    exact (each text listed _ separator).2 rfl
  rw [rows parts plain, rows others othersPlain] at rendered
  exact List.map_injective_iff.mpr (fun _ _ => String.toList_injective)
    (announced_injective (bare parts plain) (bare others othersPlain) rendered)

theorem semanticId_single {part other : String} (same : semanticId digest kind [part] = semanticId digest kind [other]) :
    trim part = trim other := by
  have rendered := semanticId_parts collisionFree same
  simp only [List.flatMap_cons, List.flatMap_nil, List.append_nil, List.cons.injEq, true_and] at rendered
  exact String.toList_injective rendered

theorem semanticId_second {first part other : String}
    (same : semanticId digest kind [first, part] = semanticId digest kind [first, other]) : trim part = trim other := by
  have rendered := semanticId_parts collisionFree same
  simp only [List.flatMap_cons, List.flatMap_nil, List.append_nil, List.cons_append, List.cons.injEq, true_and,
    List.append_cancel_left_eq] at rendered
  exact String.toList_injective rendered

end Digests

section Keys

variable {kind other : DatasetSemanticGraphNodeKind} {identity different : CrossDatasetCanonicalIdentity}
  {key : String}

/-- What an identity key starts with tells the kind of its endpoint. -/
def identityStarts : List (String × DatasetSemanticGraphNodeKind) :=
  [("shared_document", .document), ("canonical_document", .document), ("exact_content", .document),
    ("exact_source_field", .field), ("confirmed_concept", .concept)]

theorem exactIdentityKey_start (found : exactIdentityKey kind identity = some key) :
    ∃ start part parts, (start, kind) ∈ identityStarts ∧ boundedIdentityParts start (part :: parts) = some key := by
  unfold exactIdentityKey at found
  split at found
  case h_6 => cases found
  all_goals exact ⟨_, _, _, by simp [identityStarts], found⟩

theorem boundedIdentityParts_text {start : String} {parts : List String}
    (found : boundedIdentityParts start parts = some key) :
    (∀ part ∈ parts, trim part ≠ "") ∧
      key.toList = start.toList ++ parts.flatMap fun part => '\x00' :: (trim part).toList := by
  rw [boundedIdentityParts] at found
  split at found
  · cases found
  · rename_i allowed
    cases found
    refine ⟨?_, foldl_parts start parts⟩
    intro part inside blank
    exact allowed (List.any_eq_true.mpr ⟨part, inside, by simp [blank]⟩)

/-- Nothing at the ends of a key is blank. -/
theorem exactIdentityKey_trim (found : exactIdentityKey kind identity = some key) : trim key = key := by
  obtain ⟨start, part, parts, listed, bounded⟩ := exactIdentityKey_start found
  obtain ⟨filled, text⟩ := boundedIdentityParts_text bounded
  have visible : ∀ entry ∈ identityStarts, ∃ char rest, entry.1.toList = char :: rest ∧ isWhitespace char = false := by
    simp only [identityStarts, List.forall_mem_cons]
    refine ⟨⟨_, _, rfl, rfl⟩, ⟨_, _, rfl, rfl⟩, ⟨_, _, rfl, rfl⟩, ⟨_, _, rfl, rfl⟩, ⟨_, _, rfl, rfl⟩, by simp⟩
  apply trim_eq_self_of_ends
  · obtain ⟨first, rest, shape, seen⟩ := visible _ listed
    rw [text, shape]
    intro char head
    cases head
    exact seen
  · obtain ⟨earlier, last, ends⟩ := List.eq_nil_or_concat (part :: parts) |>.resolve_left (by simp)
    intro char final
    have nonblank := filled last (by simp [ends])
    cases shape : (trim last).toList.getLast? with
    | none =>
      have none : (trim last).toList = [] := List.getLast?_eq_none_iff.mp shape
      exact False.elim (nonblank (String.toList_injective (by rw [none]; rfl)))
    | some ending =>
      rw [text, ends, List.concat_eq_append, List.flatMap_append] at final
      have same : ending = char := by simpa [List.getLast?_append, List.getLast?_cons, shape] using final
      exact trim_last (same ▸ shape)

theorem exactIdentityKey_kind (found : exactIdentityKey kind identity = some key)
    (also : exactIdentityKey other different = some key) : kind = other := by
  have starts : ∀ {kind identity}, exactIdentityKey kind identity = some key →
      ∃ start, (start, kind) ∈ identityStarts ∧ key.toList.takeWhile (· ≠ '\x00') = start.toList := by
    intro kind identity found
    obtain ⟨start, part, parts, listed, bounded⟩ := exactIdentityKey_start found
    have bare : ∀ entry ∈ identityStarts, '\x00' ∉ entry.1.toList := by decide
    refine ⟨start, listed, ?_⟩
    rw [(boundedIdentityParts_text bounded).2, List.takeWhile_append_of_pos]
    · simp
    · intro char inside
      have apart : char ≠ '\x00' := fun same => bare _ listed (same ▸ inside)
      simpa using apart
  obtain ⟨start, listed, first⟩ := starts found
  obtain ⟨begin, within, second⟩ := starts also
  have same : start = begin := String.toList_injective (first.symm.trans second)
  have unique : ∀ entry ∈ identityStarts, ∀ another ∈ identityStarts, entry.1 = another.1 → entry.2 = another.2 := by
    decide
  exact unique _ listed _ within same

end Keys

section Endpoints

variable {digest : String → List UInt8} {dataset : UuidBytes} {value text : String}

theorem alphanum_plain {char : Char} (alphanumeric : char.isAlphanum) :
    isWhitespace char = false ∧ char ≠ '\x00' := by
  have code := alphanum_code alphanumeric
  constructor
  · simp [isWhitespace]
    omega
  · rintro rfl
    simp at code

theorem isSafeLocalNodeId_plain (safe : isSafeLocalNodeId value) : IsPlain value := by
  simp only [isSafeLocalNodeId, Bool.and_eq_true] at safe
  have allowed := List.all_eq_true.mp safe.1.1.2
  intro char inside
  have listed := allowed char inside
  simp only [Bool.or_eq_true, decide_eq_true_eq, List.mem_cons, List.not_mem_nil, or_false] at listed
  rcases listed with alphanumeric | rfl | rfl | rfl
  · exact alphanum_plain alphanumeric
  all_goals decide

/-- A kept id starts with a namespace, so it is never taken for an opaque one. -/
theorem isSafeLocalNodeId_ne_digested (safe : isSafeLocalNodeId value) : value ≠ "opaque:" ++ text := by
  rintro rfl
  simp only [isSafeLocalNodeId, Bool.and_eq_true] at safe
  have named := safe.1.1.1.2
  have lower : (asciiLower ("opaque:" ++ text)).toList = "opaque:".toList ++ text.toList.map Char.toLower := by
    rw [asciiLower, String.toList_map, String.toList_append, List.map_append]
    rfl
  simp [startsWith, lower] at named

theorem afterColon_endpoint (parts : List String) : IsPlain (afterColon (semanticId digest "endpoint" parts)) := by
  have bare : ':' ∉ (trim "endpoint").toList := by decide
  rw [semanticId, stableSemanticId, afterColon_append bare]
  exact hex_plain _

theorem safeLocalNodeId_plain (dataset : UuidBytes) (value : String) : IsPlain (safeLocalNodeId digest dataset value) := by
  simp only [safeLocalNodeId]
  split
  · rename_i safe
    exact isSafeLocalNodeId_plain safe
  · have opaqueStart : IsPlain "opaque:" := by decide
    exact opaqueStart.append (afterColon_endpoint _)

theorem scopedSemanticEndpointId_plain (dataset : UuidBytes) (value : String) :
    IsPlain (scopedSemanticEndpointId digest dataset value) := by
  have mark : IsPlain "d:" ∧ IsPlain ":" := by decide
  exact ((mark.1.append (uuid_plain dataset)).append mark.2).append (safeLocalNodeId_plain dataset value)

variable (collisionFree : Function.Injective digest)

include collisionFree

theorem safeLocalNodeId_injective {other : String}
    (same : safeLocalNodeId digest dataset value = safeLocalNodeId digest dataset other) : trim value = trim other := by
  simp only [safeLocalNodeId] at same
  split at same
  · rename_i safe
    split at same
    · exact same
    · exact False.elim (isSafeLocalNodeId_ne_digested safe same)
  · split at same
    · rename_i safe
      exact False.elim (isSafeLocalNodeId_ne_digested safe same.symm)
    · have bare : ':' ∉ (trim "endpoint").toList := by decide
      have digests := semanticId_eq_of_afterColon bare (String.append_right_inj _ |>.mp same)
      have values := semanticId_second collisionFree digests
      rwa [trim_trim, trim_trim] at values

/-- The scoped id is that of one endpoint. -/
theorem scopedSemanticEndpointId_injective {another : UuidBytes} {other : String}
    (same : scopedSemanticEndpointId digest dataset value = scopedSemanticEndpointId digest another other) :
    dataset = another ∧ trim value = trim other := by
  have free : PrefixFree fun uuid : UuidBytes => uuid.text.toList ++ [':'] := by
    apply PrefixFree.terminated
    · exact fun _ _ equal => UuidBytes.text_injective (String.toList_injective equal)
    · exact UuidBytes.not_mem_text (by decide) (by decide)
  have texts := congrArg String.toList same
  simp only [scopedSemanticEndpointId, String.toList_append, List.append_assoc] at texts
  have following := List.append_cancel_left texts
  obtain ⟨rfl, locals⟩ := free dataset another (safeLocalNodeId digest dataset value).toList
    (safeLocalNodeId digest another other).toList (by simpa using following)
  exact ⟨rfl, safeLocalNodeId_injective collisionFree (String.toList_injective locals)⟩

end Endpoints

end DataMax.SemanticGraph
