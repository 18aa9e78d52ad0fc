import DataMax.ExternalChannel.PublicText
import DataMax.Library.Framing
import DataMax.Library.Separated

/-! Public replies and stream texts show no internal word, unless they start like a link,
and no internal context. -/

namespace DataMax.ExternalChannel

open Domain Library

section Words

variable {word : List Char} {text : String}

/-- The word does not occur in the text. -/
def Lacks (word : List Char) (text : String) : Prop := ¬ word <:+: text.toList

def internalWords : List String := ["GPT-Image-2", "Image2", "Cloudflare", "Codex", "效果图", "生图", "视觉合同"]

def HidesWords (text : String) : Prop := ∀ word ∈ internalWords, Lacks word.toList text

/-- A word of one line that blanks, points and replacements leave alone. -/
structure IsLineWord (word : List Char) : Prop where
  nonempty : word ≠ []
  oneLine : '\n' ∉ word
  pointless : '.' ∉ word
  lineFeed : staysApart word "\n".toList
  blank : staysApart word " ".toList

theorem Lacks.of_infix {shorter : String} (lacks : Lacks word text) (inside : shorter.toList <:+: text.toList) :
    Lacks word shorter := fun occurs => lacks (occurs.trans inside)

theorem lacks_replaceText {part replacement : String} (nonempty : word ≠ [])
    (apart : staysApart word replacement.toList) (absent : word = part.toList ∨ Lacks word text) :
    Lacks word (replaceText part replacement text) := by
  rw [Lacks, replaceText, String.toList_ofList]
  exact not_infix_replaceAll apart nonempty absent

/-- A word that one of the replacements replaces does not occur afterwards. -/
theorem lacks_replaceEach {pairs : List (String × String)} (nonempty : word ≠ [])
    (apart : ∀ pair ∈ pairs, staysApart word pair.2.toList)
    (absent : Lacks word text ∨ ∃ pair ∈ pairs, word = pair.1.toList) : Lacks word (replaceEach pairs text) := by
  induction pairs generalizing text with
  | nil => simpa [replaceEach] using absent
  | cons head rest ih =>
    apply ih (fun pair listed => apart pair (List.mem_cons_of_mem head listed))
    have first := apart head List.mem_cons_self
    rcases absent with lacks | ⟨pair, listed, same⟩
    · exact .inl (lacks_replaceText nonempty first (.inr lacks))
    · rcases List.mem_cons.mp listed with rfl | later
      · exact .inl (lacks_replaceText nonempty first (.inl same))
      · exact .inr ⟨pair, later, same⟩

theorem publicText_hides (other : looksLikeLink text = false) : HidesWords (externalChannelPublicText text) := by
  have apart : ∀ word ∈ internalWords, ∀ pair ∈ wordReplacements, staysApart word.toList pair.2.toList := by decide
  have replaced : ∀ word ∈ internalWords, word.toList ≠ [] ∧ ∃ pair ∈ wordReplacements, word.toList = pair.1.toList := by
    decide
  intro word listed
  rw [externalChannelPublicText, if_neg (by simp [other])]
  exact lacks_replaceEach (replaced word listed).1 (apart word listed) (.inr (replaced word listed).2)

end Words

section Parts

variable {word : List Char} {text : String}

theorem infix_dropWhile_ends (dropped : Char → Bool) (characters : List Char) :
    ((characters.dropWhile dropped).reverse.dropWhile dropped).reverse <:+: characters := by
  have ending : (characters.dropWhile dropped).reverse.dropWhile dropped <:+: (characters.dropWhile dropped).reverse :=
    (List.dropWhile_suffix dropped).isInfix
  have turned := List.reverse_infix.mpr ending
  rw [List.reverse_reverse] at turned
  exact turned.trans (List.dropWhile_suffix dropped).isInfix

theorem lacks_trim (lacks : Lacks word text) : Lacks word (trim text) :=
  lacks.of_infix (by rw [trim, String.toList_ofList]; exact infix_dropWhile_ends _ _)

theorem lacks_trimEnd (lacks : Lacks word text) : Lacks word (trimEnd text) := by
  apply lacks.of_infix
  rw [trimEnd, String.toList_ofList, ← List.reverse_infix, List.reverse_reverse]
  exact (List.dropWhile_suffix _).isInfix

theorem lacks_takeText (lacks : Lacks word text) (count : Nat) : Lacks word (takeText count text) :=
  lacks.of_infix (by rw [takeText, String.toList_ofList]; exact (List.take_prefix _ _).isInfix)

theorem lacks_lines (lacks : Lacks word text) : ∀ line ∈ lines text, Lacks word line := by
  have within : ∀ piece ∈ text.toList.splitOn '\n', piece <:+: text.toList := by
    intro piece listed
    exact infix_of_mem_splitOnP listed
  have shorter : ∀ piece : List Char, dropCarriageReturn piece <:+: piece := by
    intro piece
    rw [dropCarriageReturn]
    split
    · exact (List.dropLast_prefix piece).isInfix
    · exact List.infix_rfl
  intro line listed
  obtain ⟨characters, inside, rfl⟩ := List.mem_map.mp listed
  apply lacks.of_infix
  rw [String.toList_ofList]
  have ended : characters ∈ (text.toList.splitOn '\n').dropLast.map dropCarriageReturn → characters <:+: text.toList := by
    intro dropped
    obtain ⟨piece, kept, rfl⟩ := List.mem_map.mp dropped
    exact (shorter piece).trans (within piece (List.dropLast_subset _ kept))
  split at inside
  · exact ended inside
  · rcases List.mem_append.mp inside with earlier | last
    · exact ended earlier
    · rw [List.mem_singleton.mp last]
      cases final : (text.toList.splitOn '\n').getLast? with
      | none => exact List.nil_infix
      | some piece => exact within piece (List.mem_of_getLast? final)

theorem lacks_joinLines (plain : IsLineWord word) {lines : List String} (each : ∀ line ∈ lines, Lacks word line) :
    Lacks word (joinLines lines) := by
  have shape : (joinLines lines).toList = ['\n'].intercalate (lines.map String.toList) := by
    simp [joinLines, String.toList_intercalate]
  rw [Lacks, shape]
  clear shape
  induction lines with
  | nil => simpa using plain.nonempty
  | cons head rest ih =>
    have first := each head List.mem_cons_self
    have later := ih fun line listed => each line (List.mem_cons_of_mem head listed)
    cases rest with
    | nil => simpa [Lacks] using first
    | cons next others =>
      rw [List.map_cons, List.intercalate_cons_of_ne_nil (by simp), List.append_assoc]
      intro occurs
      rcases (infix_append_cons plain.oneLine).mp occurs with inside | inside
      · exact first inside
      · exact later inside

end Parts

section Readable

variable {word : List Char} {text : String}

theorem lacks_dedupeLinkLines {lines : List String} (each : ∀ line ∈ lines, Lacks word line) (seenLinks : List String) :
    ∀ line ∈ dedupeLinkLines seenLinks lines, Lacks word line := by
  induction lines generalizing seenLinks with
  | nil => exact fun _ inside => False.elim (List.not_mem_nil inside)
  | cons head rest ih =>
    have first := each head List.mem_cons_self
    have later := ih fun line listed => each line (List.mem_cons_of_mem head listed)
    rw [dedupeLinkLines]
    split
    · split
      · exact later seenLinks
      · exact List.forall_mem_cons.mpr ⟨first, later _⟩
    · exact List.forall_mem_cons.mpr ⟨first, later seenLinks⟩

theorem lacks_collapseBlankLines (nonempty : word ≠ []) {lines : List String} (each : ∀ line ∈ lines, Lacks word line)
    (blankSeen : Bool) : ∀ line ∈ collapseBlankLines blankSeen lines, Lacks word line := by
  have empty : Lacks word "" := by simpa [Lacks] using nonempty
  induction lines generalizing blankSeen with
  | nil => exact fun _ inside => False.elim (List.not_mem_nil inside)
  | cons head rest ih =>
    have first := each head List.mem_cons_self
    have later := ih fun line listed => each line (List.mem_cons_of_mem head listed)
    rw [collapseBlankLines]
    split
    · split
      · exact later true
      · exact List.forall_mem_cons.mpr ⟨empty, later true⟩
    · exact List.forall_mem_cons.mpr ⟨lacks_trimEnd first, later false⟩

theorem lacks_stripEnvelope (plain : IsLineWord word) (lacks : Lacks word text) :
    Lacks word (stripEmbeddedExternalChannelJsonEnvelope text) := by
  rw [stripEmbeddedExternalChannelJsonEnvelope]
  apply lacks_joinLines plain
  intro line listed
  have kept := (List.mem_filter.mp listed).1
  split at kept
  · exact lacks_lines lacks line kept
  · exact lacks_lines (lacks_trim (lacks_takeText lacks _)) line kept

theorem lacks_dedupe (plain : IsLineWord word) (lacks : Lacks word text) :
    Lacks word (dedupePublicGeneratedArtifactLinksInText text) :=
  lacks_joinLines plain (lacks_dedupeLinkLines (lacks_lines lacks) [])

theorem lacks_collapse (plain : IsLineWord word) (lacks : Lacks word text) :
    Lacks word (collapsePublicTextSpacing text) :=
  lacks_trim (lacks_joinLines plain (lacks_collapseBlankLines plain.nonempty (lacks_lines lacks) false))

theorem lacks_readable (plain : IsLineWord word) (lacks : Lacks word text) :
    Lacks word (externalChannelPublicReadableText text) := by
  rw [externalChannelPublicReadableText]
  apply lacks_collapse plain
  apply lacks_dedupe plain
  apply lacks_stripEnvelope plain
  apply lacks_replaceText plain.nonempty plain.blank (.inr _)
  apply lacks_replaceText plain.nonempty plain.lineFeed (.inr _)
  exact lacks_replaceText plain.nonempty plain.lineFeed (.inr (lacks_trim lacks))

/-- Three points do not complete a word without points. -/
theorem infix_points {shown : List Char} (nonempty : word ≠ []) (pointless : '.' ∉ word)
    (occurs : word <:+: shown ++ "...".toList) : word <:+: shown := by
  have points : "...".toList = ['.', '.', '.'] := rfl
  rw [points, infix_append_cons pointless] at occurs
  refine occurs.resolve_right fun inside => ?_
  obtain ⟨first, rest⟩ := List.exists_cons_of_ne_nil nonempty
  obtain ⟨others, rfl⟩ := rest
  have placed : first ∈ ['.', '.'] := inside.subset List.mem_cons_self
  simp only [List.mem_cons, List.not_mem_nil, or_false, or_self] at placed
  exact pointless (placed ▸ List.mem_cons_self)

theorem lacks_truncate (nonempty : word ≠ []) (pointless : '.' ∉ word) (lacks : Lacks word text) (maxChars : Nat) :
    Lacks word (truncateExternalChannelPublicText text maxChars) := by
  rw [truncateExternalChannelPublicText]
  split
  · exact lacks
  · rw [Lacks, String.toList_append]
    exact fun occurs => lacks_takeText lacks maxChars (infix_points nonempty pointless occurs)

theorem length_truncate (text : String) (maxChars : Nat) :
    (truncateExternalChannelPublicText text maxChars).toList.length ≤ maxChars + 3 := by
  rw [truncateExternalChannelPublicText]
  split
  · omega
  · have points : "...".toList.length = 3 := rfl
    have shown : (text.toList.take maxChars).length ≤ maxChars := List.length_take_le maxChars text.toList
    rw [String.toList_append, List.length_append, takeText, String.toList_ofList, points]
    omega

end Readable

section Leaks

variable {text : String} {maxChars : Nat}

/-- The text has a marker of internal context. -/
def HasMarker (characters : List Char) : Prop :=
  (∃ marker ∈ contextMarkers, marker.toList <:+: characters) ∨
    ∃ marker ∈ lowercaseContextMarkers, marker.toList <:+: characters.map Char.toLower

theorem leak_iff : externalChannelTextLooksLikeInternalContextLeak text ↔
    HasMarker (text.toList.dropWhile isWhitespace) := by
  simp only [externalChannelTextLooksLikeInternalContextLeak, HasMarker, Bool.or_eq_true, List.any_eq_true, contains_iff,
    trimStart, asciiLower, String.toList_map, String.toList_ofList]

theorem HasMarker.of_infix {first second : List Char} (marked : HasMarker first) (inside : first <:+: second) :
    HasMarker second :=
  marked.imp (fun ⟨marker, listed, occurs⟩ => ⟨marker, listed, occurs.trans inside⟩)
    fun ⟨marker, listed, occurs⟩ => ⟨marker, listed, occurs.trans (inside.map Char.toLower)⟩

theorem HasMarker.of_points {shown : List Char} (marked : HasMarker (shown ++ "...".toList)) : HasMarker shown := by
  have plain : ∀ marker ∈ contextMarkers ++ lowercaseContextMarkers, marker.toList ≠ [] ∧ '.' ∉ marker.toList := by
    decide
  have lower : (shown ++ "...".toList).map Char.toLower = shown.map Char.toLower ++ "...".toList := by
    rw [List.map_append]
    rfl
  rcases marked with ⟨marker, listed, occurs⟩ | ⟨marker, listed, occurs⟩
  · have known := plain marker (List.mem_append_left _ listed)
    exact .inl ⟨marker, listed, infix_points known.1 known.2 occurs⟩
  · have known := plain marker (List.mem_append_right _ listed)
    exact .inr ⟨marker, listed, infix_points known.1 known.2 (lower ▸ occurs)⟩

/-- What is not blocked shows no marker, however much of it is shown. -/
theorem truncate_quiet (quiet : externalChannelTextLooksLikeInternalContextLeak (trim text) = false) :
    externalChannelTextLooksLikeInternalContextLeak (truncateExternalChannelPublicText (trim text) maxChars) = false := by
  rw [← Bool.not_eq_true, leak_iff, dropWhile_trim] at quiet
  rw [← Bool.not_eq_true, leak_iff]
  intro marked
  have whole := marked.of_infix (List.dropWhile_suffix isWhitespace).isInfix
  apply quiet
  rw [truncateExternalChannelPublicText] at whole
  split at whole
  · exact whole
  · rw [String.toList_append] at whole
    rw [takeText, String.toList_ofList] at whole
    exact whole.of_points.of_infix (List.take_prefix _ _).isInfix

end Leaks

section Replies

theorem internalWords_plain : ∀ word ∈ internalWords, IsLineWord word.toList := by
  have plain : ∀ word ∈ internalWords, word.toList ≠ [] ∧ '\n' ∉ word.toList ∧ '.' ∉ word.toList ∧
      staysApart word.toList "\n".toList ∧ staysApart word.toList " ".toList := by decide
  intro word listed
  obtain ⟨nonempty, oneLine, pointless, lineFeed, blank⟩ := plain word listed
  exact ⟨nonempty, oneLine, pointless, lineFeed, blank⟩

/-- What holds of a notice and of what is shown holds of a public text. -/
theorem publicTextOr_cases {holds : String → Prop} (notice : String) (limit : Nat) (text : String) (blocked : holds notice)
    (shown : externalChannelTextLooksLikeInternalContextLeak
        (externalChannelPublicReadableText (externalChannelPublicText text)) = false →
      holds (truncateExternalChannelPublicText (externalChannelPublicReadableText (externalChannelPublicText text)) limit)) :
    holds (publicTextOr notice limit text) := by
  rw [publicTextOr]
  split
  · exact blocked
  · split
    · exact blocked
    · rename_i quiet
      exact shown (by simpa using quiet)

/-- A public text shows no internal context, is not longer than its limit, and has no internal
word unless it starts like a link. -/
structure IsPublicText (text result : String) (limit : Nat) : Prop where
  words : looksLikeLink text = false → HidesWords result
  context : externalChannelTextLooksLikeInternalContextLeak result = false
  short : result.toList.length ≤ limit + 3

theorem isPublicText (notice : String) (limit : Nat) (text : String) (words : HidesWords notice)
    (context : externalChannelTextLooksLikeInternalContextLeak notice = false) (short : notice.toList.length ≤ limit + 3) :
    IsPublicText text (publicTextOr notice limit text) limit where
  words other := by
    refine @publicTextOr_cases HidesWords notice limit text words fun _ word listed => ?_
    have plain := internalWords_plain word listed
    exact lacks_truncate plain.nonempty plain.pointless (lacks_readable plain (publicText_hides other word listed)) limit
  context := @publicTextOr_cases (externalChannelTextLooksLikeInternalContextLeak · = false) notice limit text context
    fun quiet => truncate_quiet quiet
  short := @publicTextOr_cases (·.toList.length ≤ limit + 3) notice limit text short fun _ => length_truncate _ limit

/-- Every word and marker has a character that the notice lacks. -/
def isFitNotice (characters : List Char) (limit : Nat) : Bool :=
  ((internalWords ++ contextMarkers).all fun word => word.toList.any fun character => !characters.contains character) &&
    (lowercaseContextMarkers.all fun marker =>
      marker.toList.any fun character => !(characters.map Char.toLower).contains character) &&
    characters.length ≤ limit + 3

/-- The characters of a literal are read off it, not decoded. -/
theorem isPublicText_of_notice {characters : List Char} {limit : Nat} (fit : isFitNotice characters limit) (text : String) :
    IsPublicText text (publicTextOr (.ofList characters) limit text) limit := by
  simp only [isFitNotice, Bool.and_eq_true, List.all_eq_true, List.any_eq_true, Bool.not_eq_true', decide_eq_true_eq,
    ← Bool.not_eq_true, List.contains_iff_mem] at fit
  obtain ⟨⟨words, markers⟩, short⟩ := fit
  have apart : ∀ {word other : List Char}, (∃ character ∈ word, character ∉ other) → ¬ word <:+: other :=
    fun ⟨character, inside, outside⟩ occurs => outside (occurs.subset inside)
  refine isPublicText _ limit text ?_ ?_ ?_
  · intro word listed
    rw [Lacks, String.toList_ofList]
    exact apart (words word (List.mem_append_left _ listed))
  · rw [← Bool.not_eq_true, leak_iff, String.toList_ofList]
    intro marked
    rcases marked.of_infix (List.dropWhile_suffix isWhitespace).isInfix with ⟨marker, listed, occurs⟩ | ⟨marker, listed, occurs⟩
    · exact apart (words marker (List.mem_append_right _ listed)) occurs
    · exact apart (markers marker listed) occurs
  · rwa [String.toList_ofList]

set_option maxRecDepth 4000 in
/-- Replies and stream texts are public. -/
theorem external_channel_texts_public (text : String) :
    IsPublicText text (externalChannelPublicReplyText text) 6000 ∧
      IsPublicText text (externalChannelPublicStreamText text) 1200 := by
  constructor
  · exact isPublicText_of_notice (by decide +kernel) text
  · exact isPublicText_of_notice (by decide +kernel) text

theorem readable_link : externalChannelPublicReadableText "http://Codex" = "http://Codex" := by
  have unescaped : replaceText "\\t" " " (replaceText "\\n" "\n" (replaceText "\\r\\n" "\n" (trim "http://Codex"))) =
      "http://Codex" := by decide
  have whole : envelopeStart "http://Codex" = none := by decide
  have single : lines "http://Codex" = ["http://Codex"] := by decide
  have joined : joinLines ["http://Codex"] = "http://Codex" := by decide
  have kept : (["http://Codex"].filter fun line => !(["\x7b\"assistant_run_id\"", "\x7b\"card\"",
      "\x7b\"data\":\x7b\"assistant_run_id\""].any (startsWith (trimStart line)))) = ["http://Codex"] := by decide
  have first : dedupeLinkLines [] ["http://Codex"] = ["http://Codex"] := by decide
  have collapsed : collapsePublicTextSpacing "http://Codex" = "http://Codex" := by decide
  rw [externalChannelPublicReadableText, unescaped, stripEmbeddedExternalChannelJsonEnvelope, whole]
  dsimp only
  rw [single, kept, joined, dedupePublicGeneratedArtifactLinksInText, single, first, joined, collapsed]

/-- A text that starts with a link keeps its internal words. -/
theorem external_channel_link_text_shown :
    externalChannelPublicReplyText "http://Codex" = "http://Codex" ∧
      externalChannelPublicStreamText "http://Codex" = "http://Codex" ∧ ¬ HidesWords "http://Codex" := by
  have kept : externalChannelPublicText "http://Codex" = "http://Codex" := by
    rw [externalChannelPublicText, if_pos (by decide)]
  have quiet : externalChannelTextLooksLikeInternalContextLeak "http://Codex" = false := by decide +kernel
  have visible : trim "http://Codex" ≠ "" := by decide +kernel
  have shown : ∀ notice limit, 12 ≤ limit → publicTextOr notice limit "http://Codex" = "http://Codex" := by
    intro notice limit fits
    simp only [publicTextOr, kept, readable_link, quiet, visible, false_and, if_false, Bool.false_eq_true,
      truncateExternalChannelPublicText]
    exact if_pos fits
  refine ⟨shown _ _ (by decide), shown _ _ (by decide), ?_⟩
  intro hidden
  have occurs : contains "http://Codex" "Codex" := by decide
  exact hidden "Codex" (by decide) (contains_iff.mp occurs)

end Replies

end DataMax.ExternalChannel
