import DataMax.Domain.Lines
import DataMax.Domain.Paths
import Mathlib.Data.Option.Basic

/-! The file names that external ids and the entries of archives become in the object store. -/

namespace DataMax.ExternalDocument

open Domain Library

def isPathChar (ch : Char) : Bool := ch.isAlphanum || ch == '-' || ch == '_' || ch == '.'

def safeExternalPathSegment (value : String) : String :=
  let output := (trim value).map fun ch => if isPathChar ch then ch else '_'
  if output = "" then "unknown" else takeText 120 output

def externalDocumentExtensionFromContentType (contentType : String) : Option String :=
  let normalized := asciiLower (trim ((splitAt ';' contentType).headD contentType))
  match normalized with
  | "text/plain" => some ".txt"
  | "text/markdown" => some ".md"
  | "text/html" => some ".html"
  | "application/pdf" => some ".pdf"
  | "application/json" => some ".json"
  | "application/zip" | "application/x-zip-compressed" => some ".zip"
  | "application/vnd.openxmlformats-officedocument.wordprocessingml.document" => some ".docx"
  | "application/vnd.openxmlformats-officedocument.spreadsheetml.sheet" => some ".xlsx"
  | "application/vnd.openxmlformats-officedocument.presentationml.presentation" => some ".pptx"
  | _ => none

/-- `str::rsplit_once`, in front of the last mark and behind it. -/
def rsplitOnce (mark : Char) (text : String) : Option (String × String) :=
  match text.toList.reverse.span (· ≠ mark) with
  | (back, _ :: front) => some (.ofList front.reverse, .ofList back.reverse)
  | (_, []) => none

/-- A url without a hierarchy has no path segments. -/
def externalDocumentFileExtension (pathSegments : Option (List String)) (contentType : Option String) : Option String :=
  let extension := do
    let filename ← (← pathSegments).getLast?
    let (_, ext) ← rsplitOnce '.' filename
    some ("." ++ safeExternalPathSegment ext)
  (extension.filter fun ext => 1 < ext.utf8ByteSize && ext.utf8ByteSize ≤ 12) <|>
    contentType.bind externalDocumentExtensionFromContentType

/-- `Path::file_stem`: a name that only its first dot divides is whole. -/
def fileStem (path : String) : Option String := match (components path).getLast? with
  | some (.normal name) => match rsplitOnce '.' name with
    | some (before, _) => some (if before = "" then name else before)
    | none => some name
  | _ => none

/-- A number with at least three digits. -/
def threeDigits (number : Nat) : List Char :=
  let digits := Nat.toDigits 10 number
  List.replicate (3 - digits.length) '0' ++ digits

def safeZipEntryOutputName (index : Nat) (entryName extension : String) : String :=
  let stem := ((fileStem entryName).map safeExternalPathSegment).getD "entry"
  let safeExtension := if extension.utf8ByteSize ≤ 16 then extension else ""
  .ofList (threeDigits (index + 1)) ++ "-" ++ stem ++ safeExtension

/-- Where the object of an external document is written. -/
def externalDocumentPath (root sourceId documentExternalId revisionOrRequest extension : String) : String :=
  ["external-documents", safeExternalPathSegment sourceId, safeExternalPathSegment documentExternalId,
    safeExternalPathSegment revisionOrRequest ++ extension].foldl pushPath root

/-- One usable component of a path. -/
structure IsUsableSegment (segment : String) : Prop where
  filled : segment ≠ ""
  short : segment.length ≤ 120
  plain : ∀ ch ∈ segment.toList, isPathChar ch
  notDot : segment ≠ "."
  notDots : segment ≠ ".."
  inside : ∀ directory, components (pushPath directory segment) = components directory ++ [.normal segment]
  stable : safeExternalPathSegment segment = segment

section Segments

variable {value segment : String}

theorem isPathChar_visible {ch : Char} (plain : isPathChar ch) : isWhitespace ch = false := by
  simp only [isPathChar, Bool.or_eq_true, beq_iff_eq] at plain
  rcases plain with ((alphanumeric | rfl) | rfl) | rfl
  · have codes := alphanum_code alphanumeric
    simp only [isWhitespace, Bool.or_eq_false_iff, Bool.and_eq_false_iff, decide_eq_false_iff_not, beq_eq_false_iff_ne]
    omega
  · decide
  · decide
  · decide

/-- A plain text that is not too long stays as it is. -/
theorem safeExternalPathSegment_plain (filled : segment ≠ "") (short : segment.length ≤ 120)
    (plain : ∀ ch ∈ segment.toList, isPathChar ch) : safeExternalPathSegment segment = segment := by
  have trimmed : trim segment = segment := trim_eq_self fun ch inside => isPathChar_visible (plain ch inside)
  have kept : (segment.map fun ch => if isPathChar ch then ch else '_') = segment := by
    refine String.toList_injective ?_
    rw [String.toList_map]
    exact (List.map_congr_left fun ch inside => if_pos (plain ch inside)).trans (List.map_id _)
  have whole : segment.toList.take 120 = segment.toList := List.take_of_length_le short
  rw [safeExternalPathSegment, trimmed, kept, if_neg filled, takeText, whole, String.ofList_toList]

theorem safeExternalPathSegment_trim (value : String) : safeExternalPathSegment (trim value) = safeExternalPathSegment value := by
  rw [safeExternalPathSegment, trim_trim]
  rfl

/-- Whatever the text, something plain is written that is not too long. -/
theorem safeExternalPathSegment_written (value : String) : safeExternalPathSegment value ≠ "" ∧
    (safeExternalPathSegment value).length ≤ 120 ∧ ∀ ch ∈ (safeExternalPathSegment value).toList, isPathChar ch := by
  rw [safeExternalPathSegment]
  split
  · exact ⟨by decide, by decide, List.all_eq_true.mp (by decide)⟩
  · rename_i filled
    refine ⟨fun nothing => ?_, ?_, fun ch inside => ?_⟩
    · have none := congrArg String.toList nothing
      rw [takeText, String.toList_ofList, String.toList_empty, List.take_eq_nil_iff] at none
      exact filled (String.toList_injective (none.resolve_left (by decide)))
    · rw [takeText, String.length_ofList]
      exact List.length_take_le _ _
    · rw [takeText, String.toList_ofList, String.toList_map] at inside
      obtain ⟨original, -, rfl⟩ := List.mem_map.mp (List.mem_of_mem_take inside)
      split
      · assumption
      · decide

/-- A few dots are written for the same dots only. -/
theorem safeExternalPathSegment_dots {dots : String} (filled : dots ≠ "") (short : dots.length < 120)
    (single : ∀ ch ∈ dots.toList, ch = '.') : safeExternalPathSegment value = dots ↔ trim value = dots := by
  constructor
  · intro written
    rw [safeExternalPathSegment] at written
    split at written
    · exact absurd (single 'u' (by rw [← written]; decide)) (by decide)
    · have chars := congrArg String.toList written
      rw [takeText, String.toList_ofList] at chars
      have lengths := congrArg List.length chars
      rw [List.length_take] at lengths
      change min 120 _ = dots.length at lengths
      rw [List.take_of_length_le (by omega), String.toList_map] at chars
      refine String.toList_injective (Eq.trans ?_ chars)
      refine (List.map_id _).symm.trans (List.map_congr_left fun ch inside => ?_)
      have dot := single _ (chars ▸ List.mem_map_of_mem inside)
      split at dot
      · exact (if_pos ‹_›).symm
      · exact absurd dot (by decide)
  · intro same
    rw [← safeExternalPathSegment_trim, same]
    refine safeExternalPathSegment_plain filled short.le fun ch inside => ?_
    rw [single ch inside]
    decide

theorem name_of_plain (filled : segment ≠ "") (plain : ∀ ch ∈ segment.toList, isPathChar ch) (notDot : segment ≠ ".")
    (notDots : segment ≠ "..") : IsName segment :=
  ⟨filled, fun slash => absurd (plain '/' slash) (by decide), notDot, notDots⟩

theorem IsUsableSegment.name (usable : IsUsableSegment segment) : IsName segment :=
  name_of_plain usable.filled usable.plain usable.notDot usable.notDots

/-- Every text but two becomes a usable component: the names of a directory itself and of the one above are kept. -/
theorem external_path_segments_usable_iff (value : String) :
    IsUsableSegment (safeExternalPathSegment value) ↔ trim value ≠ "." ∧ trim value ≠ ".." := by
  have dot := @safeExternalPathSegment_dots value "." (by decide) (by decide) (by simp)
  have dots := @safeExternalPathSegment_dots value ".." (by decide) (by decide) (by simp)
  obtain ⟨filled, short, plain⟩ := safeExternalPathSegment_written value
  constructor
  · intro usable
    exact ⟨fun same => usable.notDot (dot.mpr same), fun same => usable.notDots (dots.mpr same)⟩
  · intro other
    have notDot := mt dot.mp other.1
    have notDots := mt dots.mp other.2
    exact {
      filled, short, plain, notDot, notDots
      inside := fun directory => components_push (name_of_plain filled plain notDot notDots)
      stable := safeExternalPathSegment_plain filled short plain }

theorem external_path_segment_climbs : ¬ IsUsableSegment (safeExternalPathSegment "..") := by
  intro usable
  have same : trim ".." = ".." := by decide
  exact usable.notDots ((safeExternalPathSegment_dots (by decide) (by decide) (by simp)).mpr same)

end Segments

section Files

variable {text extension : String}

theorem name_of_long (long : 2 < text.length) (bare : '/' ∉ text.toList) : IsName text := by
  refine ⟨?_, bare, ?_, ?_⟩ <;> rintro rfl <;> exact absurd long (by decide)

/-- Something plain behind a dot. -/
def IsExtension (extension : String) : Prop := 2 ≤ extension.length ∧ ∀ ch ∈ extension.toList, isPathChar ch

theorem externalDocumentExtensionFromContentType_extension {contentType : String}
    (known : externalDocumentExtensionFromContentType contentType = some extension) : IsExtension extension := by
  rw [externalDocumentExtensionFromContentType] at known
  split at known
  case h_11 => cases known
  all_goals
    cases known
    exact ⟨by decide, List.all_eq_true.mp (by decide)⟩

theorem externalDocumentFileExtension_extension {pathSegments : Option (List String)} {contentType : Option String}
    (known : externalDocumentFileExtension pathSegments contentType = some extension) : IsExtension extension := by
  rw [externalDocumentFileExtension] at known
  rcases (Option.orElse_eq_some _ _ _).mp known with named | ⟨-, typed⟩
  · obtain ⟨named, -⟩ := Option.filter_eq_some_iff.mp named
    simp only [Option.bind_eq_bind, Option.bind_eq_some_iff, Option.some.injEq] at named
    obtain ⟨-, -, -, -, ⟨_, ext⟩, -, rfl⟩ := named
    obtain ⟨filled, -, plain⟩ := safeExternalPathSegment_written ext
    refine ⟨?_, ?_⟩
    · have some := Nat.pos_of_ne_zero (mt String.length_eq_zero_iff.mp filled)
      rw [String.length_append]
      exact Nat.add_le_add_left some 1
    · rw [String.toList_append]
      exact List.forall_mem_append.mpr ⟨by simp; decide, plain⟩
  · obtain ⟨_, -, typed⟩ := Option.bind_eq_some_iff.mp typed
    exact externalDocumentExtensionFromContentType_extension typed

/-- The file of a document is four levels below the root, unless the source or the document has one of the two names. -/
theorem externalDocumentPath_below {sourceId documentExternalId : String} (root revisionOrRequest : String)
    (source : IsUsableSegment (safeExternalPathSegment sourceId))
    (document : IsUsableSegment (safeExternalPathSegment documentExternalId)) (kind : IsExtension extension) :
    components (externalDocumentPath root sourceId documentExternalId revisionOrRequest extension) =
      components root ++ [.normal "external-documents", .normal (safeExternalPathSegment sourceId),
        .normal (safeExternalPathSegment documentExternalId),
        .normal (safeExternalPathSegment revisionOrRequest ++ extension)] := by
  obtain ⟨filled, -, plain⟩ := safeExternalPathSegment_written revisionOrRequest
  have file : IsName (safeExternalPathSegment revisionOrRequest ++ extension) := by
    refine name_of_long ?_ fun slash => ?_
    · have some := Nat.pos_of_ne_zero (mt String.length_eq_zero_iff.mp filled)
      rw [String.length_append]
      exact Nat.add_le_add some kind.1
    · rw [String.toList_append] at slash
      exact absurd (List.forall_mem_append.mpr ⟨plain, kind.2⟩ '/' slash) (by decide)
  have folder : IsName "external-documents" := ⟨by decide, by simp, by decide, by decide⟩
  refine components_foldl ?_ root
  simp [folder, source.name, document.name, file]

theorem threeDigits_length (number : Nat) : 3 ≤ (threeDigits number).length := by
  rw [threeDigits, List.length_append, List.length_replicate]
  omega

theorem threeDigits_digit {number : Nat} {ch : Char} (inside : ch ∈ threeDigits number) : ch.isDigit := by
  rcases List.mem_append.mp inside with zero | digit
  · rw [(List.mem_replicate.mp zero).2]
    decide
  · exact Nat.isDigit_of_mem_toDigits (by decide) (by decide) digit

/-- The file of an archive's entry has a name of its own, whatever the entry is called. -/
theorem safeZipEntryOutputName_name (index : Nat) (entryName : String) (bare : '/' ∉ extension.toList) :
    IsName (safeZipEntryOutputName index entryName extension) := by
  have stem : '/' ∉ (((fileStem entryName).map safeExternalPathSegment).getD "entry").toList := by
    cases fileStem entryName with
    | none => simp
    | some stem => exact fun slash => absurd ((safeExternalPathSegment_written stem).2.2 '/' slash) (by decide)
  have kept : '/' ∉ (if extension.utf8ByteSize ≤ 16 then extension else "").toList := by
    split
    · exact bare
    · simp
  rw [safeZipEntryOutputName]
  refine name_of_long ?_ ?_
  · have digits := threeDigits_length (index + 1)
    simp only [String.length_append, String.length_ofList]
    omega
  · simp only [String.toList_append, String.toList_ofList, List.mem_append, not_or]
    exact ⟨⟨⟨fun digit => absurd (threeDigits_digit digit) (by decide), by simp⟩, stem⟩, kept⟩

end Files

end DataMax.ExternalDocument
