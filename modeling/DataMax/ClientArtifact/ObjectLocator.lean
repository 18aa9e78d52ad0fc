import DataMax.Domain.ApiError
import DataMax.Domain.Hex
import DataMax.Domain.Paths
import DataMax.Library.Outcome

/-! Where the payload of a client artifact lies below the object root. -/

namespace DataMax.ClientArtifact

open Domain Library

def objectLocatorStart : String := "client-artifacts"

def invalidLocator (message : String) : ApiError := .internal "client_artifact_object_locator_invalid" message

def isSegmentChar (ch : Char) : Bool := ch.isAlphanum || ch == '-' || ch == '_' || ch == '.'

/-- Looked at without the white space around it. -/
def safeObjectLocatorSegment (segment : String) : Bool :=
  trim segment ≠ "" && trim segment ≠ "." && trim segment ≠ ".." && (trim segment).toList.all isSegmentChar

def validateClientArtifactObjectLocator (objectLocator : String) : Except ApiError Unit := do
  let locator := trim objectLocator
  ensure (!(locator = "" || locator.toList.contains '\\' || locator.toList.contains ':' || startsWith locator "/" ||
    endsWith locator "/")) (invalidLocator "client artifact object locator must be a safe relative path")
  ensure ((splitAt '/' locator).head? = some objectLocatorStart)
    (invalidLocator "client artifact object locator has an invalid prefix")
  ensure ((splitAt '/' locator).all safeObjectLocatorSegment)
    (invalidLocator "client artifact object locator contains an unsafe segment")

/-- `{file_index:04}` -/
def fourDigits (fileIndex : Nat) : List Char :=
  List.replicate (4 - (Nat.toDigits 10 fileIndex).length) '0' ++ Nat.toDigits 10 fileIndex

def clientArtifactObjectLocator (tenantId : UuidBytes) (artifactId : String) (fileIndex : Int32) (sha256 : String) :
    Except ApiError String := do
  ensure (0 ≤ fileIndex) (invalidLocator "file_index must be non-negative for client artifact object storage")
  ensure (safeObjectLocatorSegment (trim artifactId) && safeObjectLocatorSegment (trim sha256))
    (invalidLocator "client artifact object locator contains an unsafe segment")
  let locator := objectLocatorStart ++ "/" ++ tenantId.text ++ "/" ++ trim artifactId ++ "/" ++
    .ofList (fourDigits fileIndex.toInt.toNat) ++ "-" ++ trim sha256
  validateClientArtifactObjectLocator locator
  .ok locator

def clientArtifactObjectPath (objectRoot objectLocator : String) : Except ApiError String := do
  validateClientArtifactObjectLocator (trim objectLocator)
  .ok ((splitAt '/' (trim objectLocator)).foldl pushPath objectRoot)

section Confinement

variable {locator segment : String}

/-- A name that leads neither up nor into another place. -/
structure IsConfined (segment : String) : Prop extends IsName segment where
  noBackslash : '\\' ∉ segment.toList
  noColon : ':' ∉ segment.toList

theorem name_of_safe (safe : safeObjectLocatorSegment segment = true) (bare : '/' ∉ segment.toList) : IsName segment := by
  have dots : trim "" = "" ∧ trim "." = "." ∧ trim ".." = ".." := by decide
  simp only [safeObjectLocatorSegment, Bool.and_eq_true, decide_eq_true_eq] at safe
  obtain ⟨⟨⟨nonempty, notDot⟩, notDots⟩, -⟩ := safe
  refine ⟨?_, bare, ?_, ?_⟩
  · rintro rfl
    exact nonempty dots.1
  · rintro rfl
    exact notDot dots.2.1
  · rintro rfl
    exact notDots dots.2.2

/-- What the checks say of the pieces of a trimmed locator. -/
theorem validate_ok (own : trim locator = locator) (accepted : validateClientArtifactObjectLocator locator = .ok ()) :
    (splitAt '/' locator).head? = some objectLocatorStart ∧ ∀ segment ∈ splitAt '/' locator, IsConfined segment := by
  simp only [validateClientArtifactObjectLocator, unit_bind_eq_ok, ensure_eq_ok, own, Bool.not_eq_true', Bool.or_eq_false_iff,
    decide_eq_true_eq, List.all_eq_true] at accepted
  obtain ⟨⟨⟨⟨⟨-, backslash⟩, colon⟩, -⟩, -⟩, begins, safe⟩ := accepted
  refine ⟨begins, fun segment listed => ?_⟩
  obtain ⟨piece, cut, rfl⟩ := List.mem_map.mp listed
  have inside : piece <:+: locator.toList := infix_of_mem_splitOnP cut
  have bare : '/' ∉ (String.ofList piece).toList := by
    rw [String.toList_ofList]
    intro mark
    simpa using of_mem_splitOnP cut mark
  refine { name_of_safe (safe _ listed) bare with noBackslash := ?_, noColon := ?_ }
  · rw [String.toList_ofList]
    exact fun mark => absurd (inside.subset mark) (by simpa using backslash)
  · rw [String.toList_ofList]
    exact fun mark => absurd (inside.subset mark) (by simpa using colon)

end Confinement

section Locators

variable {tenantId : UuidBytes} {artifactId sha256 locator segment : String} {fileIndex : Int32}

theorem validate_trim (locator : String) :
    validateClientArtifactObjectLocator (trim locator) = validateClientArtifactObjectLocator locator := by
  rw [validateClientArtifactObjectLocator, trim_trim]
  rfl

theorem fourDigits_digit {count : Nat} {char : Char} (inside : char ∈ fourDigits count) : char.isDigit = true := by
  rcases List.mem_append.mp inside with zero | digit
  · rw [(List.mem_replicate.mp zero).2]
    decide
  · exact Nat.isDigit_of_mem_toDigits (by decide) (by decide) digit

theorem fourDigits_injective : Function.Injective fourDigits := by
  have value : ∀ count, Nat.ofDigitChars 10 (fourDigits count) 0 = count := by
    intro count
    rw [fourDigits, Nat.ofDigitChars_append, Nat.ofDigitChars_replicate_zero, Nat.mul_zero, Nat.ofDigitChars_ten_toDigits]
  intro first second same
  rw [← value first, same, value second]

/-- What a locator is made of. -/
structure IsLocator (tenantId : UuidBytes) (artifactId : String) (fileIndex : Int32) (sha256 locator : String) : Prop where
  index : 0 ≤ fileIndex
  artifact : '/' ∉ (trim artifactId).toList
  text : locator.toList = objectLocatorStart.toList ++ ['/'] ++ ((tenantId.text.toList ++ ['/']) ++
    (((trim artifactId).toList ++ ['/']) ++ ((fourDigits fileIndex.toInt.toNat ++ ['-']) ++ (trim sha256).toList)))
  accepted : validateClientArtifactObjectLocator locator = .ok ()

theorem isLocator_of_ok (given : clientArtifactObjectLocator tenantId artifactId fileIndex sha256 = .ok locator) :
    IsLocator tenantId artifactId fileIndex sha256 locator := by
  simp only [clientArtifactObjectLocator, unit_bind_eq_ok, ensure_eq_ok, decide_eq_true_eq, Bool.and_eq_true,
    Except.ok.injEq] at given
  obtain ⟨index, ⟨safe, -⟩, accepted, rfl⟩ := given
  refine ⟨index, fun inside => ?_, by simp, accepted⟩
  rw [safeObjectLocatorSegment, trim_trim, Bool.and_eq_true] at safe
  exact absurd (List.all_eq_true.mp safe.2 '/' inside) (by decide)

/-- The tenant, the artifact, the index and the digest are read back from the locator. -/
theorem locator_parts {other : UuidBytes} {artifact digest : String} {index : Int32}
    (first : IsLocator tenantId artifactId fileIndex sha256 locator) (second : IsLocator other artifact index digest locator) :
    tenantId = other ∧ trim artifactId = trim artifact ∧ fileIndex = index ∧ trim sha256 = trim digest := by
  have tenants : PrefixFree fun tenant : UuidBytes => tenant.text.toList ++ ['/'] :=
    .terminated (fun _ _ same => UuidBytes.text_injective (String.toList_injective same))
      (UuidBytes.not_mem_text (by decide) (by decide))
  have artifacts : ∀ one two rest others : List Char, '/' ∉ one → '/' ∉ two →
      one ++ ['/'] ++ rest = two ++ ['/'] ++ others → one = two ∧ rest = others := by
    intro one two rest others bare also same
    have free : PrefixFree fun part : { chars : List Char // '/' ∉ chars } => part.val ++ ['/'] :=
      .terminated Subtype.val_injective Subtype.property
    exact (free ⟨one, bare⟩ ⟨two, also⟩ rest others same).imp_left (congrArg Subtype.val)
  have indices : PrefixFree fun count => fourDigits count ++ ['-'] :=
    .terminated fourDigits_injective fun count inside => absurd (fourDigits_digit inside) (by decide)
  have texts := List.append_cancel_left (first.text.symm.trans second.text)
  obtain ⟨tenant, afterTenant⟩ := tenants tenantId other _ _ texts
  obtain ⟨named, afterArtifact⟩ := artifacts _ _ _ _ first.artifact second.artifact afterTenant
  obtain ⟨count, afterIndex⟩ := indices fileIndex.toInt.toNat index.toInt.toNat _ _ afterArtifact
  have positive := Int32.le_iff_toInt_le.mp first.index
  have also := Int32.le_iff_toInt_le.mp second.index
  simp only [Int32.toInt_zero] at positive also
  exact ⟨tenant, String.toList_injective named, Int32.toInt_inj.mp (by omega),
    String.toList_injective afterIndex⟩

/-- An accepted locator names a place below the root, every locator that is built is accepted, and what it
was built from can be read from it. -/
theorem artifact_path_confined :
    (∀ objectRoot objectLocator path, clientArtifactObjectPath objectRoot objectLocator = .ok path →
      ∃ segments : List String, components path = components objectRoot ++ segments.map .normal ∧
        segments.head? = some objectLocatorStart ∧ ∀ segment ∈ segments, IsConfined segment) ∧
    (∀ tenantId artifactId fileIndex sha256 locator,
      clientArtifactObjectLocator tenantId artifactId fileIndex sha256 = .ok locator →
        ∀ objectRoot, ∃ path, clientArtifactObjectPath objectRoot locator = .ok path) ∧
    ∀ tenantId other artifactId artifact fileIndex index sha256 digest locator,
      clientArtifactObjectLocator tenantId artifactId fileIndex sha256 = .ok locator →
      clientArtifactObjectLocator other artifact index digest = .ok locator →
        tenantId = other ∧ trim artifactId = trim artifact ∧ fileIndex = index ∧ trim sha256 = trim digest := by
  refine ⟨?_, ?_, ?_⟩
  · intro objectRoot objectLocator path given
    rw [clientArtifactObjectPath, unit_bind_eq_ok] at given
    obtain ⟨begins, confined⟩ := validate_ok (trim_trim objectLocator) given.1
    refine ⟨splitAt '/' (trim objectLocator), ?_, begins, confined⟩
    rw [← Except.ok.inj given.2]
    exact components_foldl (fun segment listed => (confined segment listed).toIsName) objectRoot
  · intro tenantId artifactId fileIndex sha256 locator given objectRoot
    refine ⟨_, unit_bind_eq_ok.mpr ⟨?_, rfl⟩⟩
    rw [validate_trim, (isLocator_of_ok given).accepted]
  · intro tenantId other artifactId artifact fileIndex index sha256 digest locator given also
    exact locator_parts (isLocator_of_ok given) (isLocator_of_ok also)

end Locators

end DataMax.ClientArtifact
