import DataMax.SemanticRelations.Selection

/-! Whether the returned relations carry evidence. -/

namespace DataMax.SemanticRelations

open Domain Library SemanticUnderstanding SemanticLabel

section Statements

/-- The relation joins two different ends and gives a reason and a reference
that names its source. -/
structure Evidenced (relation : SemanticRelation) : Prop where
  ends : relation.sourceId ≠ relation.targetId
  reason : trim relation.reason ≠ ""
  evidence : ∃ reference ∈ relation.evidenceRefs, isSourced reference = true

def HasSourced (references : List SemanticEvidenceRef) : Prop :=
  ∃ reference ∈ references, isSourced reference = true

variable (classes : CharClasses) (digest : String → String) (explicit : List ExplicitRelationEvidence)
  (fields : List RelationFieldProfile)

/-- Every returned relation is evidenced, and one inferred from two fields that
both have references carries some of each. -/
structure EmitsEvidence (result : List SemanticRelation) : Prop where
  evidenced : ∀ relation ∈ result, Evidenced relation
  fromBoth : ∀ left right, [left, right].Sublist fields → ∀ relation ∈ result,
    inferredSharedKey classes digest left right = some relation → HasSourced left.evidenceRefs →
      HasSourced right.evidenceRefs → (∃ reference ∈ relation.evidenceRefs, reference ∈ left.evidenceRefs) ∧
        ∃ reference ∈ relation.evidenceRefs, reference ∈ right.evidenceRefs

/-- Fewer than the allowed number of the sourced references come before this
one. -/
def AmongFirst (references : List SemanticEvidenceRef) (reference : SemanticEvidenceRef) : Prop :=
  isSourced reference = true ∧ ((references.filter isSourced).dedup.filter fun other =>
    decide (compare (evidenceKey other) (evidenceKey reference) = .lt)).length < maxEvidenceRefs

/-- The fields have different ids and their references suffice, those of the one
field not crowding out those of the other. -/
structure SharedEvidence (left right : RelationFieldProfile) : Prop where
  ids : left.id ≠ right.id
  sourced : HasSourced (left.evidenceRefs ++ right.evidenceRefs)
  both : HasSourced left.evidenceRefs → HasSourced right.evidenceRefs →
    (∃ reference ∈ left.evidenceRefs, AmongFirst (left.evidenceRefs ++ right.evidenceRefs) reference) ∧
      ∃ reference ∈ right.evidenceRefs, AmongFirst (left.evidenceRefs ++ right.evidenceRefs) reference

/-- A candidate of the same key stands in for the relation, or three better keys
of the same ends do. -/
def Shadowed (all : List SemanticRelation) (relation : SemanticRelation) : Prop :=
  leastBy compareRelationPriority (all.filter fun other => decide (relationKey other = relationKey relation)) ≠
      some relation ∨
    ¬ Leading relationKey compareRelationPriority maxRelationsPerPair
      (all.filter fun other => decide (endpointPair other = endpointPair relation)) (relationKey relation)

/-- The evidence behind every candidate that is not shadowed is sufficient. -/
structure EvidenceSupplied : Prop where
  stated : ∀ evidence ∈ explicit, isAdmitted evidence = true →
    ¬ Shadowed (candidates classes digest explicit fields) (explicitRelation digest evidence) →
      HasSourced evidence.evidenceRefs
  inferred : ∀ left right, [left, right].Sublist fields → ∀ relation,
    inferredSharedKey classes digest left right = some relation →
      ¬ Shadowed (candidates classes digest explicit fields) relation → SharedEvidence left right

end Statements

section References

variable {references : List SemanticEvidenceRef} {reference : SemanticEvidenceRef}

theorem normalizedEvidence_subset (inside : reference ∈ normalizedEvidence references) :
    reference ∈ references ∧ isSourced reference = true :=
  List.mem_filter.mp (distinctBy_subset (List.mem_of_mem_take inside))

theorem hasSourced_normalizedEvidence : HasSourced (normalizedEvidence references) ↔ HasSourced references := by
  constructor
  · rintro ⟨reference, inside, sourced⟩
    exact ⟨reference, (normalizedEvidence_subset inside).1, sourced⟩
  · rintro ⟨reference, inside, sourced⟩
    have kept : reference ∈ distinctBy evidenceKey (references.filter isSourced) :=
      (mem_distinctBy_of_injective evidenceKey_injective).mpr (List.mem_filter.mpr ⟨inside, sourced⟩)
    have first : ∃ first, first ∈ normalizedEvidence references := by
      rw [normalizedEvidence]
      cases shape : distinctBy evidenceKey (references.filter isSourced) with
      | nil => simp [shape] at kept
      | cons head rest => exact ⟨head, by simp [maxEvidenceRefs]⟩
    obtain ⟨first, firstInside⟩ := first
    exact ⟨first, firstInside, (normalizedEvidence_subset firstInside).2⟩

/-- The kept references are the first few distinct sourced ones. -/
theorem mem_normalizedEvidence : reference ∈ normalizedEvidence references ↔
    reference ∈ references ∧ AmongFirst references reference := by
  have asymm : ∀ first second : SemanticEvidenceRef, compare (evidenceKey first) (evidenceKey second) = .lt →
      ¬ compare (evidenceKey second) (evidenceKey first) = .lt :=
    fun first second less more => by simp [Std.OrientedCmp.gt_iff_lt.mpr less] at more
  have sorted := distinctBy_sorted evidenceKey (references.filter isSourced)
  have members : ∀ other, other ∈ distinctBy evidenceKey (references.filter isSourced) ↔
      other ∈ (references.filter isSourced).dedup := by
    intro other
    rw [mem_distinctBy_of_injective evidenceKey_injective, List.mem_dedup]
  have nodup := nodup_of_strictly_sorted asymm sorted
  have permuted := (List.perm_ext_iff_of_nodup nodup (List.nodup_dedup _)).mpr members
  rw [normalizedEvidence, mem_take_iff asymm sorted, members, List.mem_dedup, List.mem_filter,
    (permuted.filter _).length_eq, AmongFirst, and_assoc]

end References

section Result

variable {classes : CharClasses} {digest : String → String} {explicit : List ExplicitRelationEvidence}
  {fields : List RelationFieldProfile} {relation : SemanticRelation}

/-- A candidate is returned unless another one takes its place. -/
theorem mem_build_iff : relation ∈ buildSemanticRelations classes digest explicit fields ↔
    ¬ Shadowed (candidates classes digest explicit fields) relation := by
  let ofPair := (candidates classes digest explicit fields).filter fun other =>
    decide (endpointPair other = endpointPair relation)
  have agree : ∀ first ∈ ofPair, ∀ second ∈ ofPair,
      compareRelationPriority first second = priorityOrder first second := fun first inside second within =>
    compareRelationPriority_agree first (List.mem_filter.mp inside).1 second (List.mem_filter.mp within).1
  have sameKey : ofPair.filter (fun other => decide (relationKey other = relationKey relation)) =
      (candidates classes digest explicit fields).filter fun other =>
        decide (relationKey other = relationKey relation) := by
    rw [List.filter_filter]
    apply List.filter_congr
    intro other _
    by_cases own : relationKey other = relationKey relation
    · simp [own, endpointPair_of_key own]
    · simp [own]
  have leading : relationKey relation ∈ ((dedupeBy relationKey compareRelationPriority ofPair).take
      maxRelationsPerPair).map relationKey ↔
        Leading relationKey compareRelationPriority maxRelationsPerPair ofPair (relationKey relation) :=
    mem_take_keys_of_agree agree priorityOrder_separates
  rw [mem_build, Shadowed, not_or, not_not, not_not, ← sameKey, ← mem_dedupeBy, ← leading]
  constructor
  · intro taken
    exact ⟨List.mem_of_mem_take taken, List.mem_map_of_mem taken⟩
  · rintro ⟨selected, key⟩
    obtain ⟨other, taken, same⟩ := List.mem_map.mp key
    have distinct := dedupeBy_keys_nodup relationKey compareRelationPriority ofPair
    have equal := List.inj_on_of_nodup_map distinct (List.mem_of_mem_take taken) selected same
    rw [equal] at taken
    exact taken

theorem canonicalEndpoints_ne {sourceId targetId : String} {symmetric : Bool} :
    (canonicalEndpoints sourceId targetId symmetric).1 ≠ (canonicalEndpoints sourceId targetId symmetric).2 ↔
      sourceId ≠ targetId := by
  rw [canonicalEndpoints]
  split
  · exact ne_comm
  · exact Iff.rfl

theorem explicitRelation_evidenced {evidence : ExplicitRelationEvidence} (admitted : isAdmitted evidence = true)
    (sourced : HasSourced evidence.evidenceRefs) : Evidenced (explicitRelation digest evidence) := by
  obtain ⟨ends, reason, _⟩ := of_decide_eq_true admitted
  refine ⟨canonicalEndpoints_ne.mpr ends, ?_, hasSourced_normalizedEvidence.mpr sourced⟩
  have same : (explicitRelation digest evidence).reason = trim evidence.reason := rfl
  rw [same, trim_trim]
  exact reason

theorem inferredSharedKey_evidenced {left right : RelationFieldProfile}
    (inferred : inferredSharedKey classes digest left right = some relation) :
    Evidenced relation ↔ left.id ≠ right.id ∧ HasSourced (left.evidenceRefs ++ right.evidenceRefs) := by
  obtain ⟨_, ends, _, _, reason, references⟩ := inferredSharedKey_cases inferred
  have different : relation.sourceId ≠ relation.targetId ↔ left.id ≠ right.id := by
    have apart := @canonicalEndpoints_ne left.id right.id true
    rwa [ends] at apart
  have sourced := @hasSourced_normalizedEvidence (left.evidenceRefs ++ right.evidenceRefs)
  rw [← references] at sourced
  exact ⟨fun evidenced => ⟨different.mp evidenced.ends, sourced.mp evidenced.evidence⟩,
    fun supplied => ⟨different.mpr supplied.1, reason, sourced.mpr supplied.2⟩⟩

/-- References of a field among those of the relation. -/
theorem inferredSharedKey_carries {left right : RelationFieldProfile}
    (inferred : inferredSharedKey classes digest left right = some relation)
    {references : List SemanticEvidenceRef} (part : references ⊆ left.evidenceRefs ++ right.evidenceRefs) :
    (∃ reference ∈ relation.evidenceRefs, reference ∈ references) ↔
      ∃ reference ∈ references, AmongFirst (left.evidenceRefs ++ right.evidenceRefs) reference := by
  have kept := (inferredSharedKey_cases inferred).2.2.2.2.2
  constructor
  · rintro ⟨reference, inside, own⟩
    rw [kept] at inside
    exact ⟨reference, own, (mem_normalizedEvidence.mp inside).2⟩
  · rintro ⟨reference, own, first⟩
    refine ⟨reference, ?_, own⟩
    rw [kept]
    exact mem_normalizedEvidence.mpr ⟨part own, first⟩

/-- The builder emits evidence exactly for inputs that supply it. -/
theorem build_evidenced_iff (classes : CharClasses) (digest : String → String)
    (explicit : List ExplicitRelationEvidence) (fields : List RelationFieldProfile) :
    EmitsEvidence classes digest fields (buildSemanticRelations classes digest explicit fields) ↔
      EvidenceSupplied classes digest explicit fields := by
  constructor
  · intro emits
    constructor
    · intro evidence listed admitted unshadowed
      have evidenced := emits.evidenced _ (mem_build_iff.mpr unshadowed)
      exact hasSourced_normalizedEvidence.mp evidenced.evidence
    · intro left right listed relation inferred unshadowed
      have returned := mem_build_iff.mpr unshadowed
      obtain ⟨ids, sourced⟩ := (inferredSharedKey_evidenced inferred).mp (emits.evidenced relation returned)
      refine ⟨ids, sourced, ?_⟩
      intro leftSourced rightSourced
      have both := emits.fromBoth left right listed relation returned inferred leftSourced rightSourced
      exact ⟨(inferredSharedKey_carries inferred (List.subset_append_left _ _)).mp both.1,
        (inferredSharedKey_carries inferred (List.subset_append_right _ _)).mp both.2⟩
  · intro supplied
    constructor
    · intro relation returned
      have unshadowed := mem_build_iff.mp returned
      rcases build_sound returned with
        ⟨evidence, listed, admitted, rfl⟩ | ⟨left, right, listed, inferred⟩
      · exact explicitRelation_evidenced admitted (supplied.stated evidence listed admitted unshadowed)
      · have shared := supplied.inferred left right listed relation inferred unshadowed
        exact (inferredSharedKey_evidenced inferred).mpr ⟨shared.ids, shared.sourced⟩
    · intro left right listed relation returned inferred leftSourced rightSourced
      have shared := supplied.inferred left right listed relation inferred (mem_build_iff.mp returned)
      obtain ⟨fromLeft, fromRight⟩ := shared.both leftSourced rightSourced
      exact ⟨(inferredSharedKey_carries inferred (List.subset_append_left _ _)).mpr fromLeft,
        (inferredSharedKey_carries inferred (List.subset_append_right _ _)).mpr fromRight⟩

/-- A foreign key whose only reference has a blank source kind. -/
def blankEvidence : ExplicitRelationEvidence :=
  ⟨"field:lease", "field:tenant", .foreignKey, "foreign key", [⟨" ", "constraint", "lease_tenant"⟩]⟩

/-- The relation is returned without its reference. -/
theorem build_drops_evidence : ¬ EmitsEvidence ⟨Char.isAlpha, Char.isAlphanum⟩ id []
    (buildSemanticRelations ⟨Char.isAlpha, Char.isAlphanum⟩ id [blankEvidence] []) := by
  intro emits
  have returned : explicitRelation id blankEvidence ∈
      buildSemanticRelations ⟨Char.isAlpha, Char.isAlphanum⟩ id [blankEvidence] [] := by decide +kernel
  obtain ⟨reference, inside, _⟩ := (emits.evidenced _ returned).evidence
  have dropped : (explicitRelation id blankEvidence).evidenceRefs = [] := by decide
  rw [dropped] at inside
  cases inside

end Result

end DataMax.SemanticRelations
