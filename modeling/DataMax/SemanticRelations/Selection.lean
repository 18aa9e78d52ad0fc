import DataMax.SemanticRelations.Builder

/-! Which of the candidate relations the builder returns. -/

namespace DataMax.SemanticRelations

open Domain Library SemanticUnderstanding SemanticLabel

section Statements

variable (classes : CharClasses) (digest : String → String) (explicit : List ExplicitRelationEvidence)
  (fields : List RelationFieldProfile)

/-- The relation is stated by evidence that passes the guards or inferred from a
field and a later one. -/
def IsCandidate (relation : SemanticRelation) : Prop :=
  (∃ evidence ∈ explicit, isAdmitted evidence = true ∧ explicitRelation digest evidence = relation) ∨
    ∃ left right, [left, right].Sublist fields ∧ inferredSharedKey classes digest left right = some relation

/-- Three of the returned relations join the same two ends and come before. -/
def Outranked (result : List SemanticRelation) (relation : SemanticRelation) : Prop :=
  ∃ winners : List SemanticRelation, winners.Sublist result ∧ winners.length = maxRelationsPerPair ∧
    ∀ winner ∈ winners, endpointPair winner = endpointPair relation ∧
      compareRelationPriority winner relation = .lt

/-- The kinds of relations that have no direction. -/
def symmetricTypes : List String := ["cooccurrence", "text_similarity", "shared_key"]

/-- Two fields of different objects, neither sensitive nor named like any key. -/
structure PublicPair (left right : RelationFieldProfile) : Prop where
  objects : left.objectId ≠ right.objectId
  leftPublic : left.sensitive = false
  rightPublic : right.sensitive = false
  leftNamed : isPseudoIdentifier left.technicalName = false
  rightNamed : isPseudoIdentifier right.technicalName = false

structure Selected (result : List SemanticRelation) : Prop where
  sound : ∀ relation ∈ result, IsCandidate classes digest explicit fields relation
  complete : ∀ candidate, IsCandidate classes digest explicit fields candidate →
    (∃ kept ∈ result, relationKey kept = relationKey candidate ∧
      compareRelationPriority candidate kept ≠ .lt) ∨ Outranked result candidate
  perPair : ∀ pair, (result.filter fun relation => decide (endpointPair relation = pair)).length ≤
    maxRelationsPerPair
  distinct : (result.map relationKey).Nodup
  sorted : result.Pairwise fun first second =>
    evidenceRank first.evidenceClass < evidenceRank second.evidenceClass ∨
      evidenceRank first.evidenceClass = evidenceRank second.evidenceClass ∧
        first.confidence.lt second.confidence = false
  directed : ∀ relation ∈ result, relation.relationType ∈ symmetricTypes → relation.sourceId ≤ relation.targetId
  sharedKeys : ∀ relation ∈ result, relation.relationType = "shared_key" → ∃ left right,
    [left, right].Sublist fields ∧ canonicalEndpoints left.id right.id true =
      (relation.sourceId, relation.targetId) ∧ PublicPair left right

end Statements

section Order

/-- The priority is a total order on relations whose confidence is a number. -/
def priorityOrder : SemanticRelation → SemanticRelation → Ordering :=
  compareLex (compareOn fun relation => evidenceRank relation.evidenceClass) <|
    compareLex (fun left right => compareOn SemanticRelation.confidence right left) <|
    compareLex (compareOn SemanticRelation.sourceId) <|
    compareLex (compareOn SemanticRelation.targetId) (compareOn SemanticRelation.relationType)

instance : Std.TransCmp priorityOrder := by unfold priorityOrder; infer_instance

theorem compareRelationPriority_eq {left right : SemanticRelation} (leftNumber : left.confidence ≠ .nan)
    (rightNumber : right.confidence ≠ .nan) : compareRelationPriority left right = priorityOrder left right := by
  rw [compareRelationPriority, Float64.partialCmp_eq_compare rightNumber leftNumber, Option.getD_some]
  rfl

theorem priorityOrder_separates (left right : SemanticRelation) (same : priorityOrder left right = .eq) :
    relationKey left = relationKey right := by
  simp only [priorityOrder, compareLex_eq_eq, compareOn] at same
  obtain ⟨_, _, source, target, kind⟩ := same
  simp only [relationKey, Std.LawfulEqOrd.eq_of_compare source, Std.LawfulEqOrd.eq_of_compare target,
    Std.LawfulEqOrd.eq_of_compare kind]

theorem endpointPair_of_key {left right : SemanticRelation} (same : relationKey left = relationKey right) :
    endpointPair left = endpointPair right := by
  simp only [relationKey, Prod.mk.injEq] at same
  rw [endpointPair, same.1, same.2.1, endpointPair]

theorem kind_confidence_ne_nan (kind : ExplicitRelationKind) : kind.confidence ≠ .nan := by
  cases kind <;> exact Float64.ofRat_ne_nan _

end Order

section Candidates

variable {classes : CharClasses} {digest : String → String} {explicit : List ExplicitRelationEvidence}
  {fields : List RelationFieldProfile} {left right : RelationFieldProfile} {relation : SemanticRelation}

/-- What an inferred relation says, and the checks its fields have passed. -/
theorem inferredSharedKey_cases (inferred : inferredSharedKey classes digest left right = some relation) :
    mayShareKey left right = true ∧ canonicalEndpoints left.id right.id true =
      (relation.sourceId, relation.targetId) ∧ relation.relationType = "shared_key" ∧
      relation.confidence ≠ .nan ∧ trim relation.reason ≠ "" ∧
      relation.evidenceRefs = normalizedEvidence (left.evidenceRefs ++ right.evidenceRefs) := by
  rw [inferredSharedKey] at inferred
  split at inferred
  · cases inferred
  · rename_i passed
    dsimp only at inferred
    split at inferred
    · cases inferred
    · split at inferred
      · cases inferred
      · cases inferred
        refine ⟨by simpa using passed, rfl, rfl, Float64.minimum_ne_nan (Float64.ofRat_ne_nan _), ?_, rfl⟩
        exact @trim_ne_empty _ '字' (by simp) (by decide)

theorem mayShareKey_public (passed : mayShareKey left right = true) : PublicPair left right := by
  simp only [mayShareKey, Bool.not_eq_true', Bool.or_eq_false_iff, beq_eq_false_iff_ne] at passed
  constructor <;> simp_all

theorem mem_inferredRelations : relation ∈ inferredRelations classes digest fields ↔
    ∃ left right, [left, right].Sublist fields ∧ inferredSharedKey classes digest left right = some relation := by
  induction fields with
  | nil => simp [inferredRelations]
  | cons head rest ih =>
    rw [inferredRelations, List.mem_append, List.mem_filterMap, ih]
    constructor
    · rintro (⟨right, inside, inferred⟩ | ⟨left, right, listed, inferred⟩)
      · exact ⟨head, right, (List.singleton_sublist.mpr inside).cons_cons head, inferred⟩
      · exact ⟨left, right, listed.cons head, inferred⟩
    · rintro ⟨left, right, listed, inferred⟩
      cases listed with
      | cons _ later => exact .inr ⟨left, right, later, inferred⟩
      | cons_cons _ later => exact .inl ⟨right, List.singleton_sublist.mp later, inferred⟩

theorem mem_candidates : relation ∈ candidates classes digest explicit fields ↔
    IsCandidate classes digest explicit fields relation := by
  rw [candidates, List.mem_append, List.mem_map, mem_inferredRelations, IsCandidate]
  simp only [List.mem_filter, and_assoc]

theorem candidates_number : ∀ relation ∈ candidates classes digest explicit fields,
    relation.confidence ≠ .nan := by
  intro relation inside
  rcases mem_candidates.mp inside with ⟨evidence, _, _, rfl⟩ | ⟨left, right, _, inferred⟩
  · exact kind_confidence_ne_nan evidence.kind
  · exact (inferredSharedKey_cases inferred).2.2.2.1

theorem compareRelationPriority_agree : ∀ first ∈ candidates classes digest explicit fields,
    ∀ second ∈ candidates classes digest explicit fields,
      compareRelationPriority first second = priorityOrder first second :=
  fun first inside second within =>
    compareRelationPriority_eq (candidates_number first inside) (candidates_number second within)

theorem canonicalEndpoints_ordered (sourceId targetId : String) :
    (canonicalEndpoints sourceId targetId true).1 ≤ (canonicalEndpoints sourceId targetId true).2 := by
  rw [canonicalEndpoints]
  by_cases before : targetId < sourceId
  · rw [if_pos ⟨rfl, before⟩]
    exact String.not_lt.mp (String.lt_asymm before)
  · rw [if_neg fun both => before both.2]
    exact String.not_lt.mp before

theorem explicitRelation_symmetric {evidence : ExplicitRelationEvidence}
    (undirected : (explicitRelation digest evidence).relationType ∈ symmetricTypes) :
    evidence.kind.symmetric = true := by
  obtain ⟨_, _, kind, _, _⟩ := evidence
  revert undirected
  cases kind <;> simp [explicitRelation, ExplicitRelationKind.relationType, ExplicitRelationKind.symmetric,
    symmetricTypes]

theorem explicitRelation_not_sharedKey (evidence : ExplicitRelationEvidence) :
    (explicitRelation digest evidence).relationType ≠ "shared_key" := by
  obtain ⟨_, _, kind, _, _⟩ := evidence
  cases kind <;> simp [explicitRelation, ExplicitRelationKind.relationType]

theorem IsCandidate.directed (candidate : IsCandidate classes digest explicit fields relation)
    (undirected : relation.relationType ∈ symmetricTypes) : relation.sourceId ≤ relation.targetId := by
  rcases candidate with ⟨evidence, _, _, rfl⟩ | ⟨left, right, _, inferred⟩
  · have symmetric := explicitRelation_symmetric undirected
    have ordered := canonicalEndpoints_ordered evidence.sourceId evidence.targetId
    rw [← symmetric] at ordered
    exact ordered
  · have ends := (inferredSharedKey_cases inferred).2.1
    have ordered := canonicalEndpoints_ordered left.id right.id
    rw [ends] at ordered
    exact ordered

theorem IsCandidate.sharedKey (candidate : IsCandidate classes digest explicit fields relation)
    (kind : relation.relationType = "shared_key") : ∃ left right, [left, right].Sublist fields ∧
      canonicalEndpoints left.id right.id true = (relation.sourceId, relation.targetId) ∧
      PublicPair left right := by
  rcases candidate with ⟨evidence, _, _, rfl⟩ | ⟨left, right, listed, inferred⟩
  · exact absurd kind (explicitRelation_not_sharedKey evidence)
  · obtain ⟨passed, ends, _⟩ := inferredSharedKey_cases inferred
    exact ⟨left, right, listed, ends, mayShareKey_public passed⟩

end Candidates

section Result

variable {classes : CharClasses} {digest : String → String} {explicit : List ExplicitRelationEvidence}
  {fields : List RelationFieldProfile} {relation : SemanticRelation}

theorem priority_sorted {first second : SemanticRelation}
    (below : (compareRelationPriority first second).isLE) :
    evidenceRank first.evidenceClass < evidenceRank second.evidenceClass ∨
      evidenceRank first.evidenceClass = evidenceRank second.evidenceClass ∧
        first.confidence.lt second.confidence = false := by
  rw [compareRelationPriority, Ordering.isLE_then_iff_or] at below
  rcases below with less | ⟨same, rest⟩
  · exact .inl (Nat.compare_eq_lt.mp less)
  · refine .inr ⟨Nat.compare_eq_eq.mp same, ?_⟩
    exact Float64.lt_eq_false_of_isLE (Ordering.isLE_left_of_isLE_then rest)

theorem mem_build : relation ∈ buildSemanticRelations classes digest explicit fields ↔
    relation ∈ (dedupeBy relationKey compareRelationPriority
      ((candidates classes digest explicit fields).filter fun other =>
        decide (endpointPair other = endpointPair relation))).take maxRelationsPerPair := by
  rw [buildSemanticRelations, mem_retainCapped, dedupeBy_filter_of_agree compareRelationPriority_agree
    priorityOrder_separates]
  intro first second same
  rw [endpointPair_of_key same]

theorem build_sublist : (buildSemanticRelations classes digest explicit fields).Sublist
    (dedupeBy relationKey compareRelationPriority (candidates classes digest explicit fields)) :=
  retainCapped_sublist

theorem build_sound (returned : relation ∈ buildSemanticRelations classes digest explicit fields) :
    IsCandidate classes digest explicit fields relation :=
  mem_candidates.mp (dedupeBy_subset (build_sublist.subset returned))

/-- Of the relations of a pair the three best stay. -/
theorem build_filter (pair : String × String) :
    (buildSemanticRelations classes digest explicit fields).filter
        (fun relation => decide (endpointPair relation = pair)) =
      ((dedupeBy relationKey compareRelationPriority (candidates classes digest explicit fields)).filter
        fun relation => decide (endpointPair relation = pair)).take maxRelationsPerPair :=
  retainCapped_filter pair

/-- A candidate is represented under its key or outranked in its pair. -/
theorem build_complete {candidate : SemanticRelation}
    (inside : candidate ∈ candidates classes digest explicit fields) :
    (∃ kept ∈ buildSemanticRelations classes digest explicit fields,
      relationKey kept = relationKey candidate ∧ compareRelationPriority candidate kept ≠ .lt) ∨
      Outranked (buildSemanticRelations classes digest explicit fields) candidate := by
  let all := candidates classes digest explicit fields
  let best := dedupeBy relationKey compareRelationPriority all
  have agree : ∀ first ∈ all, ∀ second ∈ all, compareRelationPriority first second = priorityOrder first second :=
    compareRelationPriority_agree
  have listed : relationKey candidate ∈ best.map relationKey :=
    mem_dedupeBy_keys.mpr (List.mem_map_of_mem inside)
  obtain ⟨winner, winnerInside, sameKey⟩ := List.mem_map.mp listed
  have represented : KeepsBest relationKey compareRelationPriority all (best.take best.length) :=
    keepsBest_of_agree agree best.length
  rw [List.take_of_length_le (Nat.le_refl best.length)] at represented
  have notLess := represented.replaced candidate inside winner winnerInside sameKey
  by_cases kept : winner ∈ buildSemanticRelations classes digest explicit fields
  · exact .inl ⟨winner, kept, sameKey, notLess⟩
  · -- The winner of the key stands behind the three best of its pair.
    right
    let ofPair := best.filter fun relation => decide (endpointPair relation = endpointPair winner)
    have winnerOfPair : winner ∈ ofPair := List.mem_filter.mpr ⟨winnerInside, by simp⟩
    have late : winner ∉ ofPair.take maxRelationsPerPair := fun early => kept (mem_retainCapped.mpr early)
    have split := List.take_append_drop maxRelationsPerPair ofPair
    have winnerLate : winner ∈ ofPair.drop maxRelationsPerPair := by
      rw [← split, List.mem_append] at winnerOfPair
      exact winnerOfPair.resolve_left late
    have long : maxRelationsPerPair < ofPair.length := by
      have nonempty := List.length_pos_of_mem winnerLate
      rw [List.length_drop] at nonempty
      omega
    have sorted : ofPair.Pairwise fun first second => compareRelationPriority first second = .lt :=
      (dedupeBy_pairwise_of_agree agree priorityOrder_separates).filter _
    rw [← split, List.pairwise_append] at sorted
    refine ⟨ofPair.take maxRelationsPerPair, ?_, ?_, ?_⟩
    · rw [← build_filter]
      exact List.filter_sublist
    · rw [List.length_take]
      omega
    · intro first early
      have firstOfPair := List.mem_filter.mp (List.mem_of_mem_take early)
      have before := sorted.2.2 first early winner winnerLate
      have firstInside : first ∈ all := dedupeBy_subset firstOfPair.1
      refine ⟨(of_decide_eq_true firstOfPair.2).trans (endpointPair_of_key sameKey), ?_⟩
      rw [agree first firstInside winner (dedupeBy_subset winnerInside)] at before
      rw [agree candidate inside winner (dedupeBy_subset winnerInside)] at notLess
      rw [agree first firstInside candidate inside]
      apply Std.TransCmp.lt_of_lt_of_isLE before
      rw [← Std.OrientedCmp.isGE_iff_isLE]
      cases compared : priorityOrder candidate winner <;> simp_all

/-- The builder returns the best three relations of each pair of ends, one for
each key, and nothing but candidates. -/
theorem build_selected (classes : CharClasses) (digest : String → String)
    (explicit : List ExplicitRelationEvidence) (fields : List RelationFieldProfile) :
    Selected classes digest explicit fields (buildSemanticRelations classes digest explicit fields) where
  sound := fun relation => build_sound
  complete := fun candidate inside => build_complete (mem_candidates.mpr inside)
  perPair := by
    intro pair
    rw [build_filter]
    exact List.length_take_le _ _
  distinct := (dedupeBy_keys_nodup _ _ _).sublist (build_sublist.map relationKey)
  sorted := ((dedupeBy_sorted_of_agree compareRelationPriority_agree).sublist build_sublist).imp priority_sorted
  directed := fun relation returned => (build_sound returned).directed
  sharedKeys := fun relation returned => (build_sound returned).sharedKey

end Result

end DataMax.SemanticRelations
