import DataMax.SemanticRelations.Evidence

/-! What the order of the evidence and of the fields changes in the returned relations. -/

namespace DataMax.SemanticRelations

open Domain Library SemanticUnderstanding SemanticLabel

section Statements

variable (classes : CharClasses) (digest : String → String) (explicit : List ExplicitRelationEvidence)
  (fields : List RelationFieldProfile)

/-- Candidates that tie for a key are equal, except for keys that three better ones of the
same ends leave no place. -/
def Settled : Prop :=
  ∀ pair, Unambiguous relationKey compareRelationPriority maxRelationsPerPair
    ((candidates classes digest explicit fields).filter fun relation => decide (endpointPair relation = pair))

/-- The relations are those of the lists in any other order. -/
def OrderFree : Prop :=
  ∀ otherExplicit otherFields, explicit.Perm otherExplicit → fields.Perm otherFields →
    buildSemanticRelations classes digest otherExplicit otherFields =
      buildSemanticRelations classes digest explicit fields

end Statements

section Symmetry

variable {classes : CharClasses} {digest : String → String} {left right : RelationFieldProfile}

theorem minimum_comm (left right : Float64) : left.minimum right = right.minimum left := by
  cases left with
  | nan => cases right <;> rfl
  | ranked leftRank leftBounded =>
    cases right with
    | nan => rfl
    | ranked rightRank rightBounded =>
      have compared := @Std.OrientedCmp.eq_swap _ (compare : Int → Int → Ordering) _ leftRank rightRank
      cases order : compare rightRank leftRank with
      | lt => simp_all [Float64.minimum, Float64.lt, Float64.partialCmp]
      | eq =>
        have same := Std.LawfulEqOrd.eq_of_compare order
        simp_all [Float64.minimum, Float64.lt, Float64.partialCmp]
      | gt => simp_all [Float64.minimum, Float64.lt, Float64.partialCmp]

theorem canonicalEndpoints_comm (sourceId targetId : String) :
    canonicalEndpoints sourceId targetId true = canonicalEndpoints targetId sourceId true := by
  rw [canonicalEndpoints, canonicalEndpoints]
  by_cases before : targetId < sourceId
  · rw [if_pos ⟨rfl, before⟩, if_neg fun both => String.lt_asymm before both.2]
  · rw [if_neg fun both => before both.2]
    by_cases after : sourceId < targetId
    · rw [if_pos ⟨rfl, after⟩]
    · rw [if_neg fun both => after both.2, String.le_antisymm (String.not_lt.mp before) (String.not_lt.mp after)]

theorem compatibleTypes_comm (left right : String) : compatibleTypes left right = compatibleTypes right left := by
  rw [compatibleTypes, compatibleTypes, Bool.eq_iff_iff]
  simp only [Bool.and_eq_true, bne_iff_ne, beq_iff_eq]
  constructor
  · rintro ⟨known, same⟩
    exact ⟨same ▸ known, same.symm⟩
  · rintro ⟨known, same⟩
    exact ⟨same ▸ known, same.symm⟩

theorem mayShareKey_comm (left right : RelationFieldProfile) : mayShareKey left right = mayShareKey right left := by
  simp only [mayShareKey, compatibleTypes_comm left.valueType, @Bool.beq_comm _ _ _ left.objectId,
    Bool.or_comm, Bool.or_left_comm, Bool.or_assoc]

/-- References are kept by what they are and not by where they stand. -/
theorem normalizedEvidence_congr {values others : List SemanticEvidenceRef}
    (same : ∀ reference, reference ∈ values ↔ reference ∈ others) :
    normalizedEvidence values = normalizedEvidence others := by
  rw [normalizedEvidence, normalizedEvidence, distinctBy_congr evidenceKey_injective]
  intro reference
  simp only [List.mem_filter, same]

theorem overlap_comm {first second : List String} (firstDistinct : first.Nodup) (secondDistinct : second.Nodup) :
    (first.filter (decide <| · ∈ second)).length = (second.filter (decide <| · ∈ first)).length := by
  apply List.Perm.length_eq
  rw [List.perm_ext_iff_of_nodup (firstDistinct.filter _) (secondDistinct.filter _)]
  intro value
  simp only [List.mem_filter, decide_eq_true_eq, and_comm]

theorem safePublicExamples_nodup (classes : CharClasses) (values : List String) :
    (safePublicExamples classes values).Nodup :=
  (distinctBy_self_nodup _).sublist (List.take_sublist _ _)

/-- Which of the fields comes first makes no difference to what is inferred. -/
theorem inferredSharedKey_comm (left right : RelationFieldProfile) :
    inferredSharedKey classes digest left right = inferredSharedKey classes digest right left := by
  have references : normalizedEvidence (left.evidenceRefs ++ right.evidenceRefs) =
      normalizedEvidence (right.evidenceRefs ++ left.evidenceRefs) := normalizedEvidence_congr (by simp [or_comm])
  have overlap := overlap_comm (safePublicExamples_nodup classes left.examples)
    (safePublicExamples_nodup classes right.examples)
  simp only [inferredSharedKey, mayShareKey_comm left, overlap,
    Nat.min_comm (safePublicExamples classes left.examples).length, canonicalEndpoints_comm left.id,
    minimum_comm (coverage left), references]

end Symmetry

section Candidates

variable {classes : CharClasses} {digest : String → String} {explicit otherExplicit : List ExplicitRelationEvidence}
  {fields otherFields : List RelationFieldProfile} {relation : SemanticRelation}

theorem inferredRelations_perm (permuted : fields.Perm otherFields) :
    (inferredRelations classes digest fields).Perm (inferredRelations classes digest otherFields) := by
  induction permuted with
  | nil => exact .nil
  | cons left rest ih => exact (rest.filterMap _).append ih
  | swap left right rest =>
    simp only [inferredRelations, List.filterMap_cons, inferredSharedKey_comm right left]
    cases inferredSharedKey classes digest left right with
    | none => exact List.perm_append_comm_assoc _ _ _
    | some relation => exact .cons relation (List.perm_append_comm_assoc _ _ _)
  | trans _ _ first second => exact first.trans second

theorem candidates_perm (explicitPermuted : explicit.Perm otherExplicit) (fieldsPermuted : fields.Perm otherFields) :
    (candidates classes digest explicit fields).Perm (candidates classes digest otherExplicit otherFields) :=
  ((explicitPermuted.filter _).map _).append (inferredRelations_perm fieldsPermuted)

theorem build_pairwise (explicit : List ExplicitRelationEvidence) (fields : List RelationFieldProfile) :
    (buildSemanticRelations classes digest explicit fields).Pairwise fun first second =>
      priorityOrder first second = .lt := by
  have sorted : (buildSemanticRelations classes digest explicit fields).Pairwise fun first second =>
      compareRelationPriority first second = .lt :=
    (dedupeBy_pairwise_of_agree compareRelationPriority_agree priorityOrder_separates).sublist build_sublist
  refine sorted.imp_of_mem ?_
  intro first second inside within less
  rw [← compareRelationPriority_agree first (mem_candidates.mpr (build_sound inside)) second
    (mem_candidates.mpr (build_sound within))]
  exact less

/-- Settled candidates are selected the same from any list of them. -/
theorem build_congr (settled : Settled classes digest explicit fields) (explicitPermuted : explicit.Perm otherExplicit)
    (fieldsPermuted : fields.Perm otherFields) :
    buildSemanticRelations classes digest otherExplicit otherFields =
      buildSemanticRelations classes digest explicit fields := by
  have asymm : ∀ first second : SemanticRelation, priorityOrder first second = .lt →
      ¬ priorityOrder second first = .lt :=
    fun first second less more => by simp [Std.OrientedCmp.gt_iff_lt.mpr less] at more
  have permuted : (candidates classes digest explicit fields).Perm
      (candidates classes digest otherExplicit otherFields) := candidates_perm explicitPermuted fieldsPermuted
  apply eq_of_strictly_sorted asymm (build_pairwise _ _) (build_pairwise _ _)
  intro relation
  rw [mem_build, mem_build, take_dedupeBy_congr_of_agree ?_ priorityOrder_separates ?_ (settled (endpointPair relation))]
  · intro first inside second within
    exact compareRelationPriority_agree first (List.mem_filter.mp inside).1 second (List.mem_filter.mp within).1
  · exact fun other => (permuted.filter _).mem_iff

end Candidates

section Ties

variable {classes : CharClasses} {digest : String → String} {explicit otherExplicit : List ExplicitRelationEvidence}
  {fields otherFields : List RelationFieldProfile} {relation : SemanticRelation}

/-- The candidates that may stand for the relation. -/
def rivals (all : List SemanticRelation) (relation : SemanticRelation) : List SemanticRelation :=
  all.filter fun other => decide (relationKey other = relationKey relation)

/-- A best candidate of a key that has its place is returned where it stands first. -/
theorem mem_build_of_first (permuted : (candidates classes digest explicit fields).Perm
      (candidates classes digest otherExplicit otherFields)) {rest : List SemanticRelation}
    (first : rivals (candidates classes digest otherExplicit otherFields) relation = relation :: rest)
    (least : IsLeast relationKey compareRelationPriority (candidates classes digest explicit fields) relation)
    (leading : Leading relationKey compareRelationPriority maxRelationsPerPair
      ((candidates classes digest explicit fields).filter fun other =>
        decide (endpointPair other = endpointPair relation)) (relationKey relation)) :
    relation ∈ buildSemanticRelations classes digest otherExplicit otherFields := by
  rw [mem_build_iff, Shadowed, not_or, not_not, not_not]
  constructor
  · have shape : (candidates classes digest otherExplicit otherFields).filter
        (fun other => decide (relationKey other = relationKey relation)) = relation :: rest := first
    rw [shape]
    apply foldl_keepLess_first
    intro other later
    have inside : other ∈ rivals (candidates classes digest otherExplicit otherFields) relation :=
      first ▸ List.mem_cons_of_mem _ later
    obtain ⟨listed, same⟩ := List.mem_filter.mp inside
    exact least other (permuted.mem_iff.mpr listed) (of_decide_eq_true same)
  · exact (Leading.congr fun other => (permuted.filter _).mem_iff).mp leading

theorem rivals_explicit {evidence : ExplicitRelationEvidence} (admitted : isAdmitted evidence = true)
    (rest : List ExplicitRelationEvidence) : ∃ later,
      rivals (candidates classes digest (evidence :: rest) fields) (explicitRelation digest evidence) =
        explicitRelation digest evidence :: later := by
  rw [rivals, candidates, List.filter_cons_of_pos admitted, List.map_cons, List.cons_append,
    List.filter_cons_of_pos (by simp)]
  exact ⟨_, rfl⟩

theorem rivals_inferred {left right : RelationFieldProfile}
    (inferred : inferredSharedKey classes digest left right = some relation) (rest : List RelationFieldProfile) :
    ∃ later, rivals (candidates classes digest explicit (left :: right :: rest)) relation = relation :: later := by
  have kind := (inferredSharedKey_cases inferred).2.2.1
  have stated : ((explicit.filter isAdmitted).map (explicitRelation digest)).filter
      (fun other => decide (relationKey other = relationKey relation)) = [] := by
    rw [List.filter_eq_nil_iff]
    intro other listed same
    obtain ⟨evidence, _, rfl⟩ := List.mem_map.mp listed
    have types := congrArg (·.2.2) (of_decide_eq_true same)
    exact @explicitRelation_not_sharedKey digest evidence (types.trans kind)
  rw [rivals, candidates, List.filter_append, stated, List.nil_append, inferredRelations,
    List.filterMap_cons_some inferred, List.cons_append, List.filter_cons_of_pos (by simp)]
  exact ⟨_, rfl⟩

/-- Every tied candidate is first in some order of the lists. -/
theorem exists_first (candidate : IsCandidate classes digest explicit fields relation) :
    ∃ otherExplicit otherFields later, explicit.Perm otherExplicit ∧ fields.Perm otherFields ∧
      rivals (candidates classes digest otherExplicit otherFields) relation = relation :: later := by
  rcases candidate with ⟨evidence, listed, admitted, rfl⟩ | ⟨left, right, listed, inferred⟩
  · obtain ⟨later, first⟩ := @rivals_explicit classes digest fields evidence admitted (explicit.erase evidence)
    exact ⟨_, fields, later, List.perm_cons_erase listed, .rfl, first⟩
  · obtain ⟨rest, permuted⟩ := listed.exists_perm_append
    obtain ⟨later, first⟩ := @rivals_inferred classes digest explicit relation left right inferred rest
    exact ⟨explicit, _, later, .rfl, permuted, first⟩

theorem settled_of_orderFree (free : OrderFree classes digest explicit fields) :
    Settled classes digest explicit fields := by
  intro pair
  have distinct : ((buildSemanticRelations classes digest explicit fields).map relationKey).Nodup :=
    (dedupeBy_keys_nodup _ _ _).sublist (build_sublist.map relationKey)
  apply unambiguous_of_kept distinct
  intro relation inside least leading
  obtain ⟨listed, ofPair⟩ := List.mem_filter.mp inside
  have own := of_decide_eq_true ofPair
  subst own
  obtain ⟨otherExplicit, otherFields, later, explicitPermuted, fieldsPermuted, first⟩ :=
    exists_first (mem_candidates.mp listed)
  rw [← free otherExplicit otherFields explicitPermuted fieldsPermuted]
  refine mem_build_of_first (candidates_perm explicitPermuted fieldsPermuted) first ?_ leading
  intro other within same
  exact least other (List.mem_filter.mpr ⟨within, decide_eq_true (endpointPair_of_key same)⟩) same

/-- The returned relations are those of the lists in any order exactly if no candidates tie. -/
theorem build_order_free_iff (classes : CharClasses) (digest : String → String)
    (explicit : List ExplicitRelationEvidence) (fields : List RelationFieldProfile) :
    OrderFree classes digest explicit fields ↔ Settled classes digest explicit fields :=
  ⟨settled_of_orderFree, fun settled _ _ => build_congr settled⟩

/-- A foreign key between the same fields, stated by a constraint of another name. -/
def renamedEvidence (name : String) : ExplicitRelationEvidence :=
  ⟨"field:lease", "field:tenant", .foreignKey, name, [⟨"schema", "constraint", name⟩]⟩

/-- Of two constraints on the same fields the one that comes first gives its reason. -/
theorem tied_constraints_depend_on_order :
    ¬ ∀ explicit fields, OrderFree ⟨Char.isAlpha, Char.isAlphanum⟩ id explicit fields := by
  intro free
  have same := free [renamedEvidence "a", renamedEvidence "b"] [] [renamedEvidence "b", renamedEvidence "a"] []
    (.swap _ _ _) .nil
  exact absurd (congrArg (List.map SemanticRelation.reason) same) (by decide +kernel)

end Ties

end DataMax.SemanticRelations
