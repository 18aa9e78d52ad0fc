import DataMax.SemanticUnderstanding.Idempotence

/-! What the source groups list after the normalization. The list of a group is cut to its first
ids before the ids without a kept node are removed, so such ids can take the places of others. -/

namespace DataMax.SemanticUnderstanding

open Domain Library

/-- Of the groups with one id the first stays. -/
def keptGroups (model : DatasetSemanticUnderstanding) : List SemanticSourceGroup :=
  dedupAdjacent SemanticSourceGroup.id (sortBy (compareOn SemanticSourceGroup.id) model.sourceGroups)

/-- The ids of the objects and fields that are kept. -/
def keptNodeIds (model : DatasetSemanticUnderstanding) : List String :=
  let objectIds := ((rankedObjects model).take maxObjects).map SemanticObject.id
  objectIds ++ ((rankedFields model objectIds).take maxFields).map SemanticField.id

/-- The first of the listed ids with a node, in order and each once. -/
def listedNodes (nodeIds : List String) (group : SemanticSourceGroup) : List String :=
  ((distinctBy id (group.objectIds.map trim)).filter (decide <| · ∈ nodeIds)).take maxObjects

def GroupsListKeptNodes (model : DatasetSemanticUnderstanding) : Prop :=
  (normalizeSemanticUnderstanding model).sourceGroups = (keptGroups model).map fun group =>
    { group with objectIds := listedNodes (normalizeSemanticUnderstanding model).nodeIds group }

/-- No listed id takes the place of one with a node: either all of the first ids have nodes, or
none of the later ones has. A blank id is no id. -/
structure KeepsPlaces (nodeIds : List String) (group : SemanticSourceGroup) : Prop where
  named : "" ∈ nodeIds → "" ∉ group.objectIds.map trim
  places : (∀ id ∈ (distinctTexts group.objectIds).take maxObjects, id ∈ nodeIds) ∨
    ∀ id ∈ (distinctTexts group.objectIds).drop maxObjects, id ∉ nodeIds

variable {model : DatasetSemanticUnderstanding} {nodeIds : List String} {group : SemanticSourceGroup}

theorem nodeIds_eq (model : DatasetSemanticUnderstanding) :
    (normalizeSemanticUnderstanding model).nodeIds = keptNodeIds model := rfl

/-- A group is normalized where it stands. -/
theorem sourceGroups_eq (model : DatasetSemanticUnderstanding) : (normalizeSemanticUnderstanding model).sourceGroups =
    (keptGroups model).map (normalizedGroup (keptNodeIds model)) := by
  have sorted : sortBy (compareOn SemanticSourceGroup.id) (model.sourceGroups.map (normalizedGroup (keptNodeIds model))) =
      (sortBy (compareOn SemanticSourceGroup.id) model.sourceGroups).map (normalizedGroup (keptNodeIds model)) :=
    sortBy_map _ fun _ _ _ _ => rfl
  have shape : (normalizeSemanticUnderstanding model).sourceGroups = dedupAdjacent SemanticSourceGroup.id
      (sortBy (compareOn SemanticSourceGroup.id) (model.sourceGroups.map (normalizedGroup (keptNodeIds model)))) := rfl
  rw [shape, sorted]
  exact dedupAdjacent_map _ fun _ _ => rfl

theorem compare_empty (text : String) : compare text "" ≠ .lt := by
  intro less
  have unfolded : compareOfLessAndEq text "" = .lt := less
  rw [compareOfLessAndEq] at unfolded
  split at unfolded
  · rename_i below
    exact List.not_lt_nil _ below
  · split at unfolded <;> cases unfolded

/-- A blank id comes first. -/
theorem empty_mem_listedNodes (known : "" ∈ nodeIds) (blank : "" ∈ group.objectIds.map trim) :
    "" ∈ listedNodes nodeIds group := by
  have sorted : ((distinctBy id (group.objectIds.map trim)).filter (decide <| · ∈ nodeIds)).Pairwise
      fun first second => compare first second = .lt :=
    (distinctBy_sorted id _).sublist List.filter_sublist
  have listed : "" ∈ (distinctBy id (group.objectIds.map trim)).filter (decide <| · ∈ nodeIds) :=
    List.mem_filter.mpr ⟨mem_distinctBy_self.mpr blank, decide_eq_true known⟩
  refine (mem_take_iff (fun first second less more => ?_) sorted).mpr ⟨listed, ?_⟩
  · simp [Std.OrientedCmp.gt_iff_lt.mpr less] at more
  · rw [List.filter_eq_nil_iff.mpr fun other _ => by simpa using compare_empty other]
    decide

/-- Blank ids do not matter unless a node has one. -/
theorem filter_distinctTexts (named : "" ∈ nodeIds → "" ∉ group.objectIds.map trim) :
    (distinctBy id (group.objectIds.map trim)).filter (decide <| · ∈ nodeIds) =
      (distinctTexts group.objectIds).filter (decide <| · ∈ nodeIds) := by
  refine eq_of_strictly_sorted ?_ ((distinctBy_sorted id _).sublist List.filter_sublist)
    ((distinctTexts_sorted _).sublist List.filter_sublist) fun id => ?_
  · intro first second less more
    have contrary : compare second first = .gt := Std.OrientedCmp.gt_iff_lt.mpr less
    cases contrary.symm.trans more
  · rw [List.mem_filter, List.mem_filter, mem_distinctBy_self, mem_distinctTexts, decide_eq_true_eq]
    constructor
    · rintro ⟨listed, known⟩
      refine ⟨⟨listed, ?_⟩, known⟩
      rintro rfl
      exact named known listed
    · rintro ⟨⟨listed, _⟩, known⟩
      exact ⟨listed, known⟩

theorem normalizedGroup_iff : (normalizedGroup nodeIds group).objectIds = listedNodes nodeIds group ↔
    KeepsPlaces nodeIds group := by
  have cut : (normalizedGroup nodeIds group).objectIds =
      ((distinctTexts group.objectIds).take maxObjects).filter (decide <| · ∈ nodeIds) := rfl
  have places : ((distinctTexts group.objectIds).take maxObjects).filter (decide <| · ∈ nodeIds) =
        ((distinctTexts group.objectIds).filter (decide <| · ∈ nodeIds)).take maxObjects ↔
      (∀ id ∈ (distinctTexts group.objectIds).take maxObjects, id ∈ nodeIds) ∨
        ∀ id ∈ (distinctTexts group.objectIds).drop maxObjects, id ∉ nodeIds := by
    rw [filter_take_eq_iff]
    simp only [decide_eq_true_eq, decide_eq_false_iff_not]
  constructor
  · intro same
    have named : "" ∈ nodeIds → "" ∉ group.objectIds.map trim := by
      intro known blank
      have listed := empty_mem_listedNodes known blank
      rw [← same, cut] at listed
      exact (mem_distinctTexts.mp (List.mem_of_mem_take (List.mem_of_mem_filter listed))).2 rfl
    refine ⟨named, places.mp ?_⟩
    rw [← cut, same, listedNodes, filter_distinctTexts named]
  · intro keeps
    rw [cut, listedNodes, filter_distinctTexts keeps.named]
    exact places.mpr keeps.places

/-- A group lists its kept nodes exactly when no other id takes a place. -/
theorem groupsListKeptNodes_iff (model : DatasetSemanticUnderstanding) :
    GroupsListKeptNodes model ↔ ∀ group ∈ keptGroups model, KeepsPlaces (keptNodeIds model) group := by
  rw [GroupsListKeptNodes, sourceGroups_eq, nodeIds_eq, List.map_inj_left]
  apply forall₂_congr
  intro group _
  rw [← normalizedGroup_iff]
  constructor
  · exact congrArg SemanticSourceGroup.objectIds
  · intro same
    rw [← same]
    rfl

/-- One kept object, behind as many dangling ids as there are places. -/
def danglingModel : DatasetSemanticUnderstanding :=
  { sampleModel with
    objects := [sampleObject "object" ""]
    sourceGroups := [⟨"group", "database_table", "表", "object" :: (List.range maxObjects).map fun place =>
      .ofList [.ofNat (65 + place)], 1⟩] }

theorem danglingModel_loses_object : ¬ GroupsListKeptNodes danglingModel := by
  intro listed
  have lists := congrArg (List.map SemanticSourceGroup.objectIds) listed
  revert lists
  decide +kernel

end DataMax.SemanticUnderstanding
