import DataMax.SemanticGraph.Classes

/-! Each class of endpoints has one node, and different classes have different
nodes. -/

namespace DataMax.SemanticGraph

open Domain Library SemanticUnderstanding

section Nodes

variable (digest : String → List UInt8) {count : Nat} (endpoint : Fin count → CrossDatasetSemanticEndpointInput)

/-- The node that the endpoint is represented by. -/
def nodeOf (index : Fin count) : DatasetSemanticGraphNode :=
  if 2 ≤ (datasetRefs endpoint (classOf endpoint index)).length then
    sharedNode digest endpoint ((classOf endpoint index).headD index) (classOf endpoint index)
  else scopedNode digest endpoint index

variable {digest} {endpoint} {first second index : Fin count} {node : DatasetSemanticGraphNode}

theorem nodeOf_eq (inside : second ∈ classOf endpoint first) :
    nodeOf digest endpoint second = nodeOf digest endpoint first := by
  have same := classOf_eq inside
  rw [nodeOf, nodeOf, same]
  split
  · cases shape : classOf endpoint first with
    | nil => simp [shape] at inside
    | cons head rest => rfl
  · rename_i alone
    rw [classOf_lone alone, List.mem_singleton] at inside
    rw [inside]

theorem componentPlacements_classOf (index : Fin count) : componentPlacements digest endpoint (classOf endpoint index) =
    [(classOf endpoint index, nodeOf digest endpoint index)] := by
  by_cases several : 2 ≤ (datasetRefs endpoint (classOf endpoint index)).length
  · have inside := @self_mem_classOf _ endpoint index
    rw [nodeOf, if_pos several]
    cases shape : classOf endpoint index with
    | nil => simp [shape] at inside
    | cons head rest => rw [shape] at several; simp [componentPlacements, several]
  · have lone := classOf_lone several
    rw [lone] at several
    rw [nodeOf, lone, if_neg several, componentPlacements, if_neg several]
    rfl

theorem mem_placements {placement : List (Fin count) × DatasetSemanticGraphNode} :
    placement ∈ placements digest endpoint ↔
      ∃ index, placement = (classOf endpoint index, nodeOf digest endpoint index) := by
  rw [placements, List.mem_flatMap]
  constructor
  · rintro ⟨indices, listed, inside⟩
    obtain ⟨index, rfl⟩ := mem_components.mp listed
    rw [componentPlacements_classOf, List.mem_singleton] at inside
    exact ⟨index, inside⟩
  · rintro ⟨index, rfl⟩
    refine ⟨_, mem_components.mpr ⟨index, rfl⟩, ?_⟩
    rw [componentPlacements_classOf]
    exact List.mem_singleton_self _

theorem endpointNodeId_eq (index : Fin count) :
    endpointNodeId digest endpoint index = (nodeOf digest endpoint index).id := by
  have found : (endpointNodeIds digest endpoint).get? index = some (nodeOf digest endpoint index).id := by
    apply SortedMap.get?_ofList_of_functional
    · exact List.mem_flatMap.mpr ⟨_, mem_placements.mpr ⟨index, rfl⟩,
        List.mem_map.mpr ⟨index, self_mem_classOf index, rfl⟩⟩
    · intro other listed
      obtain ⟨placement, placed, inside⟩ := List.mem_flatMap.mp listed
      obtain ⟨place, rfl⟩ := mem_placements.mp placed
      obtain ⟨member, within, same⟩ := List.mem_map.mp inside
      cases same
      rw [nodeOf_eq within]
  rw [endpointNodeId, found, Option.getD_some]

theorem of_mem_allNodes (inside : node ∈ allNodes digest endpoint) : ∃ index, node = nodeOf digest endpoint index := by
  rw [allNodes, mem_sortBy] at inside
  obtain ⟨placement, placed, rfl⟩ := List.mem_map.mp (SortedMap.mem_keyed inside)
  obtain ⟨index, rfl⟩ := mem_placements.mp placed
  exact ⟨index, rfl⟩

/-- Some node of the id stays, whichever it is. -/
theorem exists_mem_allNodes (index : Fin count) :
    ∃ node ∈ allNodes digest endpoint, node.id = endpointNodeId digest endpoint index := by
  have placed : nodeOf digest endpoint index ∈ (placements digest endpoint).map (·.2) :=
    List.mem_map.mpr ⟨_, mem_placements.mpr ⟨index, rfl⟩, rfl⟩
  obtain ⟨node, kept, same⟩ : ∃ node ∈ (nodesById digest endpoint).values,
      node.id = (nodeOf digest endpoint index).id := SortedMap.exists_mem_keyed placed
  exact ⟨node, mem_sortBy.mpr kept, by rw [same, endpointNodeId_eq]⟩

theorem allNodes_ids_nodup : ((allNodes digest endpoint).map (·.id)).Nodup := by
  rw [allNodes, ((sortBy_perm nodeOrder _).map _).nodup_iff]
  exact SortedMap.keyed_nodup _ _

theorem allNodes_length_le : (allNodes digest endpoint).length ≤ count := by
  have listed : (allNodes digest endpoint).map (·.id) ⊆ (List.finRange count).map (endpointNodeId digest endpoint) := by
    intro id inside
    obtain ⟨node, within, rfl⟩ := List.mem_map.mp inside
    obtain ⟨index, rfl⟩ := of_mem_allNodes within
    exact List.mem_map.mpr ⟨index, List.mem_finRange index, endpointNodeId_eq index⟩
  have atMost := (List.subperm_of_subset allNodes_ids_nodup listed).length_le
  simpa using atMost

end Nodes

section Separation

variable {digest : String → List UInt8} {count : Nat} {endpoint : Fin count → CrossDatasetSemanticEndpointInput}
  {first second index : Fin count} {indices others : List (Fin count)} {key text : String}

theorem mem_endpointIdentityKeys : key ∈ endpointIdentityKeys endpoint index ↔ key ∈ identityKeys endpoint index :=
  mem_dedupAdjacent_sortBy_self

theorem identityDatasetRefs_crosses {datasets : List UuidBytes}
    (found : (identityDatasetRefs endpoint indices).get? key = some datasets) :
    2 ≤ (distinctBy id datasets).length ↔ CrossesDatasets endpoint indices key := by
  have listed : ∀ dataset, dataset ∈ datasets ↔
      ∃ index ∈ indices, key ∈ identityKeys endpoint index ∧ (endpoint index).datasetId = dataset := by
    intro dataset
    rw [SortedMap.mem_grouped found]
    simp [mem_endpointIdentityKeys]
  rw [two_le_length_distinctBy_self]
  constructor
  · rintro ⟨one, inside, two, within, apart⟩
    obtain ⟨first, member, given, rfl⟩ := (listed one).mp inside
    obtain ⟨second, other, also, rfl⟩ := (listed two).mp within
    exact ⟨first, member, second, other, given, also, apart⟩
  · rintro ⟨first, member, second, other, given, also, apart⟩
    exact ⟨_, (listed _).mpr ⟨first, member, given, rfl⟩, _, (listed _).mpr ⟨second, other, also, rfl⟩, apart⟩

theorem mem_identityDigests : text ∈ identityDigests digest endpoint indices ↔
    ∃ key, CrossesDatasets endpoint indices key ∧ semanticId digest "identity" [key] = text := by
  rw [identityDigests, mem_distinctBy_self, List.mem_map]
  constructor
  · rintro ⟨entry, inside, same⟩
    obtain ⟨listed, several⟩ := List.mem_filter.mp inside
    exact ⟨entry.1, (identityDatasetRefs_crosses (SortedMap.mem_entries_iff.mp listed)).mp
      (of_decide_eq_true several), same⟩
  · rintro ⟨key, crosses, same⟩
    obtain ⟨index, member, _, _, given, _⟩ := id crosses
    have listed : (key, (endpoint index).datasetId) ∈ indices.flatMap fun index =>
        (endpointIdentityKeys endpoint index).map fun key => (key, (endpoint index).datasetId) := by
      simpa [mem_endpointIdentityKeys] using ⟨index, member, given, rfl⟩
    obtain ⟨datasets, found⟩ := SortedMap.get?_grouped_isSome listed
    exact ⟨(key, datasets), List.mem_filter.mpr ⟨SortedMap.mem_entries_iff.mpr found,
      decide_eq_true ((identityDatasetRefs_crosses found).mpr crosses)⟩, same⟩

theorem identityDigests_plain : ∀ text ∈ identityDigests digest endpoint indices, IsPlain text := by
  intro text inside
  obtain ⟨key, _, rfl⟩ := mem_identityDigests.mp inside
  apply semanticId_plain
  decide

theorem sharedIdKind_bare (kind : DatasetSemanticGraphNodeKind) : ':' ∉ kind.sharedIdKind.toList := by
  cases kind <;> decide

variable (collisionFree : Function.Injective digest)

include collisionFree

/-- A shared id is made from the keys that cross the datasets of its endpoints. -/
theorem sharedNodeId_digests {kind other : DatasetSemanticGraphNodeKind}
    (same : sharedNodeId digest endpoint kind indices = sharedNodeId digest endpoint other others) :
    identityDigests digest endpoint indices = identityDigests digest endpoint others := by
  have free : PrefixFree fun kind : DatasetSemanticGraphNodeKind => kind.sharedIdKind.toList ++ [':'] := by
    apply PrefixFree.terminated _ sharedIdKind_bare
    intro kind other equal
    cases kind <;> cases other <;> first | rfl | exact absurd equal (by decide)
  have texts := congrArg String.toList same
  simp only [sharedNodeId, String.toList_append, List.append_assoc] at texts
  have following := List.append_cancel_left texts
  have digests := (free kind other _ _ (by simpa using following)).2
  have bare : ':' ∉ (trim "shared").toList := by decide
  exact semanticId_injective collisionFree identityDigests_plain identityDigests_plain
    (semanticId_eq_of_afterColon bare (String.toList_injective digests))

theorem identity_injective {other : String} (given : key ∈ identityKeys endpoint first)
    (also : other ∈ identityKeys endpoint second)
    (same : semanticId digest "identity" [key] = semanticId digest "identity" [other]) : key = other := by
  obtain ⟨_, _, found⟩ := mem_identityKeys.mp given
  obtain ⟨_, _, known⟩ := mem_identityKeys.mp also
  rw [← exactIdentityKey_trim found, ← exactIdentityKey_trim known]
  exact semanticId_single collisionFree same

/-- Two classes with one shared id have a key in common. -/
theorem classOf_eq_of_sharedNodeId {kind other : DatasetSemanticGraphNodeKind}
    (several : 2 ≤ (datasetRefs endpoint (classOf endpoint first)).length)
    (same : sharedNodeId digest endpoint kind (classOf endpoint first) =
      sharedNodeId digest endpoint other (classOf endpoint second)) :
    classOf endpoint first = classOf endpoint second := by
  obtain ⟨key, crosses⟩ := two_le_classOf.mp several
  have listed : semanticId digest "identity" [key] ∈ identityDigests digest endpoint (classOf endpoint first) :=
    mem_identityDigests.mpr ⟨key, crosses, rfl⟩
  rw [sharedNodeId_digests collisionFree same] at listed
  obtain ⟨common, otherCrosses, equal⟩ := mem_identityDigests.mp listed
  obtain ⟨member, inside, partner, _, given, also, apart⟩ := crosses
  obtain ⟨index, within, _, _, known, _⟩ := otherCrosses
  obtain rfl := identity_injective collisionFree known given equal
  have shares : SharesIdentity endpoint member index :=
    ⟨common, given, known, member, List.mem_finRange _, partner, List.mem_finRange _, given, also, apart⟩
  rw [← classOf_eq inside, ← classOf_eq within, classOf_eq shares.mem_classOf]

theorem nodeOf_id_injective (distinct : ∀ first second, endpointKey (endpoint first) = endpointKey (endpoint second) →
    first = second) (same : (nodeOf digest endpoint first).id = (nodeOf digest endpoint second).id) :
    classOf endpoint first = classOf endpoint second := by
  have apart : ∀ kind indices dataset value, sharedNodeId digest endpoint kind indices ≠
      scopedSemanticEndpointId digest dataset value := by
    intro kind indices dataset value equal
    have starts := congrArg (fun text => text.toList.head?) equal
    simp [sharedNodeId, scopedSemanticEndpointId] at starts
  rw [nodeOf, nodeOf] at same
  split at same
  · rename_i several
    split at same
    · exact classOf_eq_of_sharedNodeId collisionFree several same
    · exact False.elim (apart _ _ _ _ same)
  · split at same
    · exact False.elim (apart _ _ _ _ same.symm)
    · obtain ⟨datasets, locals⟩ := scopedSemanticEndpointId_injective collisionFree same
      rw [trim_trim, trim_trim] at locals
      rw [distinct first second (Prod.ext datasets locals)]

end Separation

section Folds

variable (digest : String → List UInt8) {count : Nat} (endpoint : Fin count → CrossDatasetSemanticEndpointInput)

/-- What the node says about the endpoints that it represents. -/
structure FoldsEndpoints (node : DatasetSemanticGraphNode) : Prop where
  datasets : ∀ dataset, dataset ∈ node.datasetRefs ↔
    ∃ index, endpointNodeId digest endpoint index = node.id ∧ (endpoint index).datasetId = dataset
  once : node.datasetRefs.Nodup
  kind : ∀ index, endpointNodeId digest endpoint index = node.id → (endpoint index).kind = node.kind
  provenance : node.visibleProvenanceCount.toNat =
    min (((List.finRange count).filter fun index => endpointNodeId digest endpoint index = node.id).map
      fun index => (endpoint index).visibleProvenanceCount.toNat).sum (2 ^ 64 - 1)

variable {digest endpoint} {first second : Fin count}

theorem saturatingAdd_toNat (left right : UInt64) :
    (saturatingAdd left right).toNat = min (left.toNat + right.toNat) (2 ^ 64 - 1) := by
  rw [saturatingAdd, UInt64.toNat_ofNat_of_lt']
  exact Nat.lt_of_le_of_lt (Nat.min_le_right _ _) (by decide)

theorem foldl_saturatingAdd (indices : List (Fin count)) (start : UInt64) :
    (indices.foldl (fun total index => saturatingAdd total (endpoint index).visibleProvenanceCount) start).toNat =
      min (start.toNat + (indices.map fun index => (endpoint index).visibleProvenanceCount.toNat).sum) (2 ^ 64 - 1) := by
  induction indices generalizing start with
  | nil =>
    have small := start.toNat_lt
    simp only [List.foldl_nil, List.map_nil, List.sum_nil]
    omega
  | cons head rest ih =>
    rw [List.foldl_cons, ih, saturatingAdd_toNat, List.map_cons, List.sum_cons]
    omega

theorem nodeOf_datasetRefs (index : Fin count) :
    (nodeOf digest endpoint index).datasetRefs = datasetRefs endpoint (classOf endpoint index) := by
  rw [nodeOf]
  split
  · rfl
  · rename_i alone
    rw [classOf_lone alone]
    rfl

theorem nodeOf_kind (index : Fin count) : (nodeOf digest endpoint index).kind = (endpoint index).kind := by
  have inside := @self_mem_classOf _ endpoint index
  rw [nodeOf]
  split
  · cases shape : classOf endpoint index with
    | nil => simp [shape] at inside
    | cons head rest => exact classOf_kind (by simp [shape])
  · rfl

theorem nodeOf_provenance (index : Fin count) : (nodeOf digest endpoint index).visibleProvenanceCount.toNat =
    min ((classOf endpoint index).map fun index => (endpoint index).visibleProvenanceCount.toNat).sum (2 ^ 64 - 1) := by
  rw [nodeOf]
  split
  · simp only [sharedNode]
    rw [foldl_saturatingAdd]
    simp
  · rename_i alone
    have small := (endpoint index).visibleProvenanceCount.toNat_lt
    rw [classOf_lone alone]
    simp only [scopedNode, List.map_cons, List.map_nil, List.sum_cons, List.sum_nil]
    omega

variable (collisionFree : Function.Injective digest)
  (distinct : ∀ first second, endpointKey (endpoint first) = endpointKey (endpoint second) → first = second)

include collisionFree distinct

theorem endpointNodeId_eq_nodeOf : endpointNodeId digest endpoint second = (nodeOf digest endpoint first).id ↔
    second ∈ classOf endpoint first := by
  rw [endpointNodeId_eq]
  constructor
  · intro same
    rw [← nodeOf_id_injective collisionFree distinct same]
    exact self_mem_classOf second
  · intro inside
    rw [nodeOf_eq inside]

theorem endpointNodeId_eq_iff : endpointNodeId digest endpoint first = endpointNodeId digest endpoint second ↔
    Relation.EqvGen (SharesIdentity endpoint) first second := by
  rw [@endpointNodeId_eq _ _ _ second, endpointNodeId_eq_nodeOf collisionFree distinct, mem_classOf, root_eq_iff]

theorem foldsEndpoints_nodeOf (index : Fin count) : FoldsEndpoints digest endpoint (nodeOf digest endpoint index) where
  datasets dataset := by
    simp only [endpointNodeId_eq_nodeOf collisionFree distinct]
    rw [nodeOf_datasetRefs, mem_datasetRefs]
  once := by
    rw [nodeOf_datasetRefs]
    exact distinctBy_self_nodup _
  kind other represented := by
    rw [nodeOf_kind]
    exact classOf_kind ((endpointNodeId_eq_nodeOf collisionFree distinct).mp represented)
  provenance := by
    simp only [endpointNodeId_eq_nodeOf collisionFree distinct, mem_classOf]
    exact nodeOf_provenance index

end Folds

section Graph

variable (digest : String → List UInt8) (input : CrossDatasetSemanticMatchInput)

variable {digest input}

theorem boundedEndpoints_perm (distinct : ((input.endpoints.filter (isIncluded input)).map endpointKey).Nodup)
    (few : (input.endpoints.filter (isIncluded input)).length ≤ absoluteMaxEndpoints) :
    (boundedEndpoints input).Perm (input.endpoints.filter (isIncluded input)) := by
  have sorted := sortBy_perm endpointOrder (input.endpoints.filter (isIncluded input))
  have kept : uniqueEndpoints input = sortBy endpointOrder (input.endpoints.filter (isIncluded input)) :=
    dedupAdjacent_eq_self ((sorted.map endpointKey).nodup_iff.mpr distinct)
  rw [boundedEndpoints, kept, List.take_of_length_le (by rw [sorted.length_eq]; exact few)]
  exact sorted

/-- Endpoints are folded into one node exactly when a chain of shared identities
connects them, and the node sums them up. -/
theorem matchCrossDatasetSemanticGraph_folds (collisionFree : Function.Injective digest)
    (distinct : ((input.endpoints.filter (isIncluded input)).map endpointKey).Nodup)
    (few : (input.endpoints.filter (isIncluded input)).length ≤ absoluteMaxEndpoints)
    (fit : (allNodes digest (boundedEndpoints input).get).length ≤ input.limits.maxNodes) :
    (boundedEndpoints input).Perm (input.endpoints.filter (isIncluded input)) ∧
    (∀ first second, endpointNodeId digest (boundedEndpoints input).get first =
        endpointNodeId digest (boundedEndpoints input).get second ↔
      Relation.EqvGen (SharesIdentity (boundedEndpoints input).get) first second) ∧
    (∀ index, ∃! node, node ∈ (matchCrossDatasetSemanticGraph digest input).nodes ∧
      node.id = endpointNodeId digest (boundedEndpoints input).get index) ∧
    ∀ node ∈ (matchCrossDatasetSemanticGraph digest input).nodes,
      (∃ index, endpointNodeId digest (boundedEndpoints input).get index = node.id) ∧
      FoldsEndpoints digest (boundedEndpoints input).get node := by
  have permuted := boundedEndpoints_perm distinct few
  have apart : ∀ first second, endpointKey ((boundedEndpoints input).get first) =
      endpointKey ((boundedEndpoints input).get second) → first = second := by
    intro first second same
    have keys := (permuted.map endpointKey).nodup_iff.mpr distinct
    exact List.nodup_iff_injective_get.mp (List.Nodup.of_map _ keys)
      (List.inj_on_of_nodup_map keys (List.get_mem _ _) (List.get_mem _ _) same)
  have all : (matchCrossDatasetSemanticGraph digest input).nodes = allNodes digest (boundedEndpoints input).get := by
    have bounded : (boundedEndpoints input).length ≤ absoluteMaxEndpoints := List.length_take_le _ _
    have within := @allNodes_length_le digest _ (boundedEndpoints input).get
    exact List.take_of_length_le (le_min fit (within.trans bounded))
  rw [all]
  refine ⟨permuted, fun _ _ => endpointNodeId_eq_iff collisionFree apart, fun index => ?_, fun node inside => ?_⟩
  · obtain ⟨node, inside, same⟩ := @exists_mem_allNodes digest _ (boundedEndpoints input).get index
    refine ⟨node, ⟨inside, same⟩, ?_⟩
    rintro other ⟨within, equal⟩
    exact List.inj_on_of_nodup_map allNodes_ids_nodup within inside (equal.trans same.symm)
  · obtain ⟨index, rfl⟩ := of_mem_allNodes inside
    exact ⟨⟨index, endpointNodeId_eq index⟩, foldsEndpoints_nodeOf collisionFree apart index⟩

end Graph

section Dates

def leftDataset : UuidBytes := ⟨List.replicate 15 0 ++ [38], rfl⟩
def rightDataset : UuidBytes := ⟨List.replicate 15 0 ++ [39], rfl⟩

def dateField (datasetId : UuidBytes) (localNodeId : String) : CrossDatasetSemanticEndpointInput where
  datasetId
  localNodeId
  kind := .field
  displayLabel := "业务日期"
  visibleProvenanceCount := 1
  identities := [.exactSourceField "c" "b" "d" "t"]

def timeConcept (datasetId : UuidBytes) (localNodeId : String) : CrossDatasetSemanticEndpointInput where
  datasetId
  localNodeId
  kind := .concept
  displayLabel := "时间维度"
  visibleProvenanceCount := 1
  identities := [.confirmedConcept "t"]

/-- Both datasets have one field of dates, which expresses one concept of time. -/
def datesInput : CrossDatasetSemanticMatchInput where
  rootDatasetId := leftDataset
  datasets := [⟨leftDataset, "左数据集", false⟩, ⟨rightDataset, "右数据集", false⟩]
  endpoints := [dateField leftDataset "field:left", dateField rightDataset "field:right",
    timeConcept leftDataset "concept:left", timeConcept rightDataset "concept:right"]
  explicitRelations := [
    ⟨leftDataset, "field:left", leftDataset, "concept:left", .fieldExpressesConcept, .observed⟩,
    ⟨rightDataset, "field:right", rightDataset, "concept:right", .fieldExpressesConcept, .observed⟩]
  options := ⟨false, false, false, false⟩
  limits := ⟨8, 160, 240⟩
  stale := false

/-- Short names for the texts that are digested for the nodes of this graph. -/
def shortTexts : List (String × String) := [
  ("identity\x00exact_source_field\x00c\x00b\x00d\x00t", "1"), ("identity\x00confirmed_concept\x00t", "2"),
  ("shared\x00identity:31", "3"), ("shared\x00identity:32", "4")]

/-- Texts and their short names change places. -/
def shortDigest (text : String) : List UInt8 :=
  utf8 (shortTexts.foldl (fun text pair => Equiv.swap pair.1 pair.2 text) text)

theorem shortDigest_injective : Function.Injective shortDigest := by
  have swaps : ∀ pairs : List (String × String),
      Function.Injective fun text => pairs.foldl (fun text pair => Equiv.swap pair.1 pair.2 text) text := by
    intro pairs
    induction pairs with
    | nil => exact Function.injective_id
    | cons head rest ih => exact ih.comp (Equiv.swap head.1 head.2).injective
  exact utf8_injective.comp (swaps shortTexts)

/-- Of the four endpoints two nodes remain. -/
theorem matchCrossDatasetSemanticGraph_folds_dates :
    (matchCrossDatasetSemanticGraph shortDigest datesInput).nodes.length = 2 ∧
      ∀ first second, endpointNodeId shortDigest (boundedEndpoints datesInput).get first =
        endpointNodeId shortDigest (boundedEndpoints datesInput).get second ↔
          Relation.EqvGen (SharesIdentity (boundedEndpoints datesInput).get) first second := by
  have distinct : ((datesInput.endpoints.filter (isIncluded datesInput)).map endpointKey).Nodup := by decide +kernel
  have few : (datesInput.endpoints.filter (isIncluded datesInput)).length ≤ absoluteMaxEndpoints := by decide +kernel
  have fit : (allNodes shortDigest (boundedEndpoints datesInput).get).length ≤ datesInput.limits.maxNodes := by
    decide +kernel
  exact ⟨by decide +kernel,
    (matchCrossDatasetSemanticGraph_folds shortDigest_injective distinct few fit).2.1⟩

end Dates

end DataMax.SemanticGraph
