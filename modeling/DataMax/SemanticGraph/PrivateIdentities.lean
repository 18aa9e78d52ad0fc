import DataMax.SemanticGraph.InputOrder

/-! An identity that a single dataset has does not show in the graph. It unites no endpoints, and
the shared ids are made from the other identities. -/

namespace DataMax.SemanticGraph

open Domain Library

/-- No endpoint of another dataset of the graph has the key of the identity. -/
def IsPrivateIdentity (input : CrossDatasetSemanticMatchInput) (endpoint : CrossDatasetSemanticEndpointInput)
    (identity : CrossDatasetCanonicalIdentity) : Prop :=
  ∀ key, exactIdentityKey endpoint.kind identity = some key → ∀ other ∈ input.endpoints,
    other.datasetId ∈ (boundedDatasets input).1.map (·.id) → other.datasetId ≠ endpoint.datasetId →
      key ∉ other.identities.filterMap (exactIdentityKey other.kind)

section Aligned

variable {digest : String → List UInt8} {input changed : CrossDatasetSemanticMatchInput}
  {pairs : List (CrossDatasetSemanticEndpointInput × CrossDatasetSemanticEndpointInput)}

/-- The pairs whose first endpoints are kept. -/
def keptPairs (input : CrossDatasetSemanticMatchInput)
    (pairs : List (CrossDatasetSemanticEndpointInput × CrossDatasetSemanticEndpointInput)) :
    List (CrossDatasetSemanticEndpointInput × CrossDatasetSemanticEndpointInput) :=
  dedupAdjacent (fun pair => endpointKey pair.1) (sortBy (fun first second => endpointOrder first.1 second.1)
    (pairs.filter fun pair => isIncluded input pair.1))

theorem mem_keptPairs {pair : CrossDatasetSemanticEndpointInput × CrossDatasetSemanticEndpointInput}
    (kept : pair ∈ keptPairs input pairs) : pair ∈ pairs ∧ isIncluded input pair.1 = true :=
  List.mem_filter.mp (mem_sortBy.mp ((dedupAdjacent_sublist _ _).subset kept))

/-- Which endpoints are kept is decided by their keys and kinds. -/
theorem uniqueEndpoints_map (change : CrossDatasetSemanticEndpointInput × CrossDatasetSemanticEndpointInput →
      CrossDatasetSemanticEndpointInput)
    (key : ∀ pair ∈ pairs, endpointKey (change pair) = endpointKey pair.1)
    (kind : ∀ pair ∈ pairs, (change pair).kind = pair.1.kind)
    (datasets : boundedDatasets changed = boundedDatasets input) (endpoints : changed.endpoints = pairs.map change) :
    uniqueEndpoints changed = (keptPairs input pairs).map change := by
  have included : ∀ pair ∈ pairs, isIncluded changed (change pair) = isIncluded input pair.1 := by
    intro pair inside
    obtain ⟨dataset, locals⟩ := Prod.mk.inj (key pair inside)
    rw [isIncluded, isIncluded, datasets, dataset, locals]
  have filtered : (pairs.map change).filter (isIncluded changed) =
      (pairs.filter fun pair => isIncluded input pair.1).map change := by
    rw [List.filter_map]
    exact congrArg _ (List.filter_congr included)
  rw [uniqueEndpoints, endpoints, filtered, sortBy_map, dedupAdjacent_map]
  · rfl
  · intro pair listed
    exact key pair (List.mem_of_mem_filter (mem_sortBy.mp listed))
  · intro first inside second within
    rw [endpointOrder_eq, endpointOrder_eq, key first (List.mem_of_mem_filter inside),
      key second (List.mem_of_mem_filter within), kind first (List.mem_of_mem_filter inside),
      kind second (List.mem_of_mem_filter within)]

theorem graphOver_map {Item : Type} (change : Item → CrossDatasetSemanticEndpointInput) (items : List Item)
    (dropped : Nat) : graphOver digest input (items.map change).get dropped =
      graphOver digest input (fun index : Fin items.length => change (items.get index)) dropped := by
  rw [graphOver_cast _ _ dropped (List.length_map change).symm]
  congr 1
  funext index
  simp

/-- Endpoints that are changed one by one give the same graph while the kept ones look alike. -/
theorem matchCrossDatasetSemanticGraph_map (digest : String → List UInt8)
    (change : CrossDatasetSemanticEndpointInput × CrossDatasetSemanticEndpointInput → CrossDatasetSemanticEndpointInput)
    (endpoints : input.endpoints = pairs.map Prod.fst)
    (key : ∀ pair ∈ pairs, endpointKey (change pair) = endpointKey pair.1)
    (kind : ∀ pair ∈ pairs, (change pair).kind = pair.1.kind)
    (alike : ∀ {count : Nat} (pair : Fin count → CrossDatasetSemanticEndpointInput × CrossDatasetSemanticEndpointInput),
      (∀ index, pair index ∈ keptPairs input pairs) →
        SamePublicView (fun index => change (pair index)) fun index => (pair index).1) :
    matchCrossDatasetSemanticGraph digest { input with endpoints := pairs.map change } =
      matchCrossDatasetSemanticGraph digest input := by
  have kept : uniqueEndpoints input = (keptPairs input pairs).map Prod.fst :=
    uniqueEndpoints_map _ (fun _ _ => rfl) (fun _ _ => rfl) rfl endpoints
  have changed : uniqueEndpoints { input with endpoints := pairs.map change } = (keptPairs input pairs).map change :=
    uniqueEndpoints_map change key kind rfl rfl
  rw [matchCrossDatasetSemanticGraph, matchCrossDatasetSemanticGraph, boundedEndpoints, boundedEndpoints, kept, changed,
    List.length_map, List.length_map, ← List.map_take, ← List.map_take, graphOver_map, graphOver_map]
  refine graphOver_congr _ (alike _ fun index => ?_) (fun _ => Iff.rfl) rfl rfl rfl rfl rfl
  exact List.mem_of_mem_take (List.get_mem _ _)

end Aligned

section Private

variable {digest : String → List UInt8} {input : CrossDatasetSemanticMatchInput}
  {endpoint : CrossDatasetSemanticEndpointInput} {identity : CrossDatasetCanonicalIdentity}
  {first rest : List CrossDatasetCanonicalIdentity}

/-- The endpoint has the key of the further identity and its own ones. -/
theorem mem_furtherKeys (held : endpoint.identities = first ++ rest) (key : String) :
    key ∈ (first ++ identity :: rest).filterMap (exactIdentityKey endpoint.kind) ↔
      key ∈ endpoint.identities.filterMap (exactIdentityKey endpoint.kind) ∨
        exactIdentityKey endpoint.kind identity = some key := by
  rw [held]
  simp only [List.mem_filterMap, List.mem_append, List.mem_cons]
  constructor
  · rintro ⟨other, inside | rfl | inside, found⟩
    · exact .inl ⟨other, .inl inside, found⟩
    · exact .inr found
    · exact .inl ⟨other, .inr inside, found⟩
  · rintro (⟨other, inside | inside, found⟩ | found)
    · exact ⟨other, .inl inside, found⟩
    · exact ⟨other, .inr (.inr inside), found⟩
    · exact ⟨identity, .inr (.inl rfl), found⟩

/-- The endpoint with a further identity. -/
def furtherIdentified (endpoint : CrossDatasetSemanticEndpointInput) (first rest : List CrossDatasetCanonicalIdentity)
    (identity : CrossDatasetCanonicalIdentity) : CrossDatasetSemanticEndpointInput :=
  { endpoint with identities := first ++ identity :: rest }

/-- The further key is in one dataset, so nothing that two datasets have changes. -/
theorem samePublicView_furtherIdentified (isPrivate : IsPrivateIdentity input endpoint identity)
    (held : endpoint.identities = first ++ rest) {count : Nat}
    (pair : Fin count → CrossDatasetSemanticEndpointInput × CrossDatasetSemanticEndpointInput)
    (known : ∀ index, (pair index).1 ∈ input.endpoints ∧ isIncluded input (pair index).1 = true)
    (changed : ∀ index, (pair index).2 = (pair index).1 ∨
      (pair index).1 = endpoint ∧ (pair index).2 = furtherIdentified endpoint first rest identity) :
    SamePublicView (fun index => (pair index).2) fun index => (pair index).1 := by
  have keys (index : Fin count) (key : String) (foreign : exactIdentityKey endpoint.kind identity ≠ some key) :
      key ∈ identityKeys (fun index => (pair index).2) index ↔ key ∈ identityKeys (fun index => (pair index).1) index := by
    rcases changed index with same | ⟨old, new⟩
    · rw [identityKeys, identityKeys, same]
    · rw [identityKeys, identityKeys, new, old]
      exact (mem_furtherKeys held key).trans (or_iff_left foreign)
  have others (index : Fin count) (key : String) (own : exactIdentityKey endpoint.kind identity = some key)
      (apart : (pair index).1.datasetId ≠ endpoint.datasetId) :
      key ∉ identityKeys (fun index => (pair index).1) index ∧ key ∉ identityKeys (fun index => (pair index).2) index := by
    obtain ⟨listed, included⟩ := known index
    have absent := isPrivate key own _ listed (of_decide_eq_true (Bool.and_eq_true_iff.mp included).1) apart
    rcases changed index with same | ⟨old, _⟩
    · refine ⟨absent, ?_⟩
      rw [identityKeys, same]
      exact absent
    · exact absurd (congrArg _ old) apart
  have datasets (index : Fin count) : (pair index).2.datasetId = (pair index).1.datasetId := by
    rcases changed index with same | ⟨old, new⟩
    · rw [same]
    · rw [new, old]
      rfl
  have view (index : Fin count) : endpointKey (pair index).2 = endpointKey (pair index).1 ∧
      (pair index).2.kind = (pair index).1.kind ∧
      comparableChineseLabel (pair index).2.displayLabel = comparableChineseLabel (pair index).1.displayLabel ∧
      (pair index).2.visibleProvenanceCount = (pair index).1.visibleProvenanceCount := by
    rcases changed index with same | ⟨old, new⟩
    · rw [same]
      exact ⟨rfl, rfl, rfl, rfl⟩
    · rw [new, old]
      exact ⟨rfl, rfl, rfl, rfl⟩
  refine ⟨fun index => (view index).1, fun index => (view index).2.1, fun index => (view index).2.2.1,
    fun index => (view index).2.2.2, ?_⟩
  intro key crosses index
  apply keys index key
  intro own
  -- One of the two datasets that have the key is not the endpoint's.
  rcases crosses with ⟨one, _, two, _, given, also, apart⟩ | ⟨one, _, two, _, given, also, apart⟩
  · rw [datasets, datasets] at apart
    by_cases same : (pair one).1.datasetId = endpoint.datasetId
    · exact (others two key own fun equal => apart (same.trans equal.symm)).2 also
    · exact (others one key own same).2 given
  · by_cases same : (pair one).1.datasetId = endpoint.datasetId
    · exact (others two key own fun equal => apart (same.trans equal.symm)).1 also
    · exact (others one key own same).1 given

/-- A further identity whose key no other dataset of the graph has changes nothing. -/
theorem matchCrossDatasetSemanticGraph_private (digest : String → List UInt8)
    {earlier later : List CrossDatasetSemanticEndpointInput} (listed : input.endpoints = earlier ++ endpoint :: later)
    (held : endpoint.identities = first ++ rest) (isPrivate : IsPrivateIdentity input endpoint identity) :
    matchCrossDatasetSemanticGraph digest
        { input with endpoints := earlier ++ { endpoint with identities := first ++ identity :: rest } :: later } =
      matchCrossDatasetSemanticGraph digest input := by
  let pairs := earlier.map (fun other => (other, other)) ++
    (endpoint, furtherIdentified endpoint first rest identity) :: later.map fun other => (other, other)
  have olds : pairs.map Prod.fst = input.endpoints := by
    simp [pairs, listed, Function.comp_def]
  have news : pairs.map Prod.snd = earlier ++ furtherIdentified endpoint first rest identity :: later := by
    simp [pairs, Function.comp_def]
  have changed : ∀ pair ∈ pairs, pair.2 = pair.1 ∨
      pair.1 = endpoint ∧ pair.2 = furtherIdentified endpoint first rest identity := by
    intro pair inside
    rcases List.mem_append.mp inside with before | after
    · obtain ⟨other, _, rfl⟩ := List.mem_map.mp before
      exact .inl rfl
    · rcases List.mem_cons.mp after with rfl | behind
      · exact .inr ⟨rfl, rfl⟩
      · obtain ⟨other, _, rfl⟩ := List.mem_map.mp behind
        exact .inl rfl
  have face : ∀ pair ∈ pairs, endpointKey pair.2 = endpointKey pair.1 ∧ pair.2.kind = pair.1.kind := by
    intro pair inside
    rcases changed pair inside with same | ⟨old, new⟩
    · rw [same]
      exact ⟨rfl, rfl⟩
    · rw [old, new]
      exact ⟨rfl, rfl⟩
  have unchanged := matchCrossDatasetSemanticGraph_map digest Prod.snd olds.symm
    (fun pair inside => (face pair inside).1) (fun pair inside => (face pair inside).2) ?_
  · rw [news] at unchanged
    exact unchanged
  · intro count pair kept
    refine samePublicView_furtherIdentified isPrivate held pair (fun index => ?_) fun index =>
      changed _ (mem_keptPairs (kept index)).1
    obtain ⟨inside, included⟩ := mem_keptPairs (kept index)
    exact ⟨olds ▸ List.mem_map.mpr ⟨_, inside, rfl⟩, included⟩

/-- The right dataset gives its concept a meaning of its own. -/
theorem matchCrossDatasetSemanticGraph_private_dates :
    matchCrossDatasetSemanticGraph shortDigest { datesInput with
      endpoints := [dateField leftDataset "field:left", dateField rightDataset "field:right",
        timeConcept leftDataset "concept:left"] ++
        { timeConcept rightDataset "concept:right" with
          identities := [.confirmedConcept "t"] ++ [.confirmedConcept "fiscal"] } :: [] } =
      matchCrossDatasetSemanticGraph shortDigest datesInput := by
  refine @matchCrossDatasetSemanticGraph_private datesInput (timeConcept rightDataset "concept:right")
    (.confirmedConcept "fiscal") [.confirmedConcept "t"] [] shortDigest _ [] rfl rfl ?_
  have own : exactIdentityKey .concept (.confirmedConcept "fiscal") = some "confirmed_concept\x00fiscal" := by decide
  intro key found
  obtain rfl := Option.some.inj (own.symm.trans found)
  decide

end Private

end DataMax.SemanticGraph
