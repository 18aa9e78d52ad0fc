import DataMax.SemanticGraph.Views

/-! The graph does not depend on the order of the input, apart from duplicates
that disagree. -/

namespace DataMax.SemanticGraph

open Domain Library

section Reordering

/-- The same endpoint with its identities in another order. -/
structure ReorderedIdentities (endpoint changed : CrossDatasetSemanticEndpointInput) : Prop where
  identities : endpoint.identities.Perm changed.identities
  others : changed = { endpoint with identities := changed.identities }

structure Reordered (input changed : CrossDatasetSemanticMatchInput) : Prop where
  datasets : input.datasets.Perm changed.datasets
  endpoints : ∃ permuted, input.endpoints.Perm permuted ∧ List.Forall₂ ReorderedIdentities permuted changed.endpoints
  explicitRelations : input.explicitRelations.Perm changed.explicitRelations
  rootDatasetId : input.rootDatasetId = changed.rootDatasetId
  options : input.options = changed.options
  limits : input.limits = changed.limits
  stale : input.stale = changed.stale

/-- Whichever duplicate is kept, the graph takes the same from it. -/
structure DuplicatesAgree (input : CrossDatasetSemanticMatchInput) : Prop where
  datasets : ∀ kept ∈ (boundedDatasets input).1, ∀ other ∈ input.datasets, other.id = kept.id → other = kept
  endpoints : ∀ kept ∈ boundedEndpoints input, ∀ other ∈ input.endpoints, endpointKey other = endpointKey kept →
    other.kind = kept.kind → SameView other kept

variable {input changed : CrossDatasetSemanticMatchInput} {endpoint other : CrossDatasetSemanticEndpointInput}

theorem ReorderedIdentities.sameView (reordered : ReorderedIdentities endpoint other) : SameView endpoint other := by
  obtain ⟨identities, rest⟩ := reordered
  rw [rest]
  exact ⟨rfl, rfl, rfl, rfl, fun key => (identities.filterMap _).mem_iff⟩

theorem SameView.trans {third : CrossDatasetSemanticEndpointInput} (first : SameView endpoint other)
    (second : SameView other third) : SameView endpoint third where
  key := first.key.trans second.key
  kind := first.kind.trans second.kind
  label := first.label.trans second.label
  provenance := first.provenance.trans second.provenance
  identities key := (first.identities key).trans (second.identities key)

theorem SameView.symm (same : SameView endpoint other) : SameView other endpoint where
  key := same.key.symm
  kind := same.kind.symm
  label := same.label.symm
  provenance := same.provenance.symm
  identities key := (same.identities key).symm

theorem Reordered.origin (reordered : Reordered input changed) (inside : other ∈ changed.endpoints) :
    ∃ endpoint ∈ input.endpoints, ReorderedIdentities endpoint other := by
  obtain ⟨permuted, permutation, aligned⟩ := reordered.endpoints
  obtain ⟨index, bound, rfl⟩ := List.getElem_of_mem inside
  have within : index < permuted.length := aligned.length_eq ▸ bound
  exact ⟨permuted[index], permutation.mem_iff.mpr (List.getElem_mem within), aligned.get within bound⟩

theorem Reordered.result (reordered : Reordered input changed) (inside : endpoint ∈ input.endpoints) :
    ∃ other ∈ changed.endpoints, ReorderedIdentities endpoint other := by
  obtain ⟨permuted, permutation, aligned⟩ := reordered.endpoints
  obtain ⟨index, bound, rfl⟩ := List.getElem_of_mem (permutation.mem_iff.mp inside)
  have within : index < changed.endpoints.length := aligned.length_eq ▸ bound
  exact ⟨changed.endpoints[index], List.getElem_mem within, aligned.get bound within⟩

end Reordering

section Datasets

variable {input changed : CrossDatasetSemanticMatchInput}

theorem otherDatasets_ids (input : CrossDatasetSemanticMatchInput) :
    ((uniqueDatasets input).erase input.rootDatasetId).values.map (·.id) =
      ((uniqueDatasets input).erase input.rootDatasetId).entries.map (·.1) := by
  rw [SortedMap.values, List.map_map]
  apply List.map_congr_left
  intro entry inside
  exact (SortedMap.key_of_mem_keyed (List.mem_of_mem_filter inside)).symm

theorem mem_otherDatasets_ids {id : UuidBytes} :
    id ∈ ((uniqueDatasets input).erase input.rootDatasetId).values.map (·.id) ↔
      id ≠ input.rootDatasetId ∧ id ∈ input.datasets.map (·.id) := by
  rw [otherDatasets_ids, List.mem_map, List.mem_map]
  constructor
  · rintro ⟨entry, inside, rfl⟩
    obtain ⟨listed, apart⟩ := List.mem_filter.mp inside
    refine ⟨fun same => by simp [same] at apart, entry.2, ?_, ?_⟩
    · exact SortedMap.mem_keyed (List.mem_map.mpr ⟨entry, listed, rfl⟩)
    · exact (SortedMap.key_of_mem_keyed listed).symm
  · rintro ⟨apart, dataset, inside, rfl⟩
    obtain ⟨kept, listed, same⟩ : ∃ kept ∈ (uniqueDatasets input).values, kept.id = dataset.id :=
      SortedMap.exists_mem_keyed inside
    obtain ⟨entry, within, rfl⟩ := List.mem_map.mp listed
    have own : entry.1 = dataset.id := (SortedMap.key_of_mem_keyed within).trans same
    refine ⟨entry, List.mem_filter.mpr ⟨within, ?_⟩, own⟩
    have different : compare input.rootDatasetId entry.1 ≠ .eq := fun equal =>
      apart (own.symm.trans (Std.LawfulEqCmp.eq_of_compare equal).symm)
    simpa using different

theorem mem_boundedDatasets {kept : DatasetSemanticGraphDataset} (listed : kept ∈ (boundedDatasets input).1) :
    kept ∈ input.datasets ∨ ∀ dataset ∈ input.datasets, dataset.id ≠ kept.id := by
  rcases List.mem_cons.mp listed with rfl | other
  · cases found : (uniqueDatasets input).get? input.rootDatasetId with
    | none =>
      rw [uniqueDatasets, SortedMap.get?_keyed, List.find?_eq_none] at found
      refine .inr fun dataset inside => ?_
      simpa using found dataset (List.mem_reverse.mpr inside)
    | some root => exact .inl (SortedMap.mem_keyed (SortedMap.mem_values found))
  · obtain ⟨entry, inside, rfl⟩ := List.mem_map.mp (List.mem_of_mem_take other)
    exact .inl (SortedMap.mem_keyed (List.mem_map.mpr ⟨entry, List.mem_of_mem_filter inside, rfl⟩))

theorem rootDataset_reordered (agree : DuplicatesAgree input) (reordered : Reordered input changed) :
    (uniqueDatasets input).get? input.rootDatasetId = (uniqueDatasets changed).get? changed.rootDatasetId := by
  have known : ∀ dataset, dataset ∈ input.datasets ↔ dataset ∈ changed.datasets :=
    fun _ => reordered.datasets.mem_iff
  rw [← reordered.rootDatasetId]
  cases found : (uniqueDatasets input).get? input.rootDatasetId with
  | none =>
    cases also : (uniqueDatasets changed).get? input.rootDatasetId with
    | none => rfl
    | some other =>
      rw [uniqueDatasets, SortedMap.get?_keyed] at found also
      have inside := (known other).mpr (List.mem_reverse.mp (List.mem_of_find?_eq_some also))
      have absent := List.find?_eq_none.mp found other (List.mem_reverse.mpr inside)
      exact absurd (List.find?_some also) absent
  | some root =>
    have listed : root ∈ (boundedDatasets input).1 := by
      simp only [boundedDatasets, found, Option.getD_some]
      exact List.mem_cons_self
    rw [uniqueDatasets, SortedMap.get?_keyed] at found
    have own : root.id = input.rootDatasetId := by simpa using List.find?_some found
    have inside := (known root).mp (List.mem_reverse.mp (List.mem_of_find?_eq_some found))
    have present : ∃ dataset ∈ changed.datasets.reverse, decide (dataset.id = input.rootDatasetId) = true :=
      ⟨root, List.mem_reverse.mpr inside, decide_eq_true own⟩
    obtain ⟨other, also⟩ := Option.isSome_iff_exists.mp (List.find?_isSome.mpr present)
    have same : other.id = input.rootDatasetId := by simpa using List.find?_some also
    have within := (known other).mpr (List.mem_reverse.mp (List.mem_of_find?_eq_some also))
    rw [uniqueDatasets, SortedMap.get?_keyed, also, agree.datasets root listed other within (same.trans own.symm)]

/-- The datasets that are listed do not depend on their order. -/
theorem boundedDatasets_reordered (agree : DuplicatesAgree input) (reordered : Reordered input changed) :
    boundedDatasets input = boundedDatasets changed := by
  have root := rootDataset_reordered agree reordered
  have ids : ((uniqueDatasets input).erase input.rootDatasetId).values.map (·.id) =
      ((uniqueDatasets changed).erase changed.rootDatasetId).values.map (·.id) := by
    have sorted : ∀ input, (((uniqueDatasets input).erase input.rootDatasetId).values.map (·.id)).Pairwise
        fun first second => compare first second = .lt := by
      intro input
      rw [otherDatasets_ids]
      exact SortedMap.keys_pairwise _
    refine eq_of_strictly_sorted ?_ (sorted input) (sorted changed) fun id => ?_
    · intro first second less more
      simp [Std.OrientedCmp.gt_iff_lt.mpr less] at more
    · rw [mem_otherDatasets_ids, mem_otherDatasets_ids, reordered.rootDatasetId,
        (reordered.datasets.map (·.id)).mem_iff]
  have others : ((uniqueDatasets input).erase input.rootDatasetId).values.take
        (max 1 (min input.limits.maxDatasets absoluteMaxDatasets) - 1) =
      ((uniqueDatasets changed).erase changed.rootDatasetId).values.take
        (max 1 (min input.limits.maxDatasets absoluteMaxDatasets) - 1) := by
    refine @eq_of_map_eq _ _ DatasetSemanticGraphDataset.id _ _ ?_ ?_
    · rw [List.map_take, List.map_take, ids]
    · intro dataset listed other within same
      obtain ⟨entry, inside, rfl⟩ := List.mem_map.mp (List.mem_of_mem_take within)
      have known := SortedMap.mem_keyed (List.mem_map.mpr ⟨entry, List.mem_of_mem_filter inside, rfl⟩)
      exact (agree.datasets dataset (List.mem_cons_of_mem _ listed) entry.2 (reordered.datasets.mem_iff.mpr known)
        same.symm).symm
  have counts : ((uniqueDatasets input).erase input.rootDatasetId).values.length =
      ((uniqueDatasets changed).erase changed.rootDatasetId).values.length := by
    simpa using congrArg List.length ids
  simp only [boundedDatasets, root, others, counts, ← reordered.limits, ← reordered.rootDatasetId, ← reordered.stale]

end Datasets

section Endpoints

variable {input changed : CrossDatasetSemanticMatchInput} {endpoint other : CrossDatasetSemanticEndpointInput}

instance : Std.TransCmp endpointOrder :=
  inferInstanceAs (Std.TransCmp (compareLex (compareOn CrossDatasetSemanticEndpointInput.datasetId)
    (compareLex (compareOn fun endpoint => trim endpoint.localNodeId)
      (compareOn CrossDatasetSemanticEndpointInput.kind))))

theorem endpointOrder_eq (first second : CrossDatasetSemanticEndpointInput) : endpointOrder first second =
    (compare (endpointKey first) (endpointKey second)).then (compare first.kind second.kind) := by
  rw [endpointOrder, ← Ordering.then_assoc]
  rfl

theorem sorted_keys (endpoints : List CrossDatasetSemanticEndpointInput) :
    (sortBy endpointOrder endpoints).Pairwise fun first second =>
      (compareOn endpointKey first second).isLE := by
  refine (sortBy_sorted endpointOrder endpoints).imp ?_
  intro first second ordered
  rw [endpointOrder_eq] at ordered
  cases keys : compareOn endpointKey first second with
  | lt | eq => rfl
  | gt =>
    have greater : compare (endpointKey first) (endpointKey second) = .gt := keys
    simp [greater] at ordered

theorem key_level (first second : CrossDatasetSemanticEndpointInput) :
    compareOn endpointKey first second = .eq ↔ endpointKey first = endpointKey second := by
  have level : compare (endpointKey first) (endpointKey second) = .eq ↔ endpointKey first = endpointKey second :=
    Std.LawfulEqCmp.compare_eq_iff_eq
  exact level

/-- What is kept of the endpoints with one key is of the least kind among them. -/
theorem mem_uniqueEndpoints (kept : endpoint ∈ uniqueEndpoints input) :
    endpoint ∈ input.endpoints ∧ isIncluded input endpoint ∧
      ∀ other ∈ input.endpoints, isIncluded input other → endpointKey other = endpointKey endpoint →
        (compare endpoint.kind other.kind).isLE := by
  have listed := List.mem_filter.mp (mem_sortBy.mp ((dedupAdjacent_sublist endpointKey _).subset kept))
  refine ⟨listed.1, listed.2, ?_⟩
  intro other inside included same
  have first := (mem_dedupAdjacent key_level (sorted_keys _)).mp kept
  have within : other ∈ (sortBy endpointOrder (input.endpoints.filter (isIncluded input))).filter
      fun other => decide (endpointKey other = endpointKey endpoint) :=
    List.mem_filter.mpr ⟨mem_sortBy.mpr (List.mem_filter.mpr ⟨inside, included⟩), decide_eq_true same⟩
  have ordered := (sortBy_sorted endpointOrder (input.endpoints.filter (isIncluded input))).sublist
    (List.filter_sublist : List.Sublist (List.filter (fun other => decide (endpointKey other = endpointKey endpoint)) _) _)
  cases shape : (sortBy endpointOrder (input.endpoints.filter (isIncluded input))).filter
      fun other => decide (endpointKey other = endpointKey endpoint) with
  | nil => simp [shape] at within
  | cons head rest =>
    rw [shape] at first within ordered
    obtain rfl := Option.some.inj first
    rcases List.mem_cons.mp within with rfl | later
    · exact Std.ReflCmp.isLE_rfl
    · have below := (List.pairwise_cons.mp ordered).1 other later
      have level : compare (endpointKey head) (endpointKey head) = .eq := Std.ReflCmp.compare_self
      rw [endpointOrder_eq, same, level] at below
      simpa using below

theorem uniqueEndpoints_keys (input : CrossDatasetSemanticMatchInput) :
    ((uniqueEndpoints input).map endpointKey).Pairwise fun first second => compare first second = .lt := by
  rw [List.pairwise_map]
  have sorted := sorted_keys (input.endpoints.filter (isIncluded input))
  have ordered := sorted.sublist (dedupAdjacent_sublist endpointKey _)
  refine (ordered.and (dedupAdjacent_distinct key_level sorted)).imp ?_
  rintro first second ⟨notGreater, different⟩
  cases compared : compareOn endpointKey first second with
  | lt => exact compared
  | eq => exact False.elim (different ((key_level first second).mp compared))
  | gt => simp [compared] at notGreater

theorem mem_uniqueEndpoints_keys {key : UuidBytes × String} : key ∈ (uniqueEndpoints input).map endpointKey ↔
    ∃ endpoint ∈ input.endpoints, isIncluded input endpoint ∧ endpointKey endpoint = key := by
  constructor
  · intro listed
    obtain ⟨endpoint, kept, rfl⟩ := List.mem_map.mp listed
    obtain ⟨inside, included, _⟩ := mem_uniqueEndpoints kept
    exact ⟨endpoint, inside, included, rfl⟩
  · rintro ⟨endpoint, inside, included, rfl⟩
    have within : endpoint ∈ (sortBy endpointOrder (input.endpoints.filter (isIncluded input))).filter
        fun other => decide (endpointKey other = endpointKey endpoint) :=
      List.mem_filter.mpr ⟨mem_sortBy.mpr (List.mem_filter.mpr ⟨inside, included⟩), by simp⟩
    cases shape : (sortBy endpointOrder (input.endpoints.filter (isIncluded input))).filter
        fun other => decide (endpointKey other = endpointKey endpoint) with
    | nil => simp [shape] at within
    | cons head rest =>
      have own : endpointKey head = endpointKey endpoint := of_decide_eq_true (List.mem_filter.mp
        (shape ▸ List.mem_cons_self : head ∈ List.filter _ _)).2
      refine List.mem_map.mpr ⟨head, (mem_dedupAdjacent key_level (sorted_keys _)).mpr ?_, own⟩
      rw [own, shape]
      rfl

theorem isIncluded_reordered (agree : DuplicatesAgree input) (reordered : Reordered input changed)
    (same : endpointKey endpoint = endpointKey other) : isIncluded input endpoint = isIncluded changed other := by
  obtain ⟨datasets, locals⟩ := Prod.mk.inj same
  rw [isIncluded, isIncluded, boundedDatasets_reordered agree reordered, datasets, locals]

theorem uniqueEndpoints_keys_reordered (agree : DuplicatesAgree input) (reordered : Reordered input changed) :
    (uniqueEndpoints input).map endpointKey = (uniqueEndpoints changed).map endpointKey := by
  refine eq_of_strictly_sorted ?_ (uniqueEndpoints_keys input) (uniqueEndpoints_keys changed) fun key => ?_
  · intro first second less more
    simp [Std.OrientedCmp.gt_iff_lt.mpr less] at more
  · rw [mem_uniqueEndpoints_keys, mem_uniqueEndpoints_keys]
    constructor
    · rintro ⟨endpoint, inside, included, rfl⟩
      obtain ⟨other, within, alike⟩ := reordered.result inside
      have same := alike.sameView.key
      exact ⟨other, within, isIncluded_reordered agree reordered same ▸ included, same.symm⟩
    · rintro ⟨other, within, included, rfl⟩
      obtain ⟨endpoint, inside, alike⟩ := reordered.origin within
      have same := alike.sameView.key
      exact ⟨endpoint, inside, isIncluded_reordered agree reordered same ▸ included, same⟩

/-- The kept endpoints come in one order, and the graph takes the same from them. -/
theorem boundedEndpoints_reordered (agree : DuplicatesAgree input) (reordered : Reordered input changed) :
    List.Forall₂ SameView (boundedEndpoints input) (boundedEndpoints changed) := by
  refine @forall₂_of_map_eq _ _ endpointKey _ _ _ ?_ ?_
  · rw [boundedEndpoints, boundedEndpoints, List.map_take, List.map_take,
      uniqueEndpoints_keys_reordered agree reordered]
  · intro kept inside other within same
    obtain ⟨listed, included, least⟩ := mem_uniqueEndpoints (List.mem_of_mem_take inside)
    obtain ⟨otherListed, otherIncluded, otherLeast⟩ := mem_uniqueEndpoints (List.mem_of_mem_take within)
    obtain ⟨origin, originListed, originAlike⟩ := reordered.origin otherListed
    obtain ⟨result, resultListed, resultAlike⟩ := reordered.result listed
    have originView := originAlike.sameView
    have resultView := resultAlike.sameView
    -- Each of the two is of the least kind, so they are of one kind.
    have below := least origin originListed
      ((isIncluded_reordered agree reordered originView.key).trans otherIncluded) (originView.key.trans same.symm)
    have above := otherLeast result resultListed
      ((isIncluded_reordered agree reordered resultView.key).symm.trans included) (resultView.key.symm.trans same)
    rw [originView.kind] at below
    rw [← resultView.kind] at above
    have kinds : kept.kind = other.kind := Std.LawfulEqCmp.eq_of_compare (Std.OrientedCmp.isLE_antisymm below above)
    exact (agree.endpoints kept inside origin originListed (originView.key.trans same.symm)
      (originView.kind.trans kinds.symm)).symm.trans originView

end Endpoints

section Graph

variable {digest : String → List UInt8} {input changed : CrossDatasetSemanticMatchInput}

theorem graphOver_cast (input : CrossDatasetSemanticMatchInput) (items : List CrossDatasetSemanticEndpointInput)
    (dropped : Nat) {size : Nat} (same : size = items.length) : graphOver digest input items.get dropped =
      graphOver digest input (fun index : Fin size => items.get (index.cast same)) dropped := by
  cases same
  rfl

theorem graphOver_of_forall₂ {items others : List CrossDatasetSemanticEndpointInput} (dropped : Nat)
    (alike : List.Forall₂ SameView items others) (datasets : boundedDatasets input = boundedDatasets changed)
    (reordered : Reordered input changed) :
    graphOver digest input items.get dropped = graphOver digest changed others.get dropped := by
  rw [graphOver_cast changed others dropped alike.length_eq]
  refine graphOver_congr dropped (.ofSameView fun index => alike.get _ _) (fun _ => reordered.explicitRelations.mem_iff)
    datasets reordered.rootDatasetId reordered.options reordered.limits reordered.stale

theorem duplicatesAgree_of_distinct (datasets : (input.datasets.map (·.id)).Nodup)
    (endpoints : (input.endpoints.map endpointKey).Nodup) : DuplicatesAgree input where
  datasets kept listed other inside same := by
    rcases mem_boundedDatasets listed with own | absent
    · exact List.inj_on_of_nodup_map datasets inside own same
    · exact False.elim (absent other inside same)
  endpoints kept listed other inside same _ := by
    have own := (mem_uniqueEndpoints (List.mem_of_mem_take listed)).1
    rw [List.inj_on_of_nodup_map endpoints inside own same]
    exact ⟨rfl, rfl, rfl, rfl, fun _ => Iff.rfl⟩

theorem reordered_of_perm {datasets : List DatasetSemanticGraphDataset}
    {endpoints : List CrossDatasetSemanticEndpointInput} {explicitRelations : List CrossDatasetExplicitRelationInput}
    (datasetsPerm : input.datasets.Perm datasets) (endpointsPerm : input.endpoints.Perm endpoints)
    (relationsPerm : input.explicitRelations.Perm explicitRelations) :
    Reordered input { input with datasets, endpoints, explicitRelations } where
  datasets := datasetsPerm
  endpoints := ⟨endpoints, endpointsPerm, List.forall₂_same.mpr fun _ _ => ⟨.refl _, rfl⟩⟩
  explicitRelations := relationsPerm
  rootDatasetId := rfl
  options := rfl
  limits := rfl
  stale := rfl

/-- One field, listed with two labels. -/
def relabeledInput (first second : String) : CrossDatasetSemanticMatchInput :=
  { datesInput with
    endpoints := [{ dateField leftDataset "field:left" with displayLabel := first },
      { dateField leftDataset "field:left" with displayLabel := second }] }

end Graph

end DataMax.SemanticGraph
