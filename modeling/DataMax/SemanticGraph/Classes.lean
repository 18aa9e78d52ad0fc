import DataMax.SemanticGraph.Ids

/-! The components of the endpoints are their classes under shared identities. -/

namespace DataMax.SemanticGraph

open Domain Library SemanticUnderstanding

variable {count : Nat} (endpoint : Fin count → CrossDatasetSemanticEndpointInput)

/-- Two datasets of the endpoints have the key. -/
def CrossesDatasets (indices : List (Fin count)) (key : String) : Prop :=
  ∃ first ∈ indices, ∃ second ∈ indices, key ∈ identityKeys endpoint first ∧ key ∈ identityKeys endpoint second ∧
    (endpoint first).datasetId ≠ (endpoint second).datasetId

/-- The endpoints have a key in common, and two datasets have it. -/
def SharesIdentity (first second : Fin count) : Prop :=
  ∃ key, key ∈ identityKeys endpoint first ∧ key ∈ identityKeys endpoint second ∧
    CrossesDatasets endpoint (List.finRange count) key

/-- The endpoints of one tree. -/
def classOf (index : Fin count) : List (Fin count) :=
  (List.finRange count).filter fun other => (unitedIdentities endpoint).root other = (unitedIdentities endpoint).root index

variable {endpoint} {first second index : Fin count} {indices : List (Fin count)} {key : String}

theorem mem_datasetRefs {dataset : UuidBytes} :
    dataset ∈ datasetRefs endpoint indices ↔ ∃ index ∈ indices, (endpoint index).datasetId = dataset := by
  rw [datasetRefs, mem_distinctBy_self, List.mem_map]

theorem two_le_datasetRefs : 2 ≤ (datasetRefs endpoint indices).length ↔
    ∃ first ∈ indices, ∃ second ∈ indices, (endpoint first).datasetId ≠ (endpoint second).datasetId := by
  rw [datasetRefs, two_le_length_distinctBy_self]
  simp

section Chains

theorem mem_identityIndices (found : (identityIndices endpoint).get? key = some indices) :
    index ∈ indices ↔ key ∈ identityKeys endpoint index := by
  rw [SortedMap.mem_grouped found]
  simp

theorem identityIndices_isSome (given : key ∈ identityKeys endpoint index) :
    ∃ indices, (identityIndices endpoint).get? key = some indices := by
  have listed : (key, index) ∈ (List.finRange count).flatMap fun index =>
      (identityKeys endpoint index).map fun key => (key, index) := by simpa using given
  exact SortedMap.get?_grouped_isSome listed

theorem crossesDatasets_iff (found : (identityIndices endpoint).get? key = some indices) :
    2 ≤ (datasetRefs endpoint indices).length ↔ CrossesDatasets endpoint (List.finRange count) key := by
  rw [two_le_datasetRefs]
  constructor
  · rintro ⟨first, inside, second, within, apart⟩
    exact ⟨first, List.mem_finRange first, second, List.mem_finRange second, (mem_identityIndices found).mp inside,
      (mem_identityIndices found).mp within, apart⟩
  · rintro ⟨first, _, second, _, given, also, apart⟩
    exact ⟨first, (mem_identityIndices found).mpr given, second, (mem_identityIndices found).mpr also, apart⟩

/-- The united pairs chain the endpoints that share identities, and no others. -/
theorem unitedPairs_chain :
    Relation.EqvGen (fun item other => (item, other) ∈ (identityIndices endpoint).values.flatMap (unitedPairs endpoint))
      first second ↔ Relation.EqvGen (SharesIdentity endpoint) first second := by
  constructor
  · intro chain
    refine Relation.EqvGen.mono ?_ _ _ chain
    intro item other listed
    obtain ⟨indices, inside, paired⟩ := List.mem_flatMap.mp listed
    obtain ⟨key, found⟩ := SortedMap.mem_values_iff.mp inside
    cases indices with
    | nil => simp [unitedPairs] at paired
    | cons head rest =>
      rw [unitedPairs] at paired
      split at paired
      · cases paired
      · rename_i several
        obtain ⟨later, within, same⟩ := List.mem_map.mp paired
        cases same
        exact ⟨key, (mem_identityIndices found).mp List.mem_cons_self,
          (mem_identityIndices found).mp (List.mem_cons_of_mem _ within),
          (crossesDatasets_iff found).mp (Nat.not_lt.mp several)⟩
  · intro chain
    induction chain with
    | rel item other shares =>
      obtain ⟨key, given, also, crosses⟩ := shares
      obtain ⟨indices, found⟩ := identityIndices_isSome given
      have several := (crossesDatasets_iff found).mpr crosses
      cases indices with
      | nil => exact absurd ((mem_identityIndices found).mpr given) List.not_mem_nil
      | cons head rest =>
        -- Every endpoint of the key is chained to the first one.
        have reached : ∀ index ∈ head :: rest, Relation.EqvGen (fun item other =>
            (item, other) ∈ (identityIndices endpoint).values.flatMap (unitedPairs endpoint)) head index := by
          intro index inside
          rcases List.mem_cons.mp inside with rfl | later
          · exact .refl index
          · refine .rel _ _ (List.mem_flatMap.mpr ⟨_, SortedMap.mem_values found, ?_⟩)
            rw [unitedPairs, if_neg (Nat.not_lt.mpr several)]
            exact List.mem_map.mpr ⟨index, later, rfl⟩
        exact (Relation.EqvGen.symm _ _ (reached item ((mem_identityIndices found).mpr given))).trans _ _ _
          (reached other ((mem_identityIndices found).mpr also))
    | refl item => exact .refl item
    | symm _ _ _ ih => exact .symm _ _ ih
    | trans _ _ _ _ _ ih later => exact .trans _ _ _ ih later

theorem root_eq_iff : (unitedIdentities endpoint).root first = (unitedIdentities endpoint).root second ↔
    Relation.EqvGen (SharesIdentity endpoint) first second := by
  rw [unitedIdentities, UnionFind.start_unite_root, unitedPairs_chain]

end Chains

section Components

theorem mem_classOf : second ∈ classOf endpoint first ↔
    (unitedIdentities endpoint).root second = (unitedIdentities endpoint).root first := by
  simp [classOf]

theorem self_mem_classOf (index : Fin count) : index ∈ classOf endpoint index := mem_classOf.mpr rfl

theorem classOf_eq (inside : second ∈ classOf endpoint first) : classOf endpoint second = classOf endpoint first := by
  rw [classOf, classOf, mem_classOf.mp inside]

theorem foldl_findNext (rest : List (Fin count)) (state : List (Fin count × Fin count) × UnionFind count) :
    (rest.foldl findNext state).1 = state.1 ++ rest.map fun index => (state.2.root index, index) := by
  induction rest generalizing state with
  | nil => simp
  | cons head rest ih =>
    rw [List.foldl_cons, ih]
    simp [findNext]

theorem mem_components : indices ∈ (components endpoint).values ↔ ∃ index, indices = classOf endpoint index := by
  have listed : ∀ root : Fin count, ((((List.finRange count).foldl findNext ([], unitedIdentities endpoint)).1.filter
      fun pair => decide (pair.1 = root)).map (·.2)) =
        (List.finRange count).filter fun other => (unitedIdentities endpoint).root other = root := by
    intro root
    rw [foldl_findNext, List.nil_append, List.filter_map, List.map_map]
    exact List.map_id _
  rw [SortedMap.mem_values_iff]
  constructor
  · rintro ⟨root, found⟩
    obtain ⟨filled, same⟩ := (SortedMap.get?_grouped root indices).mp found
    rw [listed] at same
    obtain ⟨index, inside⟩ := List.exists_mem_of_ne_nil _ filled
    rw [same] at inside
    exact ⟨index, by rw [same, classOf, of_decide_eq_true (List.mem_filter.mp inside).2]⟩
  · rintro ⟨index, rfl⟩
    refine ⟨(unitedIdentities endpoint).root index, (SortedMap.get?_grouped _ _).mpr ⟨?_, ?_⟩⟩
    · exact List.ne_nil_of_mem (self_mem_classOf index)
    · rw [listed, classOf]

end Components

section Crossing

theorem mem_identityKeys : key ∈ identityKeys endpoint index ↔
    ∃ identity ∈ (endpoint index).identities, exactIdentityKey (endpoint index).kind identity = some key := by
  rw [identityKeys, List.mem_filterMap]

theorem SharesIdentity.symm (shares : SharesIdentity endpoint first second) : SharesIdentity endpoint second first := by
  obtain ⟨key, given, also, crosses⟩ := shares
  exact ⟨key, also, given, crosses⟩

theorem SharesIdentity.kind (shares : SharesIdentity endpoint first second) :
    (endpoint first).kind = (endpoint second).kind := by
  obtain ⟨key, given, also, _⟩ := shares
  obtain ⟨_, _, found⟩ := mem_identityKeys.mp given
  obtain ⟨_, _, second⟩ := mem_identityKeys.mp also
  exact exactIdentityKey_kind found second

theorem classOf_chain (inside : second ∈ classOf endpoint first) :
    Relation.EqvGen (SharesIdentity endpoint) first second :=
  root_eq_iff.mp (mem_classOf.mp inside).symm

theorem classOf_kind (inside : second ∈ classOf endpoint first) : (endpoint second).kind = (endpoint first).kind := by
  have same : ∀ item other, Relation.EqvGen (SharesIdentity endpoint) item other →
      (endpoint item).kind = (endpoint other).kind := by
    intro item other chain
    induction chain with
    | rel _ _ shares => exact shares.kind
    | refl => rfl
    | symm _ _ _ ih => exact ih.symm
    | trans _ _ _ _ _ ih later => exact ih.trans later
  exact (same _ _ (classOf_chain inside)).symm

/-- A chain that leads away starts and ends with a step. -/
theorem chain_steps (chain : Relation.EqvGen (SharesIdentity endpoint) first second) :
    first = second ∨ (∃ next, SharesIdentity endpoint first next) ∧ ∃ last, SharesIdentity endpoint second last := by
  induction chain with
  | rel item other shares => exact .inr ⟨⟨other, shares⟩, ⟨item, shares.symm⟩⟩
  | refl => exact .inl rfl
  | symm _ _ _ ih => exact ih.imp Eq.symm And.symm
  | trans _ _ _ _ _ near far =>
    rcases near with rfl | ⟨start, stop⟩
    · exact far
    · rcases far with rfl | ⟨_, later⟩
      · exact .inr ⟨start, stop⟩
      · exact .inr ⟨start, later⟩

theorem SharesIdentity.mem_classOf (shares : SharesIdentity endpoint first second) : second ∈ classOf endpoint first :=
  SemanticGraph.mem_classOf.mpr (root_eq_iff.mpr (.symm _ _ (.rel _ _ shares)))

/-- The endpoints of a key that two datasets have are in one class. -/
theorem crossesDatasets_classOf (given : key ∈ identityKeys endpoint index)
    (crosses : CrossesDatasets endpoint (List.finRange count) key) :
    CrossesDatasets endpoint (classOf endpoint index) key := by
  have within : ∀ other, key ∈ identityKeys endpoint other → other ∈ classOf endpoint index :=
    fun other also => SharesIdentity.mem_classOf ⟨key, given, also, crosses⟩
  obtain ⟨first, _, second, _, holds, also, apart⟩ := crosses
  exact ⟨first, within first holds, second, within second also, holds, also, apart⟩

/-- A class of several endpoints has a key of two datasets. -/
theorem classOf_crosses (inside : second ∈ classOf endpoint first) (apart : second ≠ first) :
    ∃ key, CrossesDatasets endpoint (classOf endpoint first) key := by
  rcases chain_steps (classOf_chain inside) with same | ⟨⟨next, key, given, _, crosses⟩, _⟩
  · exact False.elim (apart same.symm)
  · exact ⟨key, crossesDatasets_classOf given crosses⟩

theorem two_le_classOf : 2 ≤ (datasetRefs endpoint (classOf endpoint index)).length ↔
    ∃ key, CrossesDatasets endpoint (classOf endpoint index) key := by
  rw [two_le_datasetRefs]
  constructor
  · rintro ⟨first, inside, second, within, apart⟩
    by_cases same : first = index
    · refine classOf_crosses within ?_
      rintro rfl
      exact apart (by rw [same])
    · exact classOf_crosses inside same
  · rintro ⟨key, first, inside, second, within, _, _, apart⟩
    exact ⟨first, inside, second, within, apart⟩

theorem classOf_lone (alone : ¬ 2 ≤ (datasetRefs endpoint (classOf endpoint index)).length) :
    classOf endpoint index = [index] := by
  have only : ∀ other ∈ classOf endpoint index, other = index := by
    intro other inside
    by_contra apart
    exact alone (two_le_classOf.mpr (classOf_crosses inside apart))
  have distinct : (classOf endpoint index).Nodup := (List.nodup_finRange count).filter _
  exact List.perm_singleton.mp ((List.perm_ext_iff_of_nodup distinct (List.nodup_singleton index)).mpr fun other =>
    ⟨fun inside => by simp [only other inside], fun same => by
      rw [List.mem_singleton.mp same]
      exact self_mem_classOf index⟩)

end Crossing

end DataMax.SemanticGraph
