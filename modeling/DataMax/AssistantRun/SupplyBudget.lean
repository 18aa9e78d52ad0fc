import DataMax.Domain.Text
import DataMax.Json.Access
import DataMax.Library.Quotas
import DataMax.Library.SortedSet

/-! What a model is supplied with: of each kind of items a number of its own, and of all
items no more than a limit. -/

namespace DataMax.AssistantRun

open Domain Json Library

inductive SupplyBucket where
  | documentStatus
  | structuredFact
  | spreadsheet
  | retrieval
  | database
  | memory
  | assetProfile
  | other
  deriving DecidableEq

def bucketOrder : List SupplyBucket :=
  [.documentStatus, .structuredFact, .spreadsheet, .retrieval, .database, .memory, .assetProfile, .other]

/-- `ASSISTANT_RUN_MODEL_CONTEXT_SUPPLIED_ITEM_LIMIT` -/
def contextSuppliedItemLimit : Nat := 24

def itemType (item : Value) : Option String := (item.get "type").bind Value.asStr

def assistantRunModelSupplyBucket (item : Value) : SupplyBucket := match itemType item with
  | some "document_parse_status" => .documentStatus
  | some "dataset_entity_scan" | some "dataset_fact_snapshot" => .structuredFact
  | some "spreadsheet_row_analysis" => .spreadsheet
  | some "database_schema_context" | some "database_aggregate" | some "database_aggregate_error" => .database
  | some "conversation_memory_item" => .memory
  | some "asset_profile_hint" | some "asset_parse_status" => .assetProfile
  | some "retrieval_evidence" | some "search_evidence" => .retrieval
  | _ => .other

def assistantRunModelSupplyBucketLimit : SupplyBucket → Nat
  | .documentStatus => 2
  | .structuredFact => 4
  | .spreadsheet => 2
  | .retrieval => 8
  | .database => 6
  | .memory => 4
  | .assetProfile => 4
  | .other => 2

def assistantRunModelSupplyTypeLabel (item : Value) : String := (itemType item).getD "unknown"

/-- How often the label was counted. -/
def tally (counts : SortedMap String Nat) (label : String) : Nat := (counts.get? label).getD 0

/-- `*counts.entry(label).or_insert(0) += 1` -/
def countOne (counts : SortedMap String Nat) (label : String) : SortedMap String Nat :=
  counts.insert label (tally counts label + 1)

structure Selection where
  selectedIndices : SortedSet Nat
  includedByType : SortedMap String Nat
  omittedByType : SortedMap String Nat

/-- An item with its index is offered to the bucket, which has taken so many. -/
def offerItem (bucket : SupplyBucket) (state : Selection × Nat) (entry : Value × Nat) : Selection × Nat :=
  let (selection, includedInBucket) := state
  let (item, index) := entry
  if assistantRunModelSupplyBucket item ≠ bucket then state
  else
    let typeLabel := assistantRunModelSupplyTypeLabel item
    if (SortedSet.toList selection.selectedIndices).length < contextSuppliedItemLimit ∧
        includedInBucket < assistantRunModelSupplyBucketLimit bucket then
      ({ selection with
          selectedIndices := SortedSet.add selection.selectedIndices index
          includedByType := countOne selection.includedByType typeLabel }, includedInBucket + 1)
    else ({ selection with omittedByType := countOne selection.omittedByType typeLabel }, includedInBucket)

def selectBucket (items : List Value) (selection : Selection) (bucket : SupplyBucket) : Selection :=
  (items.zipIdx.foldl (offerItem bucket) (selection, 0)).1

def selectItems (items : List Value) : Selection := bucketOrder.foldl (selectBucket items) ⟨.empty, .empty, .empty⟩

structure SupplyBudget where
  originalSuppliedItemCount : Nat
  modelSuppliedItemCount : Nat
  omittedSuppliedItemCount : Nat
  assetProfileEvidenceRefCount : Nat
  includedByType : SortedMap String Nat
  omittedByType : SortedMap String Nat

def usizeValue (count : Nat) : Value := .ofU64 (.ofNat count)

def SupplyBudget.value (budget : SupplyBudget) : Value :=
  json [("policy", .string "model_input_balanced_supply_buckets"),
    ("original_supplied_item_count", usizeValue budget.originalSuppliedItemCount),
    ("model_supplied_item_count", usizeValue budget.modelSuppliedItemCount),
    ("omitted_supplied_item_count", usizeValue budget.omittedSuppliedItemCount),
    ("asset_profile_evidence_ref_count", usizeValue budget.assetProfileEvidenceRefCount),
    ("global_item_limit", usizeValue contextSuppliedItemLimit),
    ("bucket_limits", json [
      ("document_status", usizeValue (assistantRunModelSupplyBucketLimit .documentStatus)),
      ("structured_fact", usizeValue (assistantRunModelSupplyBucketLimit .structuredFact)),
      ("spreadsheet", usizeValue (assistantRunModelSupplyBucketLimit .spreadsheet)),
      ("retrieval", usizeValue (assistantRunModelSupplyBucketLimit .retrieval)),
      ("database", usizeValue (assistantRunModelSupplyBucketLimit .database)),
      ("memory", usizeValue (assistantRunModelSupplyBucketLimit .memory)),
      ("asset_profile", usizeValue (assistantRunModelSupplyBucketLimit .assetProfile)),
      ("other", usizeValue (assistantRunModelSupplyBucketLimit .other))]),
    ("included_by_type", .ofMap (budget.includedByType.mapItems usizeValue)),
    ("omitted_by_type", .ofMap (budget.omittedByType.mapItems usizeValue)),
    ("model_rule", .string ("The model input keeps separate quotas for document evidence, database aggregates, " ++
      "structured scans, spreadsheet analyses, parse status, and memory so one source cannot crowd out the " ++
      "others. Omitted items remain available to host tools/detail reads; do not infer that omitted means " ++
      "absent from the dataset."))]

def namesEvidenceRef (item : Value) : Bool :=
  decide (itemType item = some "asset_profile_hint") &&
    ((item.get "evidence_ref").bind Value.asStr).any fun value => trim value ≠ ""

/-- The counts of the selection and of the items that it leads to. -/
def supplyBudget (items compactedItems : List Value) : SupplyBudget where
  originalSuppliedItemCount := items.length
  modelSuppliedItemCount := compactedItems.length
  omittedSuppliedItemCount := items.length - compactedItems.length
  assetProfileEvidenceRefCount := (compactedItems.filter namesEvidenceRef).length
  includedByType := (selectItems items).includedByType
  omittedByType := (selectItems items).omittedByType

variable (assistantRunModelSupplyItemForContext : Value → Value)

/-- What each supplied item is compacted to depends on the item alone. -/
def assistantRunModelBudgetedSupplyItems (items : List Value) : List Value × Value :=
  let compactedItems := ((SortedSet.toList (selectItems items).selectedIndices).filterMap (items[·]?)).map
    assistantRunModelSupplyItemForContext
  (compactedItems, (supplyBudget items compactedItems).value)

section Selecting

abbrev Entry : Type := Value × Nat

def bucketOf (entry : Entry) : SupplyBucket := assistantRunModelSupplyBucket entry.1

def hasLabel (label : String) (entry : Entry) : Bool := assistantRunModelSupplyTypeLabel entry.1 = label

/-- What the selection holds once these entries were seen and those kept. -/
structure Holds (selection : Selection) (kept seen : List Entry) : Prop where
  indices : (SortedSet.toList selection.selectedIndices).Perm (kept.map (·.2))
  included : ∀ label, tally selection.includedByType label = kept.countP (hasLabel label)
  counted : ∀ label, tally selection.includedByType label + tally selection.omittedByType label =
    seen.countP (hasLabel label)

variable {selection : Selection} {kept seen part : List Entry} {entry : Entry} {bucket : SupplyBucket} {count : Nat}
  {items : List Value}

theorem tally_countOne (counts : SortedMap String Nat) (label other : String) :
    tally (countOne counts label) other = tally counts other + if label = other then 1 else 0 := by
  rw [tally, countOne, SortedMap.get?_insert]
  by_cases same : label = other
  · rw [if_pos same.symm, if_pos same, same]
    rfl
  · rw [if_neg (Ne.symm same), if_neg same]
    rfl

theorem countP_concat_label (entries : List Entry) (entry : Entry) (label : String) :
    (entries ++ [entry]).countP (hasLabel label) =
      entries.countP (hasLabel label) + if assistantRunModelSupplyTypeLabel entry.1 = label then 1 else 0 := by
  rw [List.countP_append, List.countP_singleton]
  simp [hasLabel]

theorem Holds.length (holds : Holds selection kept seen) :
    (SortedSet.toList selection.selectedIndices).length = kept.length :=
  holds.indices.length_eq.trans (List.length_map ..)

theorem Holds.keep (holds : Holds selection kept seen) (fresh : entry.2 ∉ kept.map (·.2)) :
    Holds { selection with
      selectedIndices := SortedSet.add selection.selectedIndices entry.2
      includedByType := countOne selection.includedByType (assistantRunModelSupplyTypeLabel entry.1) }
      (kept ++ [entry]) (seen ++ [entry]) where
  indices := by
    have absent : entry.2 ∉ SortedSet.toList selection.selectedIndices := mt holds.indices.mem_iff.mp fresh
    rw [List.map_append]
    exact ((SortedSet.toList_add absent).trans (holds.indices.cons _)).trans (List.perm_append_singleton _ _).symm
  included label := by rw [tally_countOne, holds.included, countP_concat_label]
  counted label := by
    have before := holds.counted label
    dsimp only
    rw [tally_countOne, countP_concat_label]
    omega

theorem Holds.omit (holds : Holds selection kept seen) :
    Holds { selection with
      omittedByType := countOne selection.omittedByType (assistantRunModelSupplyTypeLabel entry.1) }
      kept (seen ++ [entry]) where
  indices := holds.indices
  included := holds.included
  counted label := by
    have before := holds.counted label
    dsimp only
    rw [tally_countOne, countP_concat_label]
    omega

theorem offerItem_other (apart : bucketOf entry ≠ bucket) (state : Selection × Nat) :
    offerItem bucket state entry = state := if_pos apart

/-- An entry of the bucket is kept while both limits leave room. -/
theorem Holds.offerItem_space (holds : Holds selection kept seen) (same : bucketOf entry = bucket)
    (fresh : entry.2 ∉ kept.map (·.2))
    (space : kept.length < contextSuppliedItemLimit ∧ count < assistantRunModelSupplyBucketLimit bucket) :
    Holds (offerItem bucket (selection, count) entry).1 (kept ++ [entry]) (seen ++ [entry]) ∧
      (offerItem bucket (selection, count) entry).2 = count + 1 := by
  have own : ¬ assistantRunModelSupplyBucket entry.1 ≠ bucket := not_not.mpr same
  rw [offerItem, if_neg own]
  dsimp only
  rw [holds.length, if_pos space]
  exact ⟨holds.keep fresh, rfl⟩

theorem Holds.offerItem_full (holds : Holds selection kept seen) (same : bucketOf entry = bucket)
    (full : ¬ (kept.length < contextSuppliedItemLimit ∧ count < assistantRunModelSupplyBucketLimit bucket)) :
    Holds (offerItem bucket (selection, count) entry).1 kept (seen ++ [entry]) ∧
      (offerItem bucket (selection, count) entry).2 = count := by
  have own : ¬ assistantRunModelSupplyBucket entry.1 ≠ bucket := not_not.mpr same
  rw [offerItem, if_neg own]
  dsimp only
  rw [holds.length, if_neg full]
  exact ⟨holds.omit, rfl⟩

/-- Of the entries of a bucket the first ones are kept, up to the limits. -/
theorem Holds.offer (holds : Holds selection kept seen) (same : ∀ entry ∈ part, bucketOf entry = bucket)
    (fresh : ((kept ++ part).map (·.2)).Nodup)
    (room : count = min (assistantRunModelSupplyBucketLimit bucket) (contextSuppliedItemLimit - kept.length)) :
    Holds (part.foldl (offerItem bucket) (selection, 0)).1 (kept ++ part.take count) (seen ++ part) ∧
      (part.foldl (offerItem bucket) (selection, 0)).2 = min part.length count := by
  induction part using List.reverseRecOn with
  | nil => simpa using holds
  | append_singleton part entry ih =>
    rw [← List.append_assoc, List.map_append] at fresh
    obtain ⟨distinct, _, apart⟩ := List.nodup_append.mp fresh
    obtain ⟨holding, taken⟩ := ih (fun other listed => same other (List.mem_append_left _ listed)) distinct
    have unseen : entry.2 ∉ (kept ++ part.take count).map (·.2) := fun found =>
      apart entry.2 ((((List.take_sublist count part).append_left kept).map _).subset found) entry.2 (by simp) rfl
    have last : bucketOf entry = bucket := same entry (by simp)
    have size : (kept ++ part.take count).length = kept.length + min count part.length := by
      rw [List.length_append, List.length_take]
    rw [List.foldl_append, List.foldl_cons, List.foldl_nil, List.length_append, List.length_singleton]
    by_cases shorter : part.length < count
    · have space : (kept ++ part.take count).length < contextSuppliedItemLimit ∧
          min part.length count < assistantRunModelSupplyBucketLimit bucket := by omega
      obtain ⟨kept_, counted⟩ := holding.offerItem_space last unseen space
      rw [← taken] at kept_ counted
      rw [List.take_of_length_le shorter.le] at kept_
      rw [List.take_of_length_le (by simpa using shorter), ← List.append_assoc, ← List.append_assoc]
      exact ⟨kept_, counted.trans (by omega)⟩
    · have full : ¬ ((kept ++ part.take count).length < contextSuppliedItemLimit ∧
          min part.length count < assistantRunModelSupplyBucketLimit bucket) := by omega
      obtain ⟨kept_, counted⟩ := holding.offerItem_full last full
      rw [← taken] at kept_ counted
      rw [List.take_append_of_le_length (Nat.le_of_not_lt shorter), ← List.append_assoc]
      exact ⟨kept_, counted.trans (by omega)⟩

/-- The bucket passes over the entries of the others. -/
theorem foldl_offerItem (entries : List Entry) (state : Selection × Nat) :
    entries.foldl (offerItem bucket) state = (ofGroup bucketOf bucket entries).foldl (offerItem bucket) state := by
  induction entries generalizing state with
  | nil => rfl
  | cons entry rest ih =>
    rw [List.foldl_cons, ih]
    by_cases same : bucketOf entry = bucket
    · rw [ofGroup_cons, if_pos same, List.foldl_cons]
    · rw [ofGroup_cons, if_neg same, offerItem_other same]

theorem nodup_indices (items : List Value) : (items.zipIdx.map (·.2)).Nodup := by
  rw [List.zipIdx_map_snd]
  exact List.nodup_range'

/-- The entries that the rounds over the buckets keep. -/
def keptBy (order : List SupplyBucket) (items : List Value) (kept : List Entry) : List Entry :=
  takeGroups bucketOf assistantRunModelSupplyBucketLimit contextSuppliedItemLimit items.zipIdx order kept

theorem Holds.rounds {order : List SupplyBucket} (distinct : order.Nodup) (holds : Holds selection kept seen)
    (known : kept ⊆ items.zipIdx) (single : (kept.map (·.2)).Nodup)
    (untouched : ∀ entry ∈ kept, bucketOf entry ∉ order) :
    Holds (order.foldl (selectBucket items) selection) (keptBy order items kept)
        (seen ++ order.flatMap fun bucket => ofGroup bucketOf bucket items.zipIdx) ∧
      ((keptBy order items kept).map (·.2)).Nodup := by
  induction order generalizing selection kept seen with
  | nil => simpa [keptBy, takeGroups] using And.intro holds single
  | cons bucket later ih =>
    obtain ⟨first, others⟩ := List.nodup_cons.mp distinct
    have part : (ofGroup bucketOf bucket items.zipIdx).Sublist items.zipIdx := List.filter_sublist
    have fresh : ((kept ++ ofGroup bucketOf bucket items.zipIdx).map (·.2)).Nodup := by
      rw [List.map_append]
      refine List.nodup_append.mpr ⟨single, (part.map _).nodup (nodup_indices items), ?_⟩
      rintro index inside other within rfl
      obtain ⟨entry, listed, rfl⟩ := List.mem_map.mp inside
      obtain ⟨copy, found, same⟩ := List.mem_map.mp within
      obtain ⟨present, bucketed⟩ := (mem_ofGroup bucketOf).mp found
      have equal : copy = entry := List.inj_on_of_nodup_map (nodup_indices items) present (known listed) same
      exact untouched entry listed (equal ▸ bucketed ▸ List.mem_cons_self)
    obtain ⟨holding, _⟩ := holds.offer (fun entry inside => ((mem_ofGroup bucketOf).mp inside).2) fresh rfl
    rw [← foldl_offerItem] at holding
    rw [List.flatMap_cons, ← List.append_assoc, List.foldl_cons, keptBy, takeGroups]
    refine ih others holding ?_ ?_ ?_
    · exact List.append_subset.mpr ⟨known, fun entry inside => (mem_share inside).1⟩
    · exact (((List.take_sublist _ _).append_left kept).map _).nodup fresh
    · intro entry inside later_
      rcases List.mem_append.mp inside with before | added
      · exact untouched entry before (List.mem_cons_of_mem _ later_)
      · exact first ((mem_share added).2 ▸ later_)

/-- The selected entries, in the order of the items. -/
def chosen (items : List Value) : List Entry :=
  items.zipIdx.filter fun entry => decide (entry.2 ∈ SortedSet.toList (selectItems items).selectedIndices)

theorem selectItems_holds (items : List Value) :
    Holds (selectItems items) (keptBy bucketOrder items [])
        (bucketOrder.flatMap fun bucket => ofGroup bucketOf bucket items.zipIdx) ∧
      ((keptBy bucketOrder items []).map (·.2)).Nodup := by
  have empty : Holds ⟨.empty, .empty, .empty⟩ [] [] := ⟨.refl _, fun _ => rfl, fun _ => rfl⟩
  exact empty.rounds (by decide) (List.nil_subset _) List.nodup_nil fun entry inside => nomatch inside

theorem increasing_entries (items : List Value) : items.zipIdx.Pairwise fun first second => first.2 < second.2 := by
  rw [← List.pairwise_map (f := Prod.snd) (R := (· < ·)), List.zipIdx_map_snd]
  exact List.pairwise_lt_range'

/-- Lists of the same items are equal if both are in the order of their numbers. -/
theorem eq_of_increasing {Item : Type} {first second : List Item} (same : first.Perm second) (number : Item → Nat)
    (sorted : first.Pairwise fun before after => number before < number after)
    (alike : second.Pairwise fun before after => number before < number after) : first = second :=
  same.eq_of_pairwise (fun _ _ _ _ before after => absurd before (Nat.lt_asymm after)) sorted alike

theorem chosen_perm (items : List Value) : (chosen items).Perm (keptBy bucketOrder items []) := by
  obtain ⟨holds, single⟩ := selectItems_holds items
  have known : keptBy bucketOrder items [] ⊆ items.zipIdx := takeGroups_subset (List.nil_subset _)
  have distinct : (chosen items).Nodup := List.filter_sublist.nodup (List.Nodup.of_map _ (nodup_indices items))
  refine (List.perm_ext_iff_of_nodup distinct (List.Nodup.of_map _ single)).mpr fun entry => ?_
  rw [chosen, List.mem_filter, decide_eq_true_eq, holds.indices.mem_iff, List.mem_map]
  constructor
  · rintro ⟨present, copy, kept, same⟩
    exact List.inj_on_of_nodup_map (nodup_indices items) (known kept) present same ▸ kept
  · intro kept
    exact ⟨known kept, entry, kept, rfl⟩

/-- The items are looked up again by the indices, in their order. -/
theorem selected_items (items : List Value) :
    (SortedSet.toList (selectItems items).selectedIndices).filterMap (items[·]?) = (chosen items).map (·.1) := by
  obtain ⟨holds, _⟩ := selectItems_holds items
  have indices : SortedSet.toList (selectItems items).selectedIndices = (chosen items).map (·.2) := by
    refine eq_of_increasing (holds.indices.trans ((chosen_perm items).map _).symm) id ?_ ?_
    · exact (SortedMap.keys_pairwise (selectItems items).selectedIndices).imp Nat.compare_eq_lt.mp
    · exact List.pairwise_map.mpr ((increasing_entries items).sublist List.filter_sublist)
  rw [indices, List.filterMap_map, ← List.filterMap_eq_map]
  refine List.filterMap_congr fun entry inside => ?_
  exact List.mem_zipIdx_iff_getElem?.mp (List.mem_filter.mp inside).1

theorem ofGroup_chosen (items : List Value) {count : Nat}
    (first : ofGroup bucketOf bucket (keptBy bucketOrder items []) =
      (ofGroup bucketOf bucket items.zipIdx).take count) :
    ofGroup bucketOf bucket (chosen items) = (ofGroup bucketOf bucket items.zipIdx).take count := by
  have increasing := increasing_entries items
  refine eq_of_increasing (((chosen_perm items).filter _).trans (.of_eq first)) (·.2) ?_ ?_
  · exact increasing.sublist (List.filter_sublist.trans List.filter_sublist)
  · exact increasing.sublist ((List.take_sublist _ _).trans List.filter_sublist)

end Selecting

/-- The items to supply: some of them, in their order, no more than the limit, and of each bucket the
first ones. Items of a bucket are left out only where its quota or the limit is used up. -/
structure IsBalanced (items included : List Value) : Prop where
  ordered : included.Sublist items
  limited : included.length ≤ contextSuppliedItemLimit
  leading : ∀ bucket, ∃ count ≤ assistantRunModelSupplyBucketLimit bucket,
    ofGroup assistantRunModelSupplyBucket bucket included =
      (ofGroup assistantRunModelSupplyBucket bucket items).take count ∧
    (count < (ofGroup assistantRunModelSupplyBucket bucket items).length →
      count = assistantRunModelSupplyBucketLimit bucket ∨ included.length = contextSuppliedItemLimit)

section Supplying

variable {bucket : SupplyBucket} {items : List Value} {label : String}

theorem ofGroup_items (bucket : SupplyBucket) (entries : List Entry) :
    ofGroup assistantRunModelSupplyBucket bucket (entries.map (·.1)) =
      (ofGroup bucketOf bucket entries).map (·.1) := by
  rw [ofGroup, List.filter_map]
  rfl

theorem countP_items (entries : List Entry) : (entries.map (·.1)).countP
    (fun item => decide (assistantRunModelSupplyTypeLabel item = label)) = entries.countP (hasLabel label) := by
  rw [List.countP_map]
  rfl

theorem mem_bucketOrder (bucket : SupplyBucket) : bucket ∈ bucketOrder := by
  cases bucket <;> decide

theorem chosen_balanced (items : List Value) : IsBalanced items ((chosen items).map (·.1)) where
  ordered := by
    have part := (List.filter_sublist (l := items.zipIdx)
      (p := fun entry => decide (entry.2 ∈ SortedSet.toList (selectItems items).selectedIndices))).map (·.1)
    rwa [List.zipIdx_map_fst] at part
  limited := by
    rw [List.length_map, (chosen_perm items).length_eq]
    exact length_takeGroups_le (Nat.zero_le _)
  leading bucket := by
    obtain ⟨count, few, first, lacking⟩ := @ofGroup_takeGroups _ _ _ bucketOf assistantRunModelSupplyBucketLimit
      contextSuppliedItemLimit items.zipIdx bucketOrder [] bucket (by decide) (mem_bucketOrder bucket)
      (fun _ _ => rfl) (Nat.zero_le _)
    have all : ofGroup assistantRunModelSupplyBucket bucket items =
        (ofGroup bucketOf bucket items.zipIdx).map (·.1) := by
      rw [← ofGroup_items, List.zipIdx_map_fst]
    refine ⟨count, few, ?_, ?_⟩
    · rw [ofGroup_items, all, ofGroup_chosen items first, List.map_take]
    · rw [all, List.length_map, List.length_map, (chosen_perm items).length_eq]
      exact lacking

/-- What the buckets have seen are all the items. -/
theorem seen_perm (items : List Value) :
    (bucketOrder.flatMap fun bucket => ofGroup bucketOf bucket items.zipIdx).Perm items.zipIdx := by
  have distinct : bucketOrder.Nodup := by decide
  have groups := perm_groups bucketOf distinct items.zipIdx
  rwa [List.filter_eq_self.mpr fun entry _ => decide_eq_true (mem_bucketOrder _)] at groups

/-- The supplied items are balanced, and the budget counts by type what is supplied and what is left out. -/
theorem supply_budget_balanced (items : List Value) : ∃ included : List Value, ∃ budget : SupplyBudget,
    assistantRunModelBudgetedSupplyItems assistantRunModelSupplyItemForContext items =
      (included.map assistantRunModelSupplyItemForContext, budget.value) ∧
    IsBalanced items included ∧ budget.originalSuppliedItemCount = items.length ∧
    budget.modelSuppliedItemCount = included.length ∧
    budget.modelSuppliedItemCount + budget.omittedSuppliedItemCount = items.length ∧
    ∀ label, tally budget.includedByType label =
        included.countP (fun item => decide (assistantRunModelSupplyTypeLabel item = label)) ∧
      tally budget.includedByType label + tally budget.omittedByType label =
        items.countP (fun item => decide (assistantRunModelSupplyTypeLabel item = label)) := by
  obtain ⟨holds, _⟩ := selectItems_holds items
  have balanced := chosen_balanced items
  refine ⟨(chosen items).map (·.1), supplyBudget items (((chosen items).map (·.1)).map
    assistantRunModelSupplyItemForContext), ?_, balanced, rfl, ?_, ?_, fun label => ⟨?_, ?_⟩⟩
  · rw [assistantRunModelBudgetedSupplyItems, selected_items]
  · exact List.length_map _
  · have fewer := balanced.ordered.length_le
    simp only [supplyBudget, List.length_map] at fewer ⊢
    omega
  · rw [countP_items, (chosen_perm items).countP_eq]
    exact holds.included label
  · rw [← List.zipIdx_map_fst 0 items, countP_items, ← (seen_perm _).countP_eq, List.zipIdx_map_fst]
    exact holds.counted label

end Supplying

end DataMax.AssistantRun
