import Mathlib.Data.List.Sort
import Mathlib.Data.List.Dedup
import DataMax.Library.SortedMap

/-! Sorting by a comparison, one best item for each key, and one item for each
key in the order of the keys. -/

namespace DataMax.Library

universe u v

variable {Item : Type u} {Key : Type v}

section Sorting

/-- The stable sort by a comparison. -/
def sortBy (order : Item → Item → Ordering) (items : List Item) : List Item :=
  items.insertionSort fun first second => (order first second).isLE

variable {order : Item → Item → Ordering} {items others : List Item}

theorem sortBy_perm (order : Item → Item → Ordering) (items : List Item) : (sortBy order items).Perm items :=
  List.perm_insertionSort _ items

theorem mem_sortBy {item : Item} : item ∈ sortBy order items ↔ item ∈ items :=
  (sortBy_perm order items).mem_iff

theorem sortBy_eq_self (sorted : items.Pairwise fun first second => (order first second).isLE) :
    sortBy order items = items :=
  sorted.insertionSort_eq

/-- Two comparisons that agree on the items sort them alike. -/
theorem sortBy_congr {other : Item → Item → Ordering}
    (agree : ∀ first ∈ items, ∀ second ∈ items, order first second = other first second) :
    sortBy order items = sortBy other items := by
  have same := List.map_insertionSort (fun first second => (order first second).isLE = true)
    (fun first second => (other first second).isLE = true) id items
    (fun first inside second within => by simp [agree first inside second within])
  simpa [sortBy] using same

/-- Sorting goes by what the comparison reads. -/
theorem sortBy_map {Other : Type v} (change : Item → Other) {other : Other → Other → Ordering}
    (agree : ∀ first ∈ items, ∀ second ∈ items, order first second = other (change first) (change second)) :
    sortBy other (items.map change) = (sortBy order items).map change := by
  refine (List.map_insertionSort _ _ change items fun first inside second within => ?_).symm
  rw [agree first inside second within]

theorem sortBy_sorted (order : Item → Item → Ordering) [Std.TransCmp order] (items : List Item) :
    (sortBy order items).Pairwise fun first second => (order first second).isLE := by
  have total : Std.Total fun first second : Item => (order first second).isLE = true := by
    constructor
    intro first second
    cases compared : order first second with
    | lt | eq => simp
    | gt => simp [Std.OrientedCmp.gt_iff_lt.mp compared]
  have transitive : IsTrans Item fun first second => (order first second).isLE = true :=
    ⟨fun _ _ _ => Std.TransCmp.isLE_trans⟩
  exact List.pairwise_insertionSort _ items

/-- Where items that compare as equal are equal, their order before the sort does not matter. -/
theorem sortBy_eq_of_perm [Std.TransCmp order] (permuted : items.Perm others)
    (apart : ∀ first ∈ items, ∀ second ∈ items, order first second = .eq → first = second) :
    sortBy order items = sortBy order others := by
  refine List.Perm.eq_of_pairwise (fun first second inside within less more => ?_) (sortBy_sorted order items)
    (sortBy_sorted order others) ((sortBy_perm order items).trans (permuted.trans (sortBy_perm order others).symm))
  have listed : first ∈ items := mem_sortBy.mp inside
  have known : second ∈ items := permuted.mem_iff.mpr (mem_sortBy.mp within)
  refine apart first listed second known ?_
  cases compared : order first second with
  | eq => rfl
  | lt => simp [Std.OrientedCmp.gt_iff_lt.mpr compared] at more
  | gt => simp [compared] at less

/-- Items that compare as equal keep their order. -/
theorem filter_sortBy {keep : Item → Bool}
    (level : ∀ first ∈ items, ∀ second ∈ items, keep first → keep second → (order first second).isLE) :
    (sortBy order items).filter keep = items.filter keep := by
  have pairwise : (items.filter keep).Pairwise fun first second => (order first second).isLE = true := by
    apply List.pairwise_of_forall_mem_list
    intro first inside second within
    obtain ⟨inside, kept⟩ := List.mem_filter.mp inside
    obtain ⟨within, also⟩ := List.mem_filter.mp within
    exact level first inside second within kept also
  have embedded := (List.sublist_insertionSort pairwise List.filter_sublist).filter keep
  rw [List.filter_filter] at embedded
  simp only [Bool.and_self] at embedded
  exact (embedded.eq_of_length ((sortBy_perm order items).filter keep).length_eq.symm).symm

theorem nodup_of_strictly_sorted {before : Item → Item → Prop} (asymm : ∀ first second, before first second →
    ¬ before second first) (sorted : items.Pairwise before) : items.Nodup := by
  refine List.Pairwise.imp ?_ sorted
  intro first second less equal
  subst equal
  exact asymm first first less less

/-- Two lists in the same strict order with the same members are equal. -/
theorem eq_of_strictly_sorted {before : Item → Item → Prop} (asymm : ∀ first second, before first second →
    ¬ before second first) (sorted : items.Pairwise before) (otherSorted : others.Pairwise before)
    (same : ∀ item, item ∈ items ↔ item ∈ others) : items = others := by
  have permuted := (List.perm_ext_iff_of_nodup (nodup_of_strictly_sorted asymm sorted)
    (nodup_of_strictly_sorted asymm otherSorted)).mpr same
  exact permuted.eq_of_pairwise (fun first second _ _ less more => absurd more (asymm first second less)) sorted
    otherSorted

/-- Two sorted lists that agree on each class of equals are equal. -/
theorem eq_of_sorted_classes [Std.TransCmp order]
    (sorted : items.Pairwise fun first second => (order first second).isLE)
    (otherSorted : others.Pairwise fun first second => (order first second).isLE)
    (classes : ∀ item, items.filter (fun other => order item other == .eq) =
      others.filter fun other => order item other == .eq) : items = others := by
  have own : ∀ item, (order item item == .eq) = true := fun item => by simp [@Std.ReflCmp.compare_self _ order _ item]
  induction items generalizing others with
  | nil =>
    cases others with
    | nil => rfl
    | cons head rest => simpa [own] using classes head
  | cons first rest ih =>
    cases others with
    | nil => simpa [own] using classes first
    | cons head more =>
      have firstInside : first ∈ head :: more := by
        have listed : first ∈ (first :: rest).filter fun other => order first other == .eq :=
          List.mem_filter.mpr ⟨List.mem_cons_self, own first⟩
        exact (List.mem_filter.mp (classes first ▸ listed)).1
      have headInside : head ∈ first :: rest := by
        have listed : head ∈ (head :: more).filter fun other => order head other == .eq :=
          List.mem_filter.mpr ⟨List.mem_cons_self, own head⟩
        exact (List.mem_filter.mp ((classes head).symm ▸ listed)).1
      have below : (order first head).isLE := by
        rcases List.mem_cons.mp headInside with rfl | later
        · exact Std.ReflCmp.isLE_rfl
        · exact (List.pairwise_cons.mp sorted).1 head later
      have above : (order head first).isLE := by
        rcases List.mem_cons.mp firstInside with rfl | later
        · exact Std.ReflCmp.isLE_rfl
        · exact (List.pairwise_cons.mp otherSorted).1 first later
      have level : order first head = .eq := Std.OrientedCmp.isLE_antisymm below above
      have heads := classes first
      simp only [List.filter_cons, own first, level, beq_self_eq_true, if_true, List.cons.injEq] at heads
      obtain ⟨rfl, _⟩ := heads
      rw [ih (List.pairwise_cons.mp sorted).2 (List.pairwise_cons.mp otherSorted).2]
      intro item
      have both := classes item
      simp only [List.filter_cons] at both
      split at both
      · exact (List.cons.inj both).2
      · exact both

/-- Lists that agree on each class of equals are sorted alike. -/
theorem sortBy_eq_of_classes [Std.TransCmp order]
    (classes : ∀ item, items.filter (fun other => order item other == .eq) =
      others.filter fun other => order item other == .eq) : sortBy order items = sortBy order others := by
  refine eq_of_sorted_classes (sortBy_sorted order items) (sortBy_sorted order others) fun item => ?_
  have kept : ∀ first second, (order item first == .eq) = true → (order item second == .eq) = true →
      (order first second).isLE := by
    intro first second own also
    have level := Std.OrientedCmp.eq_symm (eq_of_beq own)
    rw [Std.TransCmp.congr_left level, eq_of_beq also]
    rfl
  rw [filter_sortBy fun first _ second _ => kept first second, filter_sortBy fun first _ second _ => kept first second,
    classes item]

end Sorting

section Least

/-- An item replaces the one kept so far only if it is less. -/
def keepLess (order : Item → Item → Ordering) : Option Item → Item → Option Item
  | none, item => some item
  | some kept, item => if order item kept = .lt then some item else some kept

/-- The first of the least items. -/
def leastBy (order : Item → Item → Ordering) (items : List Item) : Option Item :=
  items.foldl (keepLess order) none

variable {order : Item → Item → Ordering} {items : List Item} {item : Item}

theorem foldl_keepLess_mem {kept least : Item} (found : items.foldl (keepLess order) (some kept) = some least) :
    least = kept ∨ least ∈ items := by
  induction items generalizing kept with
  | nil => exact .inl (Option.some.inj found).symm
  | cons head rest ih =>
    rw [List.foldl_cons, keepLess] at found
    split at found
    · exact .inr ((ih found).elim (fun same => same ▸ List.mem_cons_self) (List.mem_cons_of_mem head))
    · exact (ih found).imp_right (List.mem_cons_of_mem head)

theorem leastBy_mem (found : leastBy order items = some item) : item ∈ items := by
  cases items with
  | nil => cases found
  | cons head rest =>
    rcases foldl_keepLess_mem found with same | later
    · exact same ▸ List.mem_cons_self
    · exact List.mem_cons_of_mem head later

theorem leastBy_isSome (inside : item ∈ items) : ∃ least, leastBy order items = some least := by
  have folds : ∀ (rest : List Item) (kept : Item), ∃ least, rest.foldl (keepLess order) (some kept) =
      some least := by
    intro rest
    induction rest with
    | nil => exact fun kept => ⟨kept, rfl⟩
    | cons head rest ih =>
      intro kept
      rw [List.foldl_cons, keepLess]
      split
      · exact ih head
      · exact ih kept
  cases items with
  | nil => cases inside
  | cons head rest => exact folds rest head

/-- The first item stays if no later one is less. -/
theorem foldl_keepLess_first {kept : Item} (first : ∀ item ∈ items, order item kept ≠ .lt) :
    items.foldl (keepLess order) (some kept) = some kept := by
  induction items with
  | nil => rfl
  | cons head rest ih =>
    rw [List.foldl_cons, keepLess, if_neg (first head List.mem_cons_self)]
    exact ih fun item later => first item (List.mem_cons_of_mem head later)

/-- Among equal items the first one stays. -/
theorem leastBy_eq_head? (tied : ∀ first ∈ items, ∀ second ∈ items, order first second ≠ .lt) :
    leastBy order items = items.head? := by
  cases items with
  | nil => rfl
  | cons head rest =>
    exact foldl_keepLess_first fun item later => tied item (List.mem_cons_of_mem head later) head List.mem_cons_self

variable [Std.TransCmp order]

theorem foldl_keepLess_least {kept least : Item}
    (found : items.foldl (keepLess order) (some kept) = some least) :
    (order least kept).isLE ∧ ∀ item ∈ items, (order least item).isLE := by
  induction items generalizing kept with
  | nil =>
    cases found
    exact ⟨Std.ReflCmp.isLE_rfl, by simp⟩
  | cons head rest ih =>
    rw [List.foldl_cons, keepLess] at found
    split at found
    · rename_i less
      obtain ⟨below, belowRest⟩ := ih found
      refine ⟨Std.TransCmp.isLE_trans below (by simp [less]), ?_⟩
      exact List.forall_mem_cons.mpr ⟨below, belowRest⟩
    · rename_i notLess
      obtain ⟨below, belowRest⟩ := ih found
      have keptBelow : (order kept head).isLE := by
        rw [← Std.OrientedCmp.isGE_iff_isLE]
        cases compared : order head kept <;> simp_all
      exact ⟨below, List.forall_mem_cons.mpr ⟨Std.TransCmp.isLE_trans below keptBelow, belowRest⟩⟩

theorem leastBy_le (found : leastBy order items = some item) :
    ∀ other ∈ items, (order item other).isLE := by
  cases items with
  | nil => cases found
  | cons head rest => exact List.forall_mem_cons.mpr (foldl_keepLess_least found)

end Least

section Best

variable [Ord Key] [Std.TransOrd Key]

/-- The step of a loop that keeps the best item of each key in a map. -/
def insertBetter (key : Item → Key) (order : Item → Item → Ordering) (kept : SortedMap Key Item)
    (item : Item) : SortedMap Key Item :=
  match kept.get? (key item) with
  | none => kept.insert (key item) item
  | some current => if order item current = .lt then kept.insert (key item) item else kept

def bestItems (key : Item → Key) (order : Item → Item → Ordering) (items : List Item) : SortedMap Key Item :=
  items.foldl (insertBetter key order) .empty

/-- One best item for each key, sorted. -/
def dedupeBy (key : Item → Key) (order : Item → Item → Ordering) (items : List Item) : List Item :=
  sortBy order (bestItems key order items).values

variable {key : Item → Key} {order : Item → Item → Ordering} {items : List Item} {item other : Item}

theorem mem_insertBetter {kept : SortedMap Key Item} {entry : Key × Item}
    (inside : entry ∈ (insertBetter key order kept item).entries) : entry ∈ kept.entries ∨ entry.2 = item := by
  have grown : entry ∈ (kept.insert (key item) item).entries → entry ∈ kept.entries ∨ entry.2 = item := by
    intro member
    rcases SortedMap.mem_insertEntry member with same | old
    · exact .inr (by rw [same])
    · exact .inl old
  unfold insertBetter at inside
  split at inside
  · exact grown inside
  · split at inside
    · exact grown inside
    · exact .inl inside

theorem insertBetter_congr {otherOrder : Item → Item → Ordering} {kept : SortedMap Key Item}
    (agree : ∀ current ∈ kept.values, order item current = otherOrder item current) :
    insertBetter key order kept item = insertBetter key otherOrder kept item := by
  unfold insertBetter
  split
  · rfl
  · rename_i current found
    rw [agree current (SortedMap.mem_values found)]

/-- Two comparisons that agree on the items keep the same ones. -/
theorem foldl_insertBetter_congr {otherOrder : Item → Item → Ordering} {rest : List Item}
    {kept : SortedMap Key Item} (listed : rest ⊆ items) (old : kept.values ⊆ items)
    (agree : ∀ first ∈ items, ∀ second ∈ items, order first second = otherOrder first second) :
    rest.foldl (insertBetter key order) kept = rest.foldl (insertBetter key otherOrder) kept ∧
      (rest.foldl (insertBetter key order) kept).values ⊆ items := by
  induction rest generalizing kept with
  | nil => exact ⟨rfl, old⟩
  | cons head rest ih =>
    obtain ⟨headListed, restListed⟩ := List.cons_subset.mp listed
    have step : insertBetter key order kept head = insertBetter key otherOrder kept head :=
      insertBetter_congr fun current inside => agree head headListed current (old inside)
    have grown : (insertBetter key order kept head).values ⊆ items := by
      intro item inside
      obtain ⟨entry, entryInside, rfl⟩ := List.mem_map.mp inside
      rcases mem_insertBetter entryInside with before | same
      · exact old (List.mem_map_of_mem before)
      · exact same ▸ headListed
    obtain ⟨same, within⟩ := ih restListed grown
    refine ⟨?_, within⟩
    rw [List.foldl_cons, List.foldl_cons, same, step]

theorem dedupeBy_congr {otherOrder : Item → Item → Ordering}
    (agree : ∀ first ∈ items, ∀ second ∈ items, order first second = otherOrder first second) :
    dedupeBy key order items = dedupeBy key otherOrder items := by
  have empty : (SortedMap.empty : SortedMap Key Item).values ⊆ items := List.nil_subset items
  obtain ⟨same, within⟩ := @foldl_insertBetter_congr _ _ _ _ key order items otherOrder items .empty
    (List.Subset.refl items) empty agree
  rw [dedupeBy, dedupeBy, bestItems, bestItems, ← same]
  exact sortBy_congr fun first inside second also => agree first (within inside) second (within also)

variable [Std.LawfulEqOrd Key] [DecidableEq Key]

theorem get?_insertBetter (kept : SortedMap Key Item) (candidate : Key) :
    (insertBetter key order kept item).get? candidate =
      if key item = candidate then keepLess order (kept.get? candidate) item else kept.get? candidate := by
  by_cases own : key item = candidate
  · subst own
    rw [if_pos rfl, insertBetter]
    cases found : kept.get? (key item) with
    | none => simp [keepLess]
    | some current =>
      simp only [keepLess]
      split
      · simp
      · exact found
  · rw [if_neg own, insertBetter]
    have apart := SortedMap.get?_insert_other kept item (Ne.symm own)
    split
    · exact apart
    · split
      · exact apart
      · rfl

/-- The map holds, for each key, the first of the least items with that key. -/
theorem get?_bestItems (candidate : Key) :
    (bestItems key order items).get? candidate =
      leastBy order (items.filter fun item => decide (key item = candidate)) := by
  have folds : ∀ (rest : List Item) (kept : SortedMap Key Item),
      (rest.foldl (insertBetter key order) kept).get? candidate =
        (rest.filter fun item => decide (key item = candidate)).foldl (keepLess order)
          (kept.get? candidate) := by
    intro rest
    induction rest with
    | nil => exact fun kept => rfl
    | cons head rest ih =>
      intro kept
      rw [List.foldl_cons, ih, get?_insertBetter]
      by_cases own : key head = candidate
      · simp [own]
      · simp [own]
  exact folds items .empty

theorem key_of_mem_bestItems {entry : Key × Item} (inside : entry ∈ (bestItems key order items).entries) :
    key entry.2 = entry.1 := by
  have found := SortedMap.mem_entries_iff.mp inside
  rw [get?_bestItems] at found
  exact of_decide_eq_true (List.mem_filter.mp (leastBy_mem found)).2

theorem mem_dedupeBy : item ∈ dedupeBy key order items ↔
    leastBy order (items.filter fun other => decide (key other = key item)) = some item := by
  rw [dedupeBy, mem_sortBy, ← get?_bestItems, SortedMap.values, List.mem_map]
  constructor
  · rintro ⟨entry, inside, rfl⟩
    rw [key_of_mem_bestItems inside]
    exact SortedMap.mem_entries_iff.mp inside
  · intro found
    exact ⟨(key item, item), SortedMap.mem_entries_iff.mpr found, rfl⟩

theorem dedupeBy_subset (inside : item ∈ dedupeBy key order items) : item ∈ items :=
  (List.mem_filter.mp (leastBy_mem (mem_dedupeBy.mp inside))).1

theorem dedupeBy_keys_nodup (key : Item → Key) (order : Item → Item → Ordering) (items : List Item) :
    ((dedupeBy key order items).map key).Nodup := by
  have keys : (bestItems key order items).values.map key = (bestItems key order items).entries.map (·.1) := by
    rw [SortedMap.values, List.map_map]
    exact List.map_congr_left fun entry inside => key_of_mem_bestItems inside
  rw [dedupeBy, ((sortBy_perm order _).map key).nodup_iff, keys]
  exact (SortedMap.keys_pairwise _).imp fun less same => by simp [same] at less

/-- Every key is kept. -/
theorem mem_dedupeBy_keys {candidate : Key} :
    candidate ∈ (dedupeBy key order items).map key ↔ candidate ∈ items.map key := by
  constructor
  · intro kept
    obtain ⟨item, inside, same⟩ := List.mem_map.mp kept
    exact List.mem_map.mpr ⟨item, dedupeBy_subset inside, same⟩
  · intro listed
    obtain ⟨item, inside, same⟩ := List.mem_map.mp listed
    have own : item ∈ items.filter fun other => decide (key other = candidate) :=
      List.mem_filter.mpr ⟨inside, decide_eq_true same⟩
    obtain ⟨least, found⟩ := @leastBy_isSome _ order _ _ own
    have own : key least = candidate := of_decide_eq_true (List.mem_filter.mp (leastBy_mem found)).2
    refine List.mem_map.mpr ⟨least, mem_dedupeBy.mpr ?_, own⟩
    rw [own]
    exact found

theorem dedupeBy_keys_perm (key : Item → Key) (order : Item → Item → Ordering) (items : List Item) :
    ((dedupeBy key order items).map key).Perm (items.map key).dedup := by
  rw [List.perm_ext_iff_of_nodup (dedupeBy_keys_nodup key order items) (List.nodup_dedup _)]
  intro candidate
  rw [mem_dedupeBy_keys, List.mem_dedup]

/-- There is one item for each key. -/
theorem length_dedupeBy (key : Item → Key) (order : Item → Item → Ordering) (items : List Item) :
    (dedupeBy key order items).length = (items.map key).dedup.length := by
  rw [← (dedupeBy_keys_perm key order items).length_eq, List.length_map]

theorem length_dedupeBy_congr {others : List Item} (same : ∀ item, item ∈ items ↔ item ∈ others) :
    (dedupeBy key order items).length = (dedupeBy key order others).length := by
  rw [length_dedupeBy, length_dedupeBy]
  apply List.Perm.length_eq
  rw [List.perm_ext_iff_of_nodup (List.nodup_dedup _) (List.nodup_dedup _)]
  simp [same]

/-- The kept item of a key is the first of its least items. -/
theorem mem_dedupeBy_of_first {rest : List Item}
    (least : ∀ other ∈ rest, key other = key item → order other item ≠ .lt) :
    item ∈ dedupeBy key order (item :: rest) := by
  rw [mem_dedupeBy, List.filter_cons_of_pos (by simp)]
  apply foldl_keepLess_first
  intro other inside
  obtain ⟨inside, same⟩ := List.mem_filter.mp inside
  exact least other inside (of_decide_eq_true same)

variable [Std.TransCmp order]

omit [Std.LawfulEqOrd Key] [DecidableEq Key] in
theorem dedupeBy_sorted (key : Item → Key) (order : Item → Item → Ordering) [Std.TransCmp order]
    (items : List Item) : (dedupeBy key order items).Pairwise fun first second => (order first second).isLE :=
  sortBy_sorted order _

theorem le_of_mem_dedupeBy (kept : item ∈ dedupeBy key order items) (inside : other ∈ items)
    (same : key other = key item) : (order item other).isLE :=
  leastBy_le (mem_dedupeBy.mp kept) other (List.mem_filter.mpr ⟨inside, decide_eq_true same⟩)

end Best

section Distinct

variable [Ord Key] [Std.TransOrd Key]

/-- The step of a loop that inserts an item unless its key is there. -/
def insertNew (key : Item → Key) (kept : SortedMap Key Item) (item : Item) : SortedMap Key Item :=
  match kept.get? (key item) with
  | none => kept.insert (key item) item
  | some _ => kept

/-- The first item of each key, in the order of the keys. -/
def distinctBy (key : Item → Key) (items : List Item) : List Item :=
  (items.foldl (insertNew key) .empty).values

variable {key : Item → Key} {items others : List Item} {item : Item}

theorem insertNew_eq_insertBetter : insertNew key = insertBetter key fun _ _ => .eq := by
  funext kept item
  unfold insertNew insertBetter
  split <;> simp_all

variable [Std.LawfulEqOrd Key] [DecidableEq Key]

theorem mem_distinctBy : item ∈ distinctBy key items ↔
    (items.filter fun other => decide (key other = key item)).head? = some item := by
  have values : item ∈ distinctBy key items ↔ item ∈ dedupeBy key (fun _ _ => .eq) items := by
    rw [distinctBy, insertNew_eq_insertBetter, dedupeBy, mem_sortBy, bestItems]
  rw [values, mem_dedupeBy, leastBy_eq_head?]
  intro first _ second _
  simp

theorem distinctBy_subset (kept : item ∈ distinctBy key items) : item ∈ items :=
  (List.mem_filter.mp (List.mem_of_mem_head? (mem_distinctBy.mp kept))).1

theorem distinctBy_sorted (key : Item → Key) (items : List Item) :
    (distinctBy key items).Pairwise fun first second => compare (key first) (key second) = .lt := by
  have sorted := (items.foldl (insertNew key) .empty).sorted
  rw [distinctBy, SortedMap.values, List.pairwise_map]
  refine sorted.imp_of_mem ?_
  intro first second inside within less
  rw [insertNew_eq_insertBetter] at inside within
  rw [key_of_mem_bestItems inside, key_of_mem_bestItems within]
  exact less

section

variable (injective : Function.Injective key)

include injective

theorem mem_distinctBy_of_injective : item ∈ distinctBy key items ↔ item ∈ items := by
  constructor
  · exact distinctBy_subset
  · intro inside
    rw [mem_distinctBy]
    cases found : (items.filter fun other => decide (key other = key item)).head? with
    | none =>
      have empty := List.head?_eq_none_iff.mp found
      exact absurd (List.mem_filter.mpr ⟨inside, by simp⟩) (empty ▸ List.not_mem_nil)
    | some first =>
      have same := of_decide_eq_true (List.mem_filter.mp (List.mem_of_mem_head? found)).2
      rw [injective same]

/-- The distinct items depend on the items alone. -/
theorem distinctBy_congr (same : ∀ item, item ∈ items ↔ item ∈ others) :
    distinctBy key items = distinctBy key others := by
  refine eq_of_strictly_sorted ?_ (distinctBy_sorted key items) (distinctBy_sorted key others) ?_
  · intro first second less more
    simp [Std.OrientedCmp.gt_iff_lt.mpr less] at more
  · intro item
    rw [mem_distinctBy_of_injective injective, mem_distinctBy_of_injective injective, same]

theorem distinctBy_eq_self (sorted : items.Pairwise fun first second => compare (key first) (key second) = .lt) :
    distinctBy key items = items := by
  refine eq_of_strictly_sorted ?_ (distinctBy_sorted key items) sorted fun item =>
    mem_distinctBy_of_injective injective
  intro first second less more
  simp [Std.OrientedCmp.gt_iff_lt.mpr less] at more

end

section Self

variable [Ord Item] [Std.TransOrd Item] [Std.LawfulEqOrd Item] [DecidableEq Item]

@[simp] theorem mem_distinctBy_self : item ∈ distinctBy id items ↔ item ∈ items :=
  mem_distinctBy_of_injective Function.injective_id

theorem distinctBy_self_nodup (items : List Item) : (distinctBy id items).Nodup := by
  refine nodup_of_strictly_sorted ?_ (distinctBy_sorted id items)
  intro first second less more
  have greater : compare second first = .gt := Std.OrientedCmp.gt_iff_lt.mpr less
  simp [greater] at more

/-- Two distinct items remain if two items differ. -/
theorem two_le_length_distinctBy_self : 2 ≤ (distinctBy id items).length ↔
    ∃ first ∈ items, ∃ second ∈ items, first ≠ second := by
  have distinct := distinctBy_self_nodup items
  constructor
  · intro several
    match shape : distinctBy id items with
    | [] | [_] => simp [shape] at several
    | first :: second :: rest =>
      have apart : first ≠ second := by
        intro same
        simp [shape, same] at distinct
      exact ⟨first, mem_distinctBy_self.mp (by simp [shape]), second, mem_distinctBy_self.mp (by simp [shape]), apart⟩
  · rintro ⟨first, inside, second, within, apart⟩
    by_contra few
    have firstKept := mem_distinctBy_self.mpr inside
    have secondKept := mem_distinctBy_self.mpr within
    match shape : distinctBy id items with
    | [] => simp [shape] at firstKept
    | [single] =>
      rw [shape, List.mem_singleton] at firstKept secondKept
      exact apart (firstKept.trans secondKept.symm)
    | _ :: _ :: _ => simp [shape] at few

end Self

end Distinct

end DataMax.Library
