import Std.Data.TreeMap.Lemmas
import Mathlib.Data.List.Induction
import Mathlib.Data.List.Nodup

/-! Finite maps kept as strictly increasing association lists. The order of the
entries is part of the value, so two maps with the same entries are equal. -/

namespace DataMax.Library

universe u v

-- Pairs are ordered by their first components, then by their second ones.
attribute [instance] lexOrd

variable {Key : Type u} {Item : Type v} [Ord Key]
variable {key : Key} {item : Item} {entries : List (Key × Item)}

/-- The key of the first entry precedes the key of the second. -/
def EntryBefore (first second : Key × Item) : Prop := compare first.1 second.1 = .lt

instance : DecidableRel (@EntryBefore Key Item _) :=
  fun first second => inferInstanceAs (Decidable (compare first.1 second.1 = .lt))

structure SortedMap (Key : Type u) (Item : Type v) [Ord Key] where
  entries : List (Key × Item)
  sorted : entries.Pairwise EntryBefore

namespace SortedMap

def findEntry (key : Key) : List (Key × Item) → Option Item
  | [] => none
  | entry :: rest => if compare key entry.1 = .eq then some entry.2 else findEntry key rest

def insertEntry (key : Key) (item : Item) : List (Key × Item) → List (Key × Item)
  | [] => [(key, item)]
  | entry :: rest => match compare key entry.1 with
    | .lt => (key, item) :: entry :: rest
    | .eq => (key, item) :: rest
    | .gt => entry :: insertEntry key item rest

def eraseEntry (key : Key) (entries : List (Key × Item)) : List (Key × Item) :=
  entries.filter fun entry => compare key entry.1 != .eq

attribute [local simp] findEntry insertEntry in
theorem mem_insertEntry {entry : Key × Item} (member : entry ∈ insertEntry key item entries) :
    entry = (key, item) ∨ entry ∈ entries := by
  induction entries with
  | nil => simpa using member
  | cons head rest ih =>
    cases order : compare key head.1 with
    | lt => simpa [order] using member
    | eq =>
      rcases List.mem_cons.mp (by simpa [order] using member) with same | later
      · exact .inl same
      · exact .inr (List.mem_cons_of_mem head later)
    | gt =>
      rcases List.mem_cons.mp (by simpa [order] using member) with same | later
      · exact .inr (by simp [same])
      · exact (ih later).imp_right (List.mem_cons_of_mem head)

theorem eraseEntry_absent (absent : findEntry key entries = none) :
    eraseEntry key entries = entries := by
  induction entries with
  | nil => rfl
  | cons head rest ih =>
    have different : compare key head.1 ≠ .eq := by
      intro same
      simp [findEntry, same] at absent
    have missing : findEntry key rest = none := by simpa [findEntry, different] using absent
    have kept := ih missing
    simp only [eraseEntry] at kept ⊢
    simp [different, kept]

theorem findEntry_insertEntry_other [Std.LawfulEqOrd Key] {key other : Key} (different : key ≠ other) :
    findEntry key (insertEntry other item entries) = findEntry key entries := by
  have distinct : compare key other ≠ .eq := fun same =>
    different (Std.LawfulEqCmp.eq_of_compare same)
  induction entries with
  | nil => simp [insertEntry, findEntry, distinct]
  | cons head rest ih =>
    cases order : compare other head.1 with
    | lt => simp [insertEntry, findEntry, order, distinct]
    | eq =>
      have same : other = head.1 := Std.LawfulEqCmp.eq_of_compare order
      have apart : compare key head.1 ≠ .eq := same ▸ distinct
      simp [insertEntry, findEntry, order, distinct, apart]
    | gt => simp [insertEntry, findEntry, order, ih]

theorem insertEntry_perm (absent : findEntry key entries = none) :
    (insertEntry key item entries).Perm ((key, item) :: entries) := by
  induction entries with
  | nil => exact .refl _
  | cons head rest ih =>
    cases order : compare key head.1 with
    | lt =>
      simp only [insertEntry, order]
      exact .refl _
    | eq => simp [findEntry, order] at absent
    | gt =>
      have missing : findEntry key rest = none := by simpa [findEntry, order] using absent
      simp only [insertEntry, order]
      exact ((ih missing).cons head).trans (.swap _ _ _)

theorem findEntry_mem (found : findEntry key entries = some item) : item ∈ entries.map (·.2) := by
  induction entries with
  | nil => cases found
  | cons head rest ih =>
    rw [findEntry] at found
    split at found
    · cases found
      exact List.mem_cons_self
    · exact List.mem_cons_of_mem _ (ih found)

theorem mem_of_findEntry [Std.LawfulEqOrd Key] (found : findEntry key entries = some item) : (key, item) ∈ entries := by
  induction entries with
  | nil => cases found
  | cons head rest ih =>
    rw [findEntry] at found
    split at found
    · rename_i same
      cases found
      obtain rfl : key = head.1 := Std.LawfulEqCmp.eq_of_compare same
      exact List.mem_cons_self
    · exact List.mem_cons_of_mem _ (ih found)

/-- All entries of the key agree on the item. -/
theorem findEntry_of_functional [Std.LawfulEqOrd Key] (listed : (key, item) ∈ entries)
    (agree : ∀ other, (key, other) ∈ entries → other = item) : findEntry key entries = some item := by
  induction entries with
  | nil => cases listed
  | cons head rest ih =>
    rw [findEntry]
    by_cases same : compare key head.1 = .eq
    · have own : key = head.1 := Std.LawfulEqCmp.eq_of_compare same
      rw [if_pos same, agree head.2 (by simp [own])]
    · have later : (key, item) ∈ rest := by
        rcases List.mem_cons.mp listed with here | later
        · exact False.elim (same (by rw [← here]; exact Std.ReflCmp.compare_self))
        · exact later
      rw [if_neg same]
      exact ih later fun other inside => agree other (List.mem_cons_of_mem head inside)

/-- Looking up a key among items listed under their own keys finds the first of
them. -/
theorem findEntry_keyed [DecidableEq Key] [Std.LawfulEqOrd Key] (view : Item → Key) (items : List Item) :
    findEntry key (items.map fun item => (view item, item)) = items.find? fun item => decide (view item = key) := by
  induction items with
  | nil => rfl
  | cons head rest ih =>
    rw [List.map_cons, findEntry, List.find?_cons, ih]
    by_cases same : view head = key
    · simp [same, Std.ReflCmp.compare_self]
    · have different : compare key (view head) ≠ .eq := fun equal =>
        same (Std.LawfulEqCmp.eq_of_compare equal).symm
      simp [same, different]

@[ext] theorem ext {first second : SortedMap Key Item} (same : first.entries = second.entries) :
    first = second := by
  cases first
  cases second
  cases same
  rfl

def empty : SortedMap Key Item := ⟨[], .nil⟩

def get? (map : SortedMap Key Item) (key : Key) : Option Item := findEntry key map.entries

def values (map : SortedMap Key Item) : List Item := map.entries.map (·.2)

theorem mem_values {map : SortedMap Key Item} (found : map.get? key = some item) : item ∈ map.values :=
  findEntry_mem found

@[simp] theorem get?_empty (key : Key) : (empty : SortedMap Key Item).get? key = none := rfl

/-- The entries are the answers of the map. -/
theorem mem_entries_iff [Std.LawfulEqOrd Key] {map : SortedMap Key Item} {entry : Key × Item} :
    entry ∈ map.entries ↔ map.get? entry.1 = some entry.2 := by
  obtain ⟨entries, sorted⟩ := map
  simp only [get?]
  induction entries with
  | nil => simp [findEntry]
  | cons head rest ih =>
    obtain ⟨headFirst, restSorted⟩ := List.pairwise_cons.mp sorted
    by_cases same : compare entry.1 head.1 = .eq
    · have key : entry.1 = head.1 := Std.LawfulEqCmp.eq_of_compare same
      have absent : entry ∉ rest := by
        intro later
        have before : compare head.1 entry.1 = .lt := headFirst entry later
        rw [key] at before
        simp at before
      simp only [findEntry, same, if_true, List.mem_cons, absent, or_false, Option.some.injEq]
      constructor
      · intro equal
        rw [equal]
      · intro item
        exact Prod.ext key item.symm
    · have different : entry ≠ head := by
        intro equal
        exact same (equal ▸ Std.ReflCmp.compare_self)
      simp only [findEntry, same, if_false, List.mem_cons, different, false_or]
      exact ih restSorted

theorem mem_values_iff [Std.LawfulEqOrd Key] {map : SortedMap Key Item} :
    item ∈ map.values ↔ ∃ key, map.get? key = some item := by
  constructor
  · intro inside
    obtain ⟨entry, member, rfl⟩ := List.mem_map.mp inside
    exact ⟨entry.1, mem_entries_iff.mp member⟩
  · rintro ⟨key, found⟩
    exact mem_values found

/-- A key has at most one entry. -/
theorem filter_entries [DecidableEq Key] [Std.LawfulEqOrd Key] (map : SortedMap Key Item) (key : Key) :
    map.entries.filter (fun entry => decide (entry.1 = key)) = (map.get? key).toList.map fun item => (key, item) := by
  obtain ⟨entries, sorted⟩ := map
  simp only [get?]
  induction entries with
  | nil => rfl
  | cons head rest ih =>
    obtain ⟨headFirst, restSorted⟩ := List.pairwise_cons.mp sorted
    by_cases same : head.1 = key
    · have found : findEntry key (head :: rest) = some head.2 := by
        simp [findEntry, same, Std.ReflCmp.compare_self]
      have others : ∀ entry ∈ rest, ¬ entry.1 = key := by
        intro entry later equal
        have before : compare head.1 entry.1 = .lt := headFirst entry later
        simp [same, equal, Std.ReflCmp.compare_self] at before
      rw [found, List.filter_cons_of_pos (by simp [same]), List.filter_eq_nil_iff.mpr (by simpa using others),
        ← same]
      rfl
    · have apart : compare key head.1 ≠ .eq := fun equal => same (Std.LawfulEqCmp.eq_of_compare equal).symm
      rw [List.filter_cons_of_neg (by simp [same]), findEntry, if_neg apart]
      exact ih restSorted

/-- Maps with the same answers are equal. -/
theorem ext_get? [Std.TransOrd Key] [Std.LawfulEqOrd Key] {first second : SortedMap Key Item}
    (same : ∀ key, first.get? key = second.get? key) : first = second := by
  have distinct : ∀ map : SortedMap Key Item, map.entries.Nodup := by
    intro map
    refine map.sorted.imp ?_
    rintro left _ before rfl
    simp [EntryBefore] at before
  have permuted : first.entries.Perm second.entries := by
    apply (List.perm_ext_iff_of_nodup (distinct first) (distinct second)).mpr
    intro entry
    rw [mem_entries_iff, mem_entries_iff, same]
  refine ext (permuted.eq_of_pairwise ?_ first.sorted second.sorted)
  intro left right _ _ before after
  have contrary : compare right.1 left.1 = .gt := Std.OrientedCmp.gt_iff_lt.mpr before
  rw [EntryBefore, contrary] at after
  cases after

theorem findEntry_map {Other : Type v} (change : Item → Other) (key : Key) (entries : List (Key × Item)) :
    findEntry key (entries.map fun entry => (entry.1, change entry.2)) = (findEntry key entries).map change := by
  induction entries with
  | nil => rfl
  | cons head rest ih =>
    rw [List.map_cons, findEntry, findEntry, ih]
    split <;> rfl

/-- The keys stay, and the items are changed. -/
def mapItems {Other : Type v} (change : Item → Other) (map : SortedMap Key Item) : SortedMap Key Other where
  entries := map.entries.map fun entry => (entry.1, change entry.2)
  sorted := by
    rw [List.pairwise_map]
    exact map.sorted

theorem get?_mapItems {Other : Type v} (change : Item → Other) (map : SortedMap Key Item) (key : Key) :
    (map.mapItems change).get? key = (map.get? key).map change := findEntry_map change key map.entries

theorem values_mapItems {Other : Type v} (change : Item → Other) (map : SortedMap Key Item) :
    (map.mapItems change).values = map.values.map change := by
  simp [mapItems, values, Function.comp_def]

/-- The entries with the wanted items stay. -/
def filterItems (keep : Item → Bool) (map : SortedMap Key Item) : SortedMap Key Item where
  entries := map.entries.filter fun entry => keep entry.2
  sorted := map.sorted.filter _

theorem get?_filterItems [Std.LawfulEqOrd Key] (keep : Item → Bool) (map : SortedMap Key Item) (key : Key) :
    (map.filterItems keep).get? key = (map.get? key).filter keep := by
  apply Option.ext
  intro item
  have kept : (key, item) ∈ (map.filterItems keep).entries ↔ (key, item) ∈ map.entries ∧ keep item = true :=
    List.mem_filter
  rw [mem_entries_iff, mem_entries_iff] at kept
  rw [kept, Option.filter_eq_some_iff]

/-- Items that contribute nothing can be left out. -/
theorem flatMap_filterItems {Other : Type v} {keep : Item → Bool} {change : Item → List Other}
    (nothing : ∀ item, keep item = false → change item = []) (map : SortedMap Key Item) :
    (map.filterItems keep).values.flatMap change = map.values.flatMap change := by
  have values : (map.filterItems keep).values = map.values.filter keep := by
    simp [filterItems, SortedMap.values, List.filter_map, Function.comp_def]
  rw [values]
  induction map.values with
  | nil => rfl
  | cons head rest ih =>
    cases kept : keep head with
    | true => rw [List.filter_cons_of_pos kept, List.flatMap_cons, List.flatMap_cons, ih]
    | false =>
      rw [List.filter_cons_of_neg (by simp [kept]), List.flatMap_cons, nothing head kept, List.nil_append, ih]

theorem keys_pairwise (map : SortedMap Key Item) :
    (map.entries.map (·.1)).Pairwise fun first second => compare first second = .lt :=
  List.pairwise_map.mpr map.sorted

variable [Std.TransOrd Key]

theorem insertEntry_sorted {entries : List (Key × Item)} (sorted : entries.Pairwise EntryBefore)
    (key : Key) (item : Item) : (insertEntry key item entries).Pairwise EntryBefore := by
  induction entries with
  | nil => simp [insertEntry]
  | cons head rest ih =>
    obtain ⟨headFirst, restSorted⟩ := List.pairwise_cons.mp sorted
    cases order : compare key head.1 with
    | lt =>
      have below : ∀ entry ∈ head :: rest, EntryBefore (key, item) entry := by
        intro entry member
        rcases List.mem_cons.mp member with same | later
        · exact same ▸ order
        · exact Std.TransCmp.lt_trans order (headFirst entry later)
      simp only [insertEntry, order]
      exact List.pairwise_cons.mpr ⟨below, sorted⟩
    | eq =>
      have below : ∀ entry ∈ rest, EntryBefore (key, item) entry :=
        fun entry later => Std.TransCmp.lt_of_eq_of_lt order (headFirst entry later)
      simp only [insertEntry, order]
      exact List.pairwise_cons.mpr ⟨below, restSorted⟩
    | gt =>
      have above : ∀ entry ∈ insertEntry key item rest, EntryBefore head entry := by
        intro entry member
        rcases mem_insertEntry member with same | later
        · exact same ▸ Std.OrientedCmp.gt_iff_lt.mp order
        · exact headFirst entry later
      simp only [insertEntry, order]
      exact List.pairwise_cons.mpr ⟨above, ih restSorted⟩

theorem eraseEntry_insertEntry (absent : findEntry key entries = none) :
    eraseEntry key (insertEntry key item entries) = entries := by
  induction entries with
  | nil => simp [insertEntry, eraseEntry]
  | cons head rest ih =>
    have unchanged := eraseEntry_absent absent
    have different : compare key head.1 ≠ .eq := by
      intro same
      simp [findEntry, same] at absent
    have missing : findEntry key rest = none := by simpa [findEntry, different] using absent
    cases order : compare key head.1 with
    | eq => exact False.elim (different order)
    | lt =>
      simp only [eraseEntry, insertEntry, order] at unchanged ⊢
      simpa using unchanged
    | gt =>
      have kept := ih missing
      simp only [eraseEntry, insertEntry, order] at kept ⊢
      simp [order, kept]

theorem findEntry_insertEntry_self : findEntry key (insertEntry key item entries) = some item := by
  induction entries with
  | nil => simp [insertEntry, findEntry]
  | cons head rest ih =>
    cases order : compare key head.1 <;> simp [insertEntry, findEntry, order, ih]

def insert (map : SortedMap Key Item) (key : Key) (item : Item) : SortedMap Key Item :=
  ⟨insertEntry key item map.entries, insertEntry_sorted map.sorted key item⟩

def erase (map : SortedMap Key Item) (key : Key) : SortedMap Key Item :=
  ⟨eraseEntry key map.entries, map.sorted.filter _⟩

/-- Later entries of the list replace earlier ones with the same key. -/
def ofList (entries : List (Key × Item)) : SortedMap Key Item :=
  entries.foldl (fun map entry => map.insert entry.1 entry.2) empty

@[simp] theorem get?_insert_self (map : SortedMap Key Item) (key : Key) (item : Item) :
    (map.insert key item).get? key = some item := findEntry_insertEntry_self

theorem get?_insert_other [Std.LawfulEqOrd Key] (map : SortedMap Key Item) (item : Item)
    {key other : Key} (different : key ≠ other) :
    (map.insert other item).get? key = map.get? key := findEntry_insertEntry_other different

theorem get?_insert [DecidableEq Key] [Std.LawfulEqOrd Key] (map : SortedMap Key Item) (key other : Key) (item : Item) :
    (map.insert other item).get? key = if key = other then some item else map.get? key := by
  split
  · rename_i same
    rw [same, get?_insert_self]
  · rename_i different
    exact get?_insert_other map item different

omit [Std.TransOrd Key] in
theorem get?_erase [DecidableEq Key] [Std.LawfulEqOrd Key] (map : SortedMap Key Item) (key other : Key) :
    (map.erase other).get? key = if key = other then none else map.get? key := by
  obtain ⟨entries, sorted⟩ := map
  simp only [erase, get?, eraseEntry]
  clear sorted
  induction entries with
  | nil => simp [findEntry]
  | cons head rest ih =>
    by_cases erased : compare other head.1 = .eq
    · have own : other = head.1 := Std.LawfulEqCmp.eq_of_compare erased
      rw [List.filter_cons_of_neg (by simp [erased]), ih, findEntry]
      split
      · rfl
      · rename_i different
        have apart : compare key head.1 ≠ .eq := fun same => different (own ▸ Std.LawfulEqCmp.eq_of_compare same)
        rw [if_neg apart]
    · rw [List.filter_cons_of_pos (by simp [erased]), findEntry, findEntry, ih]
      by_cases found : compare key head.1 = .eq
      · have own : key = head.1 := Std.LawfulEqCmp.eq_of_compare found
        have different : key ≠ other := fun same => erased (by rw [← same, own]; exact Std.ReflCmp.compare_self)
        rw [if_pos found, if_pos found, if_neg different]
      · rw [if_neg found, if_neg found]

/-- The last entry of the key is the one that stays. -/
theorem get?_ofList [Std.LawfulEqOrd Key] (entries : List (Key × Item)) (key : Key) :
    (ofList entries).get? key = findEntry key entries.reverse := by
  induction entries using List.reverseRecOn with
  | nil => rfl
  | append_singleton earlier last ih =>
    have extended : ofList (earlier ++ [last]) = (ofList earlier).insert last.1 last.2 := by
      simp [ofList, List.foldl_append]
    rw [extended, List.reverse_append, List.reverse_singleton, List.singleton_append, findEntry]
    by_cases same : compare key last.1 = .eq
    · rw [if_pos same, Std.LawfulEqCmp.eq_of_compare same, get?_insert_self]
    · have different : key ≠ last.1 := fun equal => same (equal ▸ Std.ReflCmp.compare_self)
      rw [if_neg same, get?_insert_other _ _ different, ih]

theorem mem_of_get?_ofList [Std.LawfulEqOrd Key] {entries : List (Key × Item)} {key : Key} {item : Item}
    (found : (ofList entries).get? key = some item) : (key, item) ∈ entries := by
  rw [get?_ofList] at found
  exact List.mem_reverse.mp (mem_of_findEntry found)

theorem get?_ofList_of_functional [Std.LawfulEqOrd Key] {entries : List (Key × Item)} {key : Key} {item : Item}
    (listed : (key, item) ∈ entries) (agree : ∀ other, (key, other) ∈ entries → other = item) :
    (ofList entries).get? key = some item := by
  rw [get?_ofList]
  exact findEntry_of_functional (List.mem_reverse.mpr listed) fun other inside =>
    agree other (List.mem_reverse.mp inside)

/-- What the map holds under a key, where the entries say one thing of it. -/
theorem get?_ofList_iff [Std.LawfulEqOrd Key] {entries : List (Key × Item)} {key : Key} {item : Item}
    {holds : Item → Prop} (listed : ∀ item, (key, item) ∈ entries ↔ holds item)
    (unique : ∀ first second, holds first → holds second → first = second) :
    (ofList entries).get? key = some item ↔ holds item := by
  constructor
  · intro found
    exact (listed item).mp (mem_of_get?_ofList found)
  · intro held
    apply get?_ofList_of_functional ((listed item).mpr held)
    intro other inside
    exact unique other item ((listed other).mp inside) held

/-- Entries with distinct keys all stay. -/
theorem mem_ofList [Std.LawfulEqOrd Key] {entries : List (Key × Item)} {entry : Key × Item}
    (distinct : (entries.map (·.1)).Nodup) : entry ∈ (ofList entries).entries ↔ entry ∈ entries := by
  rw [mem_entries_iff]
  constructor
  · exact mem_of_get?_ofList
  · intro listed
    apply get?_ofList_of_functional listed
    intro other inside
    exact congrArg Prod.snd (List.inj_on_of_nodup_map distinct inside listed rfl)

section Keyed

variable [DecidableEq Key] [Std.LawfulEqOrd Key] (view : Item → Key) (items : List Item)

/-- The items under their own keys, of several with one key the last. -/
def keyed : SortedMap Key Item := ofList (items.map fun item => (view item, item))

theorem get?_keyed (key : Key) :
    (keyed view items).get? key = items.reverse.find? fun item => decide (view item = key) := by
  rw [keyed, get?_ofList, ← List.map_reverse, findEntry_keyed]

variable {view items}

theorem mem_keyed (inside : item ∈ (keyed view items).values) : item ∈ items := by
  obtain ⟨key, found⟩ := mem_values_iff.mp inside
  rw [get?_keyed] at found
  exact List.mem_reverse.mp (List.mem_of_find?_eq_some found)

theorem key_of_mem_keyed {entry : Key × Item} (inside : entry ∈ (keyed view items).entries) : entry.1 = view entry.2 := by
  have found := mem_entries_iff.mp inside
  rw [get?_keyed] at found
  have viewed : view entry.2 = entry.1 := by simpa using List.find?_some found
  exact viewed.symm

theorem keyed_nodup (view : Item → Key) (items : List Item) : ((keyed view items).values.map view).Nodup := by
  have keys : (keyed view items).values.map view = (keyed view items).entries.map (·.1) := by
    rw [values, List.map_map]
    exact List.map_congr_left fun entry inside => (key_of_mem_keyed inside).symm
  rw [keys]
  exact (keys_pairwise _).imp fun less same => by simp [same] at less

/-- Some item of the key stays. -/
theorem exists_mem_keyed (inside : item ∈ items) : ∃ kept ∈ (keyed view items).values, view kept = view item := by
  have listed : ∃ other ∈ items.reverse, decide (view other = view item) = true :=
    ⟨item, List.mem_reverse.mpr inside, by simp⟩
  obtain ⟨kept, found⟩ := Option.isSome_iff_exists.mp (List.find?_isSome.mpr listed)
  refine ⟨kept, mem_values_iff.mpr ⟨view item, ?_⟩, by simpa using List.find?_some found⟩
  rw [get?_keyed]
  exact found

theorem filter_keyed (key : Key) : (keyed view items).values.filter (fun item => decide (view item = key)) =
    (items.reverse.find? fun item => decide (view item = key)).toList := by
  have same : (keyed view items).entries.filter (fun entry => decide (view entry.2 = key)) =
      (keyed view items).entries.filter (fun entry => decide (entry.1 = key)) := by
    apply List.filter_congr
    intro entry inside
    rw [key_of_mem_keyed inside]
  rw [values, List.filter_map]
  simp only [Function.comp_def]
  rw [same, filter_entries, get?_keyed, List.map_map]
  simp [Function.comp_def]

end Keyed

section Merged

variable [DecidableEq Key] [Std.LawfulEqOrd Key] {combine : Item → Item → Item} {entries : List (Key × Item)}

/-- The items put together from the left, if there are any. -/
def reduce (combine : Item → Item → Item) : List Item → Option Item
  | [] => none
  | item :: rest => some (rest.foldl combine item)

theorem reduce_append_singleton (items : List Item) (item : Item) : reduce combine (items ++ [item]) =
    some (match reduce combine items with
      | none => item
      | some kept => combine kept item) := by
  cases items with
  | nil => rfl
  | cons head rest => simp [reduce, List.foldl_append]

def insertMerged (combine : Item → Item → Item) (map : SortedMap Key Item) (entry : Key × Item) : SortedMap Key Item :=
  map.insert entry.1 (match map.get? entry.1 with
    | none => entry.2
    | some kept => combine kept entry.2)

/-- The items of one key are put together in the order in which they come. -/
def merged (combine : Item → Item → Item) (entries : List (Key × Item)) : SortedMap Key Item :=
  entries.foldl (insertMerged combine) empty

theorem get?_merged (key : Key) : (merged combine entries).get? key =
    reduce combine ((entries.filter fun entry => decide (entry.1 = key)).map (·.2)) := by
  induction entries using List.reverseRecOn with
  | nil => rfl
  | append_singleton earlier last ih =>
    have extended : merged combine (earlier ++ [last]) = insertMerged combine (merged combine earlier) last := by
      simp [merged, List.foldl_append]
    rw [extended, insertMerged, List.filter_append, List.map_append]
    by_cases same : last.1 = key
    · subst same
      rw [get?_insert_self, ih, List.filter_cons_of_pos (by simp), List.filter_nil, List.map_singleton,
        reduce_append_singleton]
    · rw [get?_insert_other _ _ (Ne.symm same), ih, List.filter_cons_of_neg (by simp [same]), List.filter_nil,
        List.map_nil, List.append_nil]

/-- An item under a new key is put beside those that are there. -/
theorem values_merged_append {combine : Item → Item → Item}
    (fresh : ∀ entry ∈ entries, entry.1 ≠ key) :
    (merged combine (entries ++ [(key, item)])).values.Perm (item :: (merged combine entries).values) := by
  have absent : (merged combine entries).get? key = none := by
    have none : entries.filter (fun entry => decide (entry.1 = key)) = [] := by simpa using fresh
    rw [get?_merged, none]
    rfl
  have extended : merged combine (entries ++ [(key, item)]) = insertMerged combine (merged combine entries) (key, item) := by
    simp [merged, List.foldl_append]
  rw [extended, insertMerged, absent]
  exact (insertEntry_perm absent).map _

theorem key_of_mem_merged {entry : Key × Item} (inside : entry ∈ (merged combine entries).entries) :
    ∃ given ∈ entries, given.1 = entry.1 := by
  rw [mem_entries_iff, get?_merged] at inside
  cases chosen : entries.filter fun given => decide (given.1 = entry.1) with
  | nil => simp [chosen, reduce] at inside
  | cons head rest =>
    have kept : head ∈ entries.filter fun given => decide (given.1 = entry.1) := chosen ▸ List.mem_cons_self
    obtain ⟨listed, same⟩ := List.mem_filter.mp kept
    exact ⟨head, listed, of_decide_eq_true same⟩

/-- The items under their keys, in the order in which they come. -/
def grouped {Value : Type v} (pairs : List (Key × Value)) : SortedMap Key (List Value) :=
  merged (· ++ ·) (pairs.map fun pair => (pair.1, [pair.2]))

theorem get?_grouped {Value : Type v} {pairs : List (Key × Value)} (key : Key) (values : List Value) :
    (grouped pairs).get? key = some values ↔
      values ≠ [] ∧ values = (pairs.filter fun pair => decide (pair.1 = key)).map (·.2) := by
  have singletons : ∀ items : List Value, reduce (· ++ ·) (items.map fun item => [item]) =
      if items = [] then none else some items := by
    intro items
    induction items using List.reverseRecOn with
    | nil => rfl
    | append_singleton earlier last ih =>
      rw [List.map_append, List.map_singleton, reduce_append_singleton, ih]
      by_cases none : earlier = []
      · simp [none]
      · simp [none]
  have listed : ((pairs.map fun pair => (pair.1, [pair.2])).filter fun entry => decide (entry.1 = key)).map (·.2) =
      ((pairs.filter fun pair => decide (pair.1 = key)).map (·.2)).map fun item => [item] := by
    rw [List.filter_map, List.map_map, List.map_map]
    rfl
  rw [grouped, get?_merged, listed, singletons]
  split
  next empty => simp [empty]
  next filled =>
    rw [Option.some.injEq]
    exact ⟨fun same => ⟨same ▸ filled, same.symm⟩, fun same => same.2.symm⟩

theorem mem_grouped {Value : Type v} {pairs : List (Key × Value)} {key : Key} {values : List Value} {value : Value}
    (found : (grouped pairs).get? key = some values) : value ∈ values ↔ (key, value) ∈ pairs := by
  rw [((get?_grouped key values).mp found).2]
  simp

theorem get?_grouped_isSome {Value : Type v} {pairs : List (Key × Value)} {key : Key} {value : Value}
    (listed : (key, value) ∈ pairs) : ∃ values, (grouped pairs).get? key = some values := by
  refine ⟨_, (get?_grouped key _).mpr ⟨?_, rfl⟩⟩
  have inside : value ∈ (pairs.filter fun pair => decide (pair.1 = key)).map (·.2) := by simpa using listed
  exact List.ne_nil_of_mem inside

end Merged

/-- Erasing an inserted key restores the map that did not hold it. -/
theorem erase_insert (map : SortedMap Key Item) (key : Key) (item : Item)
    (absent : map.get? key = none) : (map.insert key item).erase key = map :=
  ext (eraseEntry_insertEntry absent)

end SortedMap

end DataMax.Library
