import Mathlib.Data.List.Perm.Basic

/-! Entries that are taken group by group: from each group the first ones, as many as its
quota and the room that is left allow. -/

namespace DataMax.Library

universe u v

variable {Entry : Type u} {Group : Type v} [DecidableEq Group] (group : Entry → Group)

def ofGroup (wanted : Group) (entries : List Entry) : List Entry := entries.filter fun entry => group entry = wanted

theorem mem_ofGroup {entries : List Entry} {wanted : Group} {entry : Entry} :
    entry ∈ ofGroup group wanted entries ↔ entry ∈ entries ∧ group entry = wanted := by
  rw [ofGroup, List.mem_filter, decide_eq_true_eq]

theorem ofGroup_cons (wanted : Group) (entry : Entry) (rest : List Entry) :
    ofGroup group wanted (entry :: rest) =
      if group entry = wanted then entry :: ofGroup group wanted rest else ofGroup group wanted rest := by
  rw [ofGroup, List.filter_cons]
  simp only [decide_eq_true_eq]
  rfl

theorem ofGroup_append (wanted : Group) (first second : List Entry) :
    ofGroup group wanted (first ++ second) = ofGroup group wanted first ++ ofGroup group wanted second :=
  List.filter_append ..

/-- The groups of the entries, one after the other. -/
theorem perm_groups {order : List Group} (distinct : order.Nodup) (entries : List Entry) :
    (order.flatMap fun wanted => ofGroup group wanted entries).Perm
      (entries.filter fun entry => group entry ∈ order) := by
  induction order with
  | nil => simp
  | cons wanted later ih =>
    obtain ⟨fresh, others⟩ := List.nodup_cons.mp distinct
    have parts := List.filter_append_perm (fun entry => decide (group entry = wanted))
      (entries.filter fun entry => group entry ∈ wanted :: later)
    have first : (entries.filter fun entry => group entry ∈ wanted :: later).filter
        (fun entry => decide (group entry = wanted)) = ofGroup group wanted entries := by
      rw [List.filter_filter, ofGroup]
      refine List.filter_congr fun entry _ => ?_
      by_cases same : group entry = wanted <;> simp [same]
    have second : (entries.filter fun entry => group entry ∈ wanted :: later).filter
        (fun entry => !decide (group entry = wanted)) = entries.filter fun entry => group entry ∈ later := by
      rw [List.filter_filter]
      refine List.filter_congr fun entry _ => ?_
      by_cases same : group entry = wanted
      · simp [same, fresh]
      · simp [same]
    rw [first, second] at parts
    rw [List.flatMap_cons]
    exact ((ih others).append_left _).trans parts

section Shares

variable (quota : Group → Nat) (total : Nat) (entries : List Entry)

/-- What the group gets of the entries once so many are taken. -/
def share (wanted : Group) (taken : Nat) : List Entry :=
  (ofGroup group wanted entries).take (min (quota wanted) (total - taken))

/-- The taken entries with the shares of the groups, one after the other. -/
def takeGroups : List Group → List Entry → List Entry
  | [], taken => taken
  | wanted :: later, taken => takeGroups later (taken ++ share group quota total entries wanted taken.length)

variable {group quota total entries} {order : List Group} {taken : List Entry} {wanted : Group}

theorem mem_share {entry : Entry} {count : Nat} (inside : entry ∈ share group quota total entries wanted count) :
    entry ∈ entries ∧ group entry = wanted :=
  (mem_ofGroup group).mp (List.mem_of_mem_take inside)

theorem length_share_le (count : Nat) : (share group quota total entries wanted count).length ≤ total - count := by
  rw [share, List.length_take]
  omega

theorem takeGroups_keeps (order : List Group) (taken : List Entry) :
    taken <+: takeGroups group quota total entries order taken := by
  induction order generalizing taken with
  | nil => exact List.prefix_rfl
  | cons wanted later ih =>
    rw [takeGroups]
    exact (List.prefix_append _ _).trans (ih _)

theorem takeGroups_subset (known : taken ⊆ entries) : takeGroups group quota total entries order taken ⊆ entries := by
  induction order generalizing taken with
  | nil => exact known
  | cons wanted later ih =>
    rw [takeGroups]
    exact ih (List.append_subset.mpr ⟨known, fun entry inside => (mem_share inside).1⟩)

theorem length_takeGroups_le (room : taken.length ≤ total) :
    (takeGroups group quota total entries order taken).length ≤ total := by
  induction order generalizing taken with
  | nil => exact room
  | cons wanted later ih =>
    rw [takeGroups]
    apply ih
    have bounded := @length_share_le _ _ _ group quota total entries wanted taken.length
    rw [List.length_append]
    omega

theorem ofGroup_share (wanted other : Group) (count : Nat) :
    ofGroup group other (share group quota total entries wanted count) =
      if wanted = other then share group quota total entries wanted count else [] := by
  rw [ofGroup]
  split
  · rename_i same
    exact List.filter_eq_self.mpr fun entry inside => decide_eq_true ((mem_share inside).2.trans same)
  · rename_i apart
    refine List.filter_eq_nil_iff.mpr fun entry inside equal => apart ?_
    exact (mem_share inside).2.symm.trans (of_decide_eq_true equal)

/-- The groups that get nothing keep what they have. -/
theorem ofGroup_takeGroups_other (other : wanted ∉ order) :
    ofGroup group wanted (takeGroups group quota total entries order taken) = ofGroup group wanted taken := by
  induction order generalizing taken with
  | nil => rfl
  | cons first later ih =>
    obtain ⟨apart, absent⟩ := not_or.mp (mt List.mem_cons.mpr other)
    rw [takeGroups, ih absent, ofGroup_append, ofGroup_share, if_neg (Ne.symm apart), List.append_nil]

/-- A group gets its first entries, and lacks one only where its quota or the room is used up. -/
theorem ofGroup_takeGroups (distinct : order.Nodup) (listed : wanted ∈ order)
    (untouched : ∀ other ∈ order, ofGroup group other taken = []) (room : taken.length ≤ total) :
    ∃ count ≤ quota wanted,
      ofGroup group wanted (takeGroups group quota total entries order taken) =
        (ofGroup group wanted entries).take count ∧
      (count < (ofGroup group wanted entries).length →
        count = quota wanted ∨ (takeGroups group quota total entries order taken).length = total) := by
  induction order generalizing taken with
  | nil => cases listed
  | cons first later ih =>
    obtain ⟨fresh, others⟩ := List.nodup_cons.mp distinct
    have bounded := @length_share_le _ _ _ group quota total entries first taken.length
    have fits : (taken ++ share group quota total entries first taken.length).length ≤ total := by
      rw [List.length_append]
      omega
    rw [takeGroups]
    rcases List.mem_cons.mp listed with rfl | listed
    · refine ⟨min (quota wanted) (total - taken.length), Nat.min_le_left .., ?_, fun lacking => ?_⟩
      · rw [ofGroup_takeGroups_other fresh, ofGroup_append, untouched wanted List.mem_cons_self, List.nil_append,
          ofGroup_share, if_pos rfl, share]
      · have kept := (@takeGroups_keeps _ _ _ group quota total entries later
          (taken ++ share group quota total entries wanted taken.length)).length_le
        have most := @length_takeGroups_le _ _ _ group quota total entries later _ fits
        have size : (share group quota total entries wanted taken.length).length =
            min (min (quota wanted) (total - taken.length)) (ofGroup group wanted entries).length := List.length_take
        rw [List.length_append] at kept
        omega
    · refine ih others listed (fun other inside => ?_) fits
      have apart : first ≠ other := fun same => fresh (same ▸ inside)
      rw [ofGroup_append, untouched other (List.mem_cons_of_mem _ inside), ofGroup_share, if_neg apart,
        List.nil_append]

end Shares

end DataMax.Library
