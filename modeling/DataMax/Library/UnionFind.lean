import Mathlib.Data.Fintype.Card
import Mathlib.Logic.Function.Iterate
import Mathlib.Logic.Relation

/-! A union-find forest with union by rank and path compression. What later
operations see of it are the roots and their ranks. -/

namespace DataMax.Library

variable {size : Nat}

/-- Heights grow along the parents. -/
def Climbs (height : Fin size → Nat) (parent : Fin size → Fin size) : Prop :=
  ∀ item, parent item ≠ item → height item < height (parent item)

/-- The end of the chain of parents, which is no longer than the forest. -/
def rootOf (parent : Fin size → Fin size) (item : Fin size) : Fin size := parent^[size] item

section Roots

variable {height : Fin size → Nat} {parent : Fin size → Fin size} {item : Fin size}

theorem iterate_eq_of_fixed {steps total : Nat} (fixed : parent (parent^[steps] item) = parent^[steps] item)
    (atMost : steps ≤ total) : parent^[total] item = parent^[steps] item := by
  obtain ⟨rest, same⟩ := Nat.exists_eq_add_of_le atMost
  rw [same, Nat.add_comm, Function.iterate_add_apply]
  exact Function.iterate_fixed fixed rest

/-- A chain that did not end would visit more items than there are. -/
theorem Climbs.rootOf_fixed (climbs : Climbs height parent) (item : Fin size) :
    parent (rootOf parent item) = rootOf parent item := by
  by_contra moving
  have moves : ∀ steps ≤ size, parent (parent^[steps] item) ≠ parent^[steps] item := by
    intro steps within fixed
    apply moving
    rw [rootOf, iterate_eq_of_fixed fixed within, fixed]
  have rises : ∀ first second, first < second → second ≤ size →
      height (parent^[first] item) < height (parent^[second] item) := by
    intro first second less
    induction second, less using Nat.le_induction with
    | base =>
      intro within
      rw [Function.iterate_succ_apply']
      exact climbs _ (moves first (by omega))
    | succ second _ ih =>
      intro within
      rw [Function.iterate_succ_apply']
      exact (ih (by omega)).trans (climbs _ (moves second (by omega)))
  have injective : Function.Injective fun steps : Fin (size + 1) => parent^[steps.val] item := by
    intro first second same
    have heights := congrArg height same
    rcases Nat.lt_trichotomy first.val second.val with less | equal | more
    · exact absurd heights (rises _ _ less (by omega)).ne
    · exact Fin.ext equal
    · exact absurd heights (rises _ _ more (by omega)).ne'
  have atMost := Fintype.card_le_of_injective _ injective
  simp only [Fintype.card_fin] at atMost
  omega

theorem rootOf_of_fixed (fixed : parent item = item) : rootOf parent item = item :=
  Function.iterate_fixed fixed size

theorem Climbs.rootOf_parent (climbs : Climbs height parent) (item : Fin size) :
    rootOf parent (parent item) = rootOf parent item := by
  rw [rootOf, ← Function.iterate_succ_apply, Function.iterate_succ_apply']
  exact climbs.rootOf_fixed item

theorem Climbs.le_rootOf (climbs : Climbs height parent) (item : Fin size) :
    height item ≤ height (rootOf parent item) := by
  have above : ∀ steps, height item ≤ height (parent^[steps] item) := by
    intro steps
    induction steps with
    | zero => exact le_rfl
    | succ steps ih =>
      rw [Function.iterate_succ_apply']
      by_cases fixed : parent (parent^[steps] item) = parent^[steps] item
      · rwa [fixed]
      · exact ih.trans (climbs _ fixed).le
  exact above size

/-- A function that is the same for an item and its parent, and that is the
item itself at the end of a chain, gives the roots. -/
theorem Climbs.rootOf_eq {view : Fin size → Fin size} (climbs : Climbs height parent)
    (steady : ∀ item, view (parent item) = view item) (ends : ∀ item, parent item = item → view item = item)
    (item : Fin size) : rootOf parent item = view item := by
  have kept : ∀ steps, view (parent^[steps] item) = view item := by
    intro steps
    induction steps with
    | zero => rfl
    | succ steps ih => rw [Function.iterate_succ_apply', steady, ih]
  rw [← kept size]
  exact (ends _ (climbs.rootOf_fixed item)).symm

end Roots

section Redirection

variable {height : Fin size → Nat} {parent : Fin size → Fin size} {item root child other : Fin size}

/-- An item that is given its root as its parent keeps it. -/
theorem Climbs.compress (climbs : Climbs height parent) (item : Fin size) :
    Climbs height (Function.update parent item (rootOf parent item)) := by
  intro other moves
  by_cases same : other = item
  · subst same
    simp only [Function.update_self] at moves ⊢
    have apart : parent other ≠ other := fun fixed => moves (rootOf_of_fixed fixed)
    have above := climbs.le_rootOf (parent other)
    rw [climbs.rootOf_parent] at above
    exact (climbs other apart).trans_le above
  · simp only [Function.update_of_ne same] at moves ⊢
    exact climbs other moves

theorem Climbs.rootOf_compress (climbs : Climbs height parent) (item : Fin size) :
    rootOf (Function.update parent item (rootOf parent item)) = rootOf parent := by
  funext other
  refine (climbs.compress item).rootOf_eq ?_ ?_ other
  · intro some
    by_cases same : some = item
    · rw [same, Function.update_self, rootOf_of_fixed (climbs.rootOf_fixed item)]
    · rw [Function.update_of_ne same, climbs.rootOf_parent]
  · intro some fixed
    by_cases same : some = item
    · rw [same, Function.update_self] at fixed
      rw [same, fixed]
    · rw [Function.update_of_ne same] at fixed
      exact rootOf_of_fixed fixed

/-- The tree below one root is hung under another root. -/
theorem Climbs.link (climbs : Climbs height parent) (childRoot : parent child = child)
    (otherRoot : parent other = other) (apart : child ≠ other) :
    Climbs (fun item => if rootOf parent item = other then height item + height child + 1 else height item)
      (Function.update parent child other) := by
  intro item moves
  by_cases same : item = child
  · subst same
    simp only [Function.update_self, rootOf_of_fixed childRoot, rootOf_of_fixed otherRoot, apart, if_true, if_false]
    omega
  · simp only [Function.update_of_ne same, climbs.rootOf_parent] at moves ⊢
    have higher := climbs item moves
    split <;> omega

theorem Climbs.rootOf_link (climbs : Climbs height parent) (childRoot : parent child = child)
    (otherRoot : parent other = other) (apart : child ≠ other) (item : Fin size) :
    rootOf (Function.update parent child other) item =
      if rootOf parent item = child then other else rootOf parent item := by
  refine @Climbs.rootOf_eq _ _ _ (fun item => if rootOf parent item = child then other else rootOf parent item)
    (climbs.link childRoot otherRoot apart) ?_ ?_ item
  · intro item
    by_cases same : item = child
    · rw [same, Function.update_self, rootOf_of_fixed otherRoot, rootOf_of_fixed childRoot]
      simp
    · simp only [Function.update_of_ne same, climbs.rootOf_parent]
  · intro item fixed
    by_cases same : item = child
    · rw [same, Function.update_self] at fixed
      exact False.elim (apart fixed.symm)
    · rw [Function.update_of_ne same] at fixed
      simp [rootOf_of_fixed fixed, same]

/-- The root is written back to every item of the chain. -/
def findIn : Nat → (Fin size → Fin size) → Fin size → Fin size × (Fin size → Fin size)
  | 0, parent, item => (item, parent)
  | fuel + 1, parent, item =>
    if parent item ≠ item then
      let found := findIn fuel parent (parent item)
      let compressed := Function.update found.2 item found.1
      (compressed item, compressed)
    else (parent item, parent)

theorem Climbs.findIn (climbs : Climbs height parent) {fuel : Nat} (item : Fin size)
    (reached : parent (parent^[fuel] item) = parent^[fuel] item) :
    (findIn fuel parent item).1 = rootOf parent item ∧ Climbs height (Library.findIn fuel parent item).2 ∧
      rootOf (Library.findIn fuel parent item).2 = rootOf parent := by
  induction fuel generalizing item with
  | zero => exact ⟨(rootOf_of_fixed reached).symm, climbs, rfl⟩
  | succ fuel ih =>
    rw [Library.findIn]
    by_cases fixed : parent item = item
    · simp only [fixed, ne_eq, not_true_eq_false, if_false]
      exact ⟨(rootOf_of_fixed fixed).symm, climbs, trivial⟩
    · obtain ⟨first, foundClimbs, roots⟩ := ih (parent item) reached
      have compressed := foundClimbs.compress item
      have same := foundClimbs.rootOf_compress item
      rw [roots] at compressed same
      rw [climbs.rootOf_parent] at first
      simp only [fixed, ne_eq, not_false_eq_true, if_true, Function.update_self, first]
      exact ⟨trivial, compressed, same⟩

end Redirection

/-- A forest whose chains end. -/
structure UnionFind (size : Nat) where
  parent : Fin size → Fin size
  rank : Fin size → Nat
  climbs : ∃ height, Climbs height parent

namespace UnionFind

def start : UnionFind size := ⟨id, fun _ => 0, fun _ => 0, fun _ moves => False.elim (moves rfl)⟩

def root (forest : UnionFind size) : Fin size → Fin size := rootOf forest.parent

theorem findIn_climbs (forest : UnionFind size) (item : Fin size) :
    (findIn size forest.parent item).1 = forest.root item ∧
      (∃ height, Climbs height (findIn size forest.parent item).2) ∧
      rootOf (findIn size forest.parent item).2 = forest.root := by
  obtain ⟨height, climbs⟩ := forest.climbs
  obtain ⟨first, found, roots⟩ := climbs.findIn item (climbs.rootOf_fixed item)
  exact ⟨first, ⟨height, found⟩, roots⟩

def find (forest : UnionFind size) (item : Fin size) : Fin size × UnionFind size :=
  let found := findIn size forest.parent item
  (found.1, ⟨found.2, forest.rank, (forest.findIn_climbs item).2.1⟩)

variable (forest : UnionFind size) (item : Fin size)

@[simp] theorem find_fst : (forest.find item).1 = forest.root item := (forest.findIn_climbs item).1

@[simp] theorem find_root : (forest.find item).2.root = forest.root := (forest.findIn_climbs item).2.2

@[simp] theorem find_rank : (forest.find item).2.rank = forest.rank := rfl

theorem parent_root : forest.parent (forest.root item) = forest.root item := by
  obtain ⟨height, climbs⟩ := forest.climbs
  exact climbs.rootOf_fixed item

@[simp] theorem root_root : forest.root (forest.root item) = forest.root item :=
  rootOf_of_fixed (forest.parent_root item)

@[simp] theorem start_root : (start : UnionFind size).root item = item := rootOf_of_fixed rfl

/-- The tree of one root is hung under another. -/
def link (child other : Fin size) (childRoot : forest.parent child = child)
    (otherRoot : forest.parent other = other) (apart : child ≠ other) : UnionFind size where
  parent := Function.update forest.parent child other
  rank := forest.rank
  climbs := by
    obtain ⟨height, climbs⟩ := forest.climbs
    exact ⟨_, climbs.link childRoot otherRoot apart⟩

/-- `saturating_add` of a byte. -/
def raise : UnionFind size :=
  { forest with rank := Function.update forest.rank item (min 255 (forest.rank item + 1)) }

def union (left right : Fin size) : UnionFind size :=
  let leftFound := forest.find left
  let rightFound := leftFound.2.find right
  if same : leftFound.1 = rightFound.1 then rightFound.2
  else
    have leftRoot : rightFound.2.parent leftFound.1 = leftFound.1 := by
      have fixed := rightFound.2.parent_root left
      simpa [leftFound, rightFound] using fixed
    have rightRoot : rightFound.2.parent rightFound.1 = rightFound.1 := by
      have fixed := rightFound.2.parent_root right
      simpa [leftFound, rightFound] using fixed
    match compare (rightFound.2.rank leftFound.1) (rightFound.2.rank rightFound.1) with
    | .lt => rightFound.2.link leftFound.1 rightFound.1 leftRoot rightRoot same
    | .gt => rightFound.2.link rightFound.1 leftFound.1 rightRoot leftRoot (Ne.symm same)
    | .eq => (rightFound.2.link rightFound.1 leftFound.1 rightRoot leftRoot (Ne.symm same)).raise leftFound.1

/-- The forests have the same roots of the same ranks, whatever was compressed. -/
structure Alike (forest other : UnionFind size) : Prop where
  root : forest.root = other.root
  rank : forest.rank = other.rank

variable {forest} {other : UnionFind size} {left right first second : Fin size}

theorem Alike.symm (alike : Alike forest other) : Alike other forest := ⟨alike.root.symm, alike.rank.symm⟩

theorem Alike.trans {third : UnionFind size} (alike : Alike forest other) (also : Alike other third) :
    Alike forest third := ⟨alike.root.trans also.root, alike.rank.trans also.rank⟩

theorem root_link {child hung : Fin size} (childRoot : forest.parent child = child)
    (otherRoot : forest.parent hung = hung) (apart : child ≠ hung) (item : Fin size) :
    (forest.link child hung childRoot otherRoot apart).root item =
      if forest.root item = child then hung else forest.root item := by
  obtain ⟨height, climbs⟩ := forest.climbs
  exact climbs.rootOf_link childRoot otherRoot apart item

/-- The root of the lower rank is hung under the other one, the right root under
the left one if neither is lower. -/
theorem union_root : (forest.union left right).root item =
    if forest.root left = forest.root right then forest.root item
    else if forest.rank (forest.root left) < forest.rank (forest.root right) then
      if forest.root item = forest.root left then forest.root right else forest.root item
    else if forest.root item = forest.root right then forest.root left else forest.root item := by
  by_cases same : forest.root left = forest.root right
  · simp [union, same]
  · cases order : compare (forest.rank (forest.root left)) (forest.rank (forest.root right)) with
    | lt => simp [union, same, root_link, order, Nat.compare_eq_lt.mp order]
    | eq =>
      have level := Nat.compare_eq_eq.mp order
      have raised : ∀ (grown : UnionFind size) item other, (grown.raise item).root other = grown.root other :=
        fun _ _ _ => rfl
      simp [union, same, raised, root_link, level]
    | gt =>
      have more := Nat.compare_eq_gt.mp order
      simp [union, same, order, root_link, more.not_gt]

theorem union_rank : (forest.union left right).rank =
    if forest.root left = forest.root right then forest.rank
    else if forest.rank (forest.root left) = forest.rank (forest.root right) then
      Function.update forest.rank (forest.root left) (min 255 (forest.rank (forest.root left) + 1))
    else forest.rank := by
  by_cases same : forest.root left = forest.root right
  · simp [union, same]
  · cases order : compare (forest.rank (forest.root left)) (forest.rank (forest.root right)) with
    | lt =>
      have less := Nat.compare_eq_lt.mp order
      simp [union, same, order, link, less.ne]
    | eq => simp [union, same, link, raise, Nat.compare_eq_eq.mp order]
    | gt =>
      have more := Nat.compare_eq_gt.mp order
      simp [union, same, order, link, more.ne']

/-- Uniting depends on the roots and the ranks alone. -/
theorem Alike.union (alike : Alike forest other) (left right : Fin size) :
    Alike (forest.union left right) (other.union left right) := by
  constructor
  · funext item
    simp only [union_root, alike.root, alike.rank]
  · simp only [union_rank, alike.root, alike.rank]

theorem union_alike (same : forest.root left = forest.root right) : Alike (forest.union left right) forest := by
  constructor
  · funext item
    rw [union_root, if_pos same]
  · rw [union_rank, if_pos same]

/-- One union joins the classes of its two items and no others. -/
theorem union_root_eq : (forest.union left right).root first = (forest.union left right).root second ↔
    forest.root first = forest.root second ∨
      (forest.root first = forest.root left ∧ forest.root second = forest.root right) ∨
      (forest.root first = forest.root right ∧ forest.root second = forest.root left) := by
  rw [union_root, union_root]
  by_cases same : forest.root left = forest.root right
  · simp only [same, if_true]
    grind
  · simp only [same, if_false]
    grind

section Classes

variable {pairs : List (Fin size × Fin size)}

def unite (forest : UnionFind size) (pair : Fin size × Fin size) : UnionFind size := forest.union pair.1 pair.2

/-- After all unions two items have one root if a chain of united pairs and of
earlier classes leads from the one to the other. -/
theorem foldl_unite_root : (pairs.foldl unite forest).root first = (pairs.foldl unite forest).root second ↔
    Relation.EqvGen (fun item other => forest.root item = forest.root other ∨ (item, other) ∈ pairs) first second := by
  induction pairs generalizing forest with
  | nil =>
    constructor
    · exact fun same => .rel _ _ (.inl same)
    · intro chain
      induction chain with
      | rel _ _ step => simpa using step
      | refl => rfl
      | symm _ _ _ ih => exact ih.symm
      | trans _ _ _ _ _ ih later => exact ih.trans later
  | cons pair rest ih =>
    have joined : forest.unite pair = forest.union pair.1 pair.2 := rfl
    rw [List.foldl_cons, ih, joined]
    clear ih
    constructor
    · intro chain
      induction chain with
      | rel item other step =>
        rcases step with same | listed
        · have link : Relation.EqvGen (fun item other => forest.root item = forest.root other ∨
              (item, other) ∈ pair :: rest) pair.1 pair.2 := .rel _ _ (.inr List.mem_cons_self)
          rcases union_root_eq.mp same with earlier | ⟨toLeft, toRight⟩ | ⟨toRight, toLeft⟩
          · exact .rel _ _ (.inl earlier)
          · exact ((Relation.EqvGen.rel _ _ (.inl toLeft)).trans _ _ _ link).trans _ _ _
              (.rel _ _ (.inl toRight.symm))
          · exact ((Relation.EqvGen.rel _ _ (.inl toRight)).trans _ _ _ (.symm _ _ link)).trans _ _ _
              (.rel _ _ (.inl toLeft.symm))
        · exact .rel _ _ (.inr (List.mem_cons_of_mem _ listed))
      | refl item => exact .refl item
      | symm _ _ _ back => exact .symm _ _ back
      | trans _ _ _ _ _ near far => exact .trans _ _ _ near far
    · intro chain
      refine Relation.EqvGen.mono ?_ _ _ chain
      intro item other step
      rcases step with same | listed
      · exact .inl (union_root_eq.mpr (.inl same))
      · rcases List.mem_cons.mp listed with here | later
        · exact .inl (union_root_eq.mpr (.inr (.inl (by simp [← here]))))
        · exact .inr later

theorem start_unite_root : (pairs.foldl unite start).root first = (pairs.foldl unite start).root second ↔
    Relation.EqvGen (fun item other => (item, other) ∈ pairs) first second := by
  rw [foldl_unite_root]
  constructor
  · intro chain
    induction chain with
    | rel item other step =>
      rcases step with same | listed
      · rw [start_root, start_root] at same
        exact same ▸ .refl item
      · exact .rel _ _ listed
    | refl item => exact .refl item
    | symm _ _ _ ih => exact .symm _ _ ih
    | trans _ _ _ _ _ ih later => exact .trans _ _ _ ih later
  · intro chain
    refine Relation.EqvGen.mono ?_ _ _ chain
    exact fun _ _ listed => .inr listed

theorem Alike.foldl (alike : Alike forest other) : Alike (pairs.foldl unite forest) (pairs.foldl unite other) := by
  induction pairs generalizing forest other with
  | nil => exact alike
  | cons pair rest ih => exact ih (alike.union pair.1 pair.2)

end Classes

end UnionFind

end DataMax.Library
