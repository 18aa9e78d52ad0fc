import DataMax.Domain.Text
import DataMax.Library.Separated

/-! Paths of a Unix file system by their text, as `PathBuf` has them. -/

namespace DataMax.Domain

open Library

inductive Component where
  | rootDir
  | curDir
  | parentDir
  | normal (name : String)
  deriving DecidableEq

/-- `PathBuf::push` -/
def pushPath (path segment : String) : String :=
  if startsWith segment "/" then segment
  else if path = "" || endsWith path "/" then path ++ segment
  else path ++ "/" ++ segment

/-- Empty pieces and single dots are no components. -/
def componentOf (piece : List Char) : Option Component :=
  if piece = [] ∨ piece = ['.'] then none
  else if piece = ['.', '.'] then some .parentDir
  else some (.normal (.ofList piece))

/-- `Path::components` -/
def components (path : String) : List Component :=
  let pieces := path.toList.splitOn '/'
  let start := if startsWith path "/" then [.rootDir] else if pieces.head? = some ['.'] then [.curDir] else []
  start ++ pieces.filterMap componentOf

/-- Names something in a directory. -/
structure IsName (segment : String) : Prop where
  nonempty : segment ≠ ""
  bare : '/' ∉ segment.toList
  notDot : segment ≠ "."
  notDots : segment ≠ ".."

variable {path segment : String}

theorem IsName.componentOf (name : IsName segment) : componentOf segment.toList = some (.normal segment) := by
  have empty : segment.toList ≠ [] := fun same => name.nonempty (String.toList_injective same)
  have dot : segment.toList ≠ ['.'] := fun same => name.notDot (String.toList_injective same)
  have dots : segment.toList ≠ ['.', '.'] := fun same => name.notDots (String.toList_injective same)
  rw [Domain.componentOf, if_neg (not_or.mpr ⟨empty, dot⟩), if_neg dots, String.ofList_toList]

theorem IsName.relative (name : IsName segment) : startsWith segment "/" = false := by
  rw [← Bool.not_eq_true]
  intro starts
  have begins : ['/'] <+: segment.toList := List.isPrefixOf_iff_prefix.mp starts
  exact name.bare (begins.subset (List.mem_singleton_self '/'))

theorem splitOn_slash (front back : List Char) (bare : '/' ∉ back) :
    (front ++ '/' :: back).splitOn '/' = front.splitOn '/' ++ [back] := by
  rw [List.splitOn_append_cons_self, List.splitOn_eq_singleton bare]

theorem startsWith_slash {first : Char} {rest : List Char} (shape : path.toList = first :: rest) :
    startsWith path "/" = (first == '/') := by
  rw [startsWith, shape]
  simp [List.isPrefixOf, eq_comm]

theorem head_concat (front last : List Char) :
    (front.splitOn '/' ++ [last]).head? = (front.splitOn '/').head? := by
  obtain ⟨head, others, pieces⟩ := List.exists_cons_of_ne_nil (List.splitOn_ne_nil '/' front)
  rw [pieces, List.cons_append, List.head?_cons, List.head?_cons]

/-- A name is one more component. -/
theorem components_push (name : IsName segment) : components (pushPath path segment) = components path ++ [.normal segment] := by
  have single : segment.toList.splitOn '/' = [segment.toList] := List.splitOn_eq_singleton name.bare
  have dot : segment.toList ≠ ['.'] := fun same => name.notDot (String.toList_injective same)
  have last : [segment.toList].filterMap componentOf = [.normal segment] := by
    rw [List.filterMap_cons_some name.componentOf, List.filterMap_nil]
  rw [pushPath, if_neg (Bool.eq_false_iff.mp name.relative)]
  cases shape : path.toList with
  | nil =>
    obtain rfl : path = "" := String.toList_injective shape
    have none : components "" = [] := by decide
    rw [if_pos (by simp), String.empty_append, none, components, name.relative]
    simp [single, dot, name.componentOf]
  | cons first rest =>
    have filled : path ≠ "" := fun same => by simp [same] at shape
    by_cases ends : endsWith path "/"
    · obtain ⟨front, closed⟩ := List.isSuffixOf_iff_suffix.mp ends
      have text : path.toList = front ++ '/' :: [] := closed.symm
      have joined : (path ++ segment).toList = front ++ '/' :: segment.toList := by simp [text]
      have begins : startsWith (path ++ segment) "/" = startsWith path "/" := by
        rw [startsWith_slash shape, startsWith_slash (by rw [String.toList_append, shape]; rfl)]
      rw [if_pos (by simp [ends]), components, components, begins, joined, text, splitOn_slash front _ name.bare,
        splitOn_slash front [] List.not_mem_nil]
      have none : [[]].filterMap componentOf = [] := rfl
      rw [List.filterMap_append, List.filterMap_append, last, none, head_concat, head_concat, List.append_nil,
        List.append_assoc]
    · have joined : (path ++ "/" ++ segment).toList = path.toList ++ '/' :: segment.toList := by simp
      have begins : startsWith (path ++ "/" ++ segment) "/" = startsWith path "/" := by
        rw [startsWith_slash shape, startsWith_slash (by rw [joined, shape]; rfl)]
      rw [if_neg (by simp [ends, filled]), components, components, begins, joined, splitOn_slash _ _ name.bare]
      rw [List.filterMap_append, last, head_concat, List.append_assoc]

theorem components_foldl {segments : List String} (names : ∀ segment ∈ segments, IsName segment) (path : String) :
    components (segments.foldl pushPath path) = components path ++ segments.map .normal := by
  induction segments generalizing path with
  | nil => simp
  | cons segment rest ih =>
    obtain ⟨name, later⟩ := List.forall_mem_cons.mp names
    rw [List.foldl_cons, ih later, components_push name, List.map_cons, List.append_assoc, List.singleton_append]

end DataMax.Domain
