import Mathlib.Data.List.Perm.Subperm
import TodoMarkers.Proofs.Workspace.Preorder
import TodoMarkers.Workspace.FileTree

/-! The step limit of a finite file system lets every traversal that ends come to its end. -/

namespace TodoMarkers

open Scan Workspace

variable {grammar : Grammar} {options : ScanOptions} {path : Path} {entries : List Entry}

namespace Workspace

/-- What a visit finds does not depend on the bound under which it is found. -/
theorem exploreVisit_unique {workspace : Workspace} {visit : Visit} {depth more : Nat}
    {found other : Scan}
    (explored : workspace.exploreVisit grammar options depth visit = some found)
    (again : workspace.exploreVisit grammar options more visit = some other) : found = other := by
  -- Both are found under the larger of the two bounds.
  rw [← exploreAll_singleton] at explored again
  have first := exploreAll_deeper (Nat.le_max_left depth more) explored
  have second := exploreAll_deeper (Nat.le_max_right depth more) again
  exact Option.some.inj (first.symm.trans second)

end Workspace

namespace FileTree

variable {tree : FileTree} {depth : Nat} {visits : List Visit} {found : Scan}

/-- A directory that can be listed is one of the tree's. -/
theorem mem_directories (listed : tree.directories.lookup path = some entries) :
    (path, entries) ∈ tree.directories := by
  -- What is looked up is an entry of the list.
  obtain ⟨before, after, whole, _⟩ := List.lookup_eq_some_iff.1 listed
  simp [whole]

/-- No directory leads to more visits than the widest one has entries. -/
theorem length_opened_le (visit : Visit) :
    (tree.workspace.opened options visit).length ≤ tree.widest := by
  -- The filter makes a listing no longer, and the widest one bounds them all.
  cases visit with
  | file path => exact Nat.zero_le _
  | directory path =>
    rw [opened]
    cases listed : tree.workspace.list? path with
    | none => exact Nat.zero_le _
    | some entries =>
      have narrow : entries.length ≤ tree.widest := by
        rw [widest, List.foldl_max]
        refine Nat.le_trans (List.le_max?_getD_of_mem (List.mem_map.2 ?_)) (Nat.le_max_right _ _)
        exact ⟨(path, entries), mem_directories listed, rfl⟩
      calc ((sortEntries entries).filterMap (visitOf? options path)).length
          ≤ (sortEntries entries).length := List.length_filterMap_le _ _
        _ = entries.length := List.length_mergeSort entries
        _ ≤ tree.widest := narrow

/-- The number of visits in a full tree of the widest directories, with some levels. -/
def fullSize (tree : FileTree) (levels : Nat) : Nat :=
  Nat.pow (tree.widest + 2) levels

/-- Every full tree has a visit. -/
theorem fullSize_pos (tree : FileTree) (levels : Nat) : 1 ≤ tree.fullSize levels :=
  -- A power of a positive number is positive.
  Nat.pow_pos (Nat.succ_pos _)

/-- One more level has room for a visit, and for a tree below each entry of a directory. -/
theorem fullSize_succ (tree : FileTree) (levels : Nat) :
    tree.widest * tree.fullSize levels + 1 ≤ tree.fullSize (levels + 1) := by
  -- The two entries more than the widest directory has leave room for the visit itself.
  have positive := tree.fullSize_pos levels
  have whole : tree.fullSize (levels + 1) = tree.fullSize levels * (tree.widest + 2) :=
    Nat.pow_succ _ _
  rw [whole, Nat.mul_add, Nat.mul_comm]
  omega

/-- A full tree does not get smaller by more levels. -/
theorem fullSize_le (tree : FileTree) {levels more : Nat} (deeper : levels ≤ more) :
    tree.fullSize levels ≤ tree.fullSize more :=
  -- A power of a positive number grows with its exponent.
  Nat.pow_le_pow_right (Nat.succ_pos _) deeper

/-- Directories in which a visit lies: each is listed, and asks for more than the visit does. -/
structure Above (tree : FileTree) (grammar : Grammar) (options : ScanOptions) (size : Nat)
    (above : List Path) : Prop where
  /-- They are distinct. -/
  distinct : above.Nodup
  /-- Each of them can be listed. -/
  listed : ∀ path ∈ above, path ∈ tree.directories.map Prod.fst
  /-- Each of them asks for more. -/
  larger : ∀ path ∈ above, ∀ depth found,
    tree.workspace.exploreVisit grammar options depth (.directory path) = some found →
      size < found.visits.length

/-- What lies in some directories still does if it asks for less. -/
theorem Above.smaller {size less : Nat} {above : List Path}
    (within : Above tree grammar options size above) (smaller : less ≤ size) :
    Above tree grammar options less above :=
  -- What asks for more than the larger size asks for more than the smaller one.
  ⟨within.distinct, within.listed, fun path member depth found explored =>
    Nat.lt_of_le_of_lt smaller (within.larger path member depth found explored)⟩

/-- A directory that can be listed lies in none of those that are the same, so there is room for it
among the directories of the tree. -/
theorem Above.cons {above : List Path}
    (within : Above tree grammar options (found.visits.length + 1) above)
    (listed : tree.directories.lookup path = some entries)
    (explored : tree.workspace.exploreVisit grammar options depth (.directory path) =
      some ⟨found.records, .directory path :: found.visits⟩) :
    Above tree grammar options found.visits.length (path :: above) ∧
      above.length + 1 ≤ tree.directories.length := by
  -- A directory above itself would have to ask for more visits than it does.
  have fresh : path ∉ above := fun member =>
    -- It would ask for more than itself.
    absurd (within.larger path member depth _ explored) (Nat.lt_irrefl _)
  have mine : path ∈ tree.directories.map Prod.fst :=
    List.mem_map.2 ⟨(path, entries), mem_directories listed, rfl⟩
  have distinct : (path :: above).Nodup := List.nodup_cons.2 ⟨fresh, within.distinct⟩
  have all : ∀ other ∈ path :: above, other ∈ tree.directories.map Prod.fst := by
    intro other member
    rcases List.mem_cons.1 member with rfl | member
    · exact mine
    · exact within.listed other member
  refine ⟨⟨distinct, all, ?_⟩, ?_⟩
  · intro other member more next again
    rcases List.mem_cons.1 member with rfl | member
    · rw [← exploreVisit_unique explored again]
      exact Nat.lt_succ_self _
    · exact Nat.lt_of_succ_lt (within.larger other member more next again)
  · simpa using (List.subperm_of_subset distinct all).length_le

/-- Each visit asks for at most as much as there is in a full tree of the widest directories, with a
level for each directory in which the visit does not lie yet. -/
theorem length_visits_le_fullSize
    (explored : tree.workspace.exploreAll grammar options depth visits = some found)
    {above : List Path} (within : Above tree grammar options found.visits.length above) :
    found.visits.length ≤
      visits.length * tree.fullSize (tree.directories.length - above.length) := by
  -- The directories above a visit change with each level, so they stay arbitrary.
  refine explored_induction (P := fun _ visits found => ∀ above,
    Above tree grammar options found.visits.length above → found.visits.length ≤
      visits.length * tree.fullSize (tree.directories.length - above.length))
    ?_ ?_ ?_ ?_ explored above within
  · intro depth above within
    exact Nat.zero_le _
  · intro depth visit rest first later one others above within
    have whole : (first.andThen later).visits.length =
        first.visits.length + later.visits.length := List.length_append
    rw [whole] at within ⊢
    have head := one above (within.smaller (Nat.le_add_right _ _))
    have tail := others above (within.smaller (Nat.le_add_left _ _))
    rw [List.length_cons, Nat.add_comm rest.length, Nat.add_mul]
    exact Nat.add_le_add head tail
  · intro depth path above within
    rw [visits_exploreFile, List.length_singleton, Nat.one_mul]
    exact tree.fullSize_pos _
  · intro depth path found below ih above within
    rw [List.length_singleton, Nat.one_mul, List.length_cons]
    cases listed : tree.directories.lookup path with
    | none =>
      -- The directory leads to nothing.
      have empty : tree.workspace.opened options (.directory path) = [] := by
        simp [opened, workspace, listed]
      have inner := ih above (within.smaller (Nat.le_succ _))
      rw [empty, List.length_nil, Nat.zero_mul] at inner
      rw [Nat.le_zero.1 inner]
      exact tree.fullSize_pos _
    | some entries =>
      have self : tree.workspace.exploreVisit grammar options (depth + 1) (.directory path) =
          some ⟨found.records, .directory path :: found.visits⟩ := by
        rw [exploreVisit, explore_succ, below, Option.map_some]
      obtain ⟨deeper, room⟩ := within.cons listed self
      have inner := ih _ deeper
      -- One level of the full tree is used up.
      obtain ⟨left, levels⟩ : ∃ left, tree.directories.length - above.length = left + 1 :=
        ⟨tree.directories.length - above.length - 1, by omega⟩
      rw [List.length_cons, show tree.directories.length - (above.length + 1) = left by omega]
        at inner
      rw [levels]
      calc found.visits.length + 1
          ≤ (tree.workspace.opened options (.directory path)).length * tree.fullSize left + 1 :=
            Nat.succ_le_succ inner
        _ ≤ tree.widest * tree.fullSize left + 1 :=
            Nat.succ_le_succ (Nat.mul_le_mul_right _ (length_opened_le _))
        _ ≤ tree.fullSize (left + 1) := tree.fullSize_succ left

/-- A traversal that ends makes no more visits than the step limit of the tree. -/
theorem length_visits_le_stepLimit {visit : Visit}
    (explored : tree.workspace.exploreVisit grammar options depth visit = some found) :
    found.visits.length ≤ tree.workspace.stepLimit := by
  -- A root lies in no directory, and the limit has two levels to spare.
  have outside : Above tree grammar options found.visits.length [] :=
    ⟨List.nodup_nil, by simp, by simp⟩
  rw [← exploreAll_singleton] at explored
  have most := length_visits_le_fullSize explored outside
  rw [List.length_singleton, Nat.one_mul] at most
  exact Nat.le_trans most (tree.fullSize_le (by simp))

end FileTree

end TodoMarkers
