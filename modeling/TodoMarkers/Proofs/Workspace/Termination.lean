import Mathlib.Algebra.Order.BigOperators.Group.List
import Mathlib.Algebra.Order.Ring.Nat
import TodoMarkers.Proofs.Workspace.Reach

/-! The loop of a scan ends on every finite file system whose names make paths longer: the paths
that wait on the stack have less and less room below the longest path that can be listed. -/

namespace TodoMarkers

open Workspace

variable {options : ScanOptions} {path : Path} {entries : List Entry} {visit next : Visit}
  {stack : List Visit}

namespace Workspace

/-- The names that directories list make paths longer: none of them is empty or absolute. -/
def LengtheningNames (workspace : Workspace) : Prop :=
  ∀ path entries, workspace.list? path = some entries → ∀ entry ∈ entries,
    entry.name ≠ "" ∧ Path.isAbsolute entry.name = false

variable {workspace : Workspace}

/-- Plain names make paths longer. -/
theorem PlainNames.lengthening (plain : workspace.PlainNames) : workspace.LengtheningNames := by
  -- A plain name is neither empty nor absolute.
  intro path entries listed entry inside
  have name := plain path entries listed entry inside
  exact ⟨name.nonempty, name.relative⟩

/-- Whatever a visit leads to has a longer path, also where a name leads upwards. -/
theorem length_path_lt_of_mem_opened (lengthening : workspace.LengtheningNames)
    (member : next ∈ workspace.opened options visit) :
    visit.path.toList.length < next.path.toList.length := by
  -- Joining a name that is neither empty nor absolute adds characters.
  obtain ⟨entries, listed, entry, inside, joined⟩ := exists_entry_of_mem_opened member
  obtain ⟨nonempty, relative⟩ := lengthening visit.path entries listed entry inside
  rw [joined]
  exact Path.length_lt_length_join nonempty relative

end Workspace

namespace FileTree

variable {tree : FileTree}

/-- The length of the longest path of a directory. -/
def longest (tree : FileTree) : Nat :=
  (tree.directories.map fun directory => directory.1.toList.length).max?.getD 0

/-- Longer paths cannot be listed. -/
theorem length_le_longest (listed : tree.workspace.list? path = some entries) :
    path.toList.length ≤ tree.longest :=
  -- The longest path is the largest of the lengths.
  List.le_max?_getD_of_mem (List.mem_map.2 ⟨(path, entries), mem_directories listed, rfl⟩)

/-- How much longer paths can become below a visit until none of them can be listed. -/
def room (tree : FileTree) (visit : Visit) : Nat :=
  tree.longest + 1 - visit.path.toList.length

/-- The work that waits on a stack: for each visit a full tree, with a level for each character that
there is room for. -/
def work (tree : FileTree) (stack : List Visit) : Nat :=
  (stack.map fun visit => tree.fullSize (tree.room visit)).sum

/-- The work of two stacks adds up. -/
theorem work_append (tree : FileTree) (stack rest : List Visit) :
    tree.work (stack ++ rest) = tree.work stack + tree.work rest := by
  -- The work is a sum over the stack.
  rw [work, List.map_append, List.sum_append, work, work]

/-- The visit on top of a stack adds its own full tree. -/
theorem work_cons (tree : FileTree) (visit : Visit) (rest : List Visit) :
    tree.work (visit :: rest) = tree.fullSize (tree.room visit) + tree.work rest := by
  -- The work is a sum, and the top of the stack is its first term.
  rw [work, List.map_cons, List.sum_cons, work]

/-- There is less room below what a visit leads to than below the visit. -/
theorem room_lt_of_mem_opened (lengthening : tree.workspace.LengtheningNames)
    (member : next ∈ tree.workspace.opened options visit) : tree.room next < tree.room visit := by
  -- Room is what is left up to the longest path that can be listed.
  have longer := length_path_lt_of_mem_opened lengthening member
  -- The directory has been listed, so there was room for one character at least.
  obtain ⟨entries, listed, _⟩ := exists_entry_of_mem_opened member
  have short := length_le_longest listed
  unfold room
  omega

/-- All that a visit leads to is less work than the visit itself. -/
theorem work_opened_lt (lengthening : tree.workspace.LengtheningNames) (visit : Visit) :
    tree.work (tree.workspace.opened options visit) < tree.fullSize (tree.room visit) := by
  -- Each of the next visits has one level less, and there are at most as many as the widest listing
  -- has.
  cases left : tree.room visit with
  | zero =>
    -- Without room the visit leads to nothing.
    have nothing : tree.workspace.opened options visit = [] := by
      rw [List.eq_nil_iff_forall_not_mem]
      intro next member
      have less := room_lt_of_mem_opened lengthening member
      omega
    rw [nothing]
    exact tree.fullSize_pos 0
  | succ levels =>
    have each : ∀ size ∈ (tree.workspace.opened options visit).map fun next =>
        tree.fullSize (tree.room next), size ≤ tree.fullSize levels := by
      intro size member
      obtain ⟨next, opened, rfl⟩ := List.mem_map.1 member
      have less := room_lt_of_mem_opened lengthening opened
      exact tree.fullSize_le (by omega)
    have whole := List.sum_le_card_nsmul _ _ each
    rw [List.length_map, Nat.nsmul_eq_mul] at whole
    calc tree.work (tree.workspace.opened options visit)
        ≤ (tree.workspace.opened options visit).length * tree.fullSize levels := whole
      _ ≤ tree.widest * tree.fullSize levels := Nat.mul_le_mul_right _ (length_opened_le visit)
      _ < tree.fullSize (levels + 1) := tree.fullSize_succ levels

/-- Each step of the loop leaves less work. -/
theorem work_step_lt (lengthening : tree.workspace.LengtheningNames) (visit : Visit)
    (rest : List Visit) :
    tree.work (tree.workspace.step options (visit :: rest)) < tree.work (visit :: rest) := by
  -- The visit on top is replaced by what it leads to, which is less work.
  rw [step, work_append, work_cons]
  exact Nat.add_lt_add_right (work_opened_lt lengthening visit) _

/-- As many steps as there is work empty the stack. -/
theorem iterate_step_eq_nil (lengthening : tree.workspace.LengtheningNames) {steps : Nat}
    (enough : tree.work stack ≤ steps) : (tree.workspace.step options)^[steps] stack = [] := by
  -- Induction on the steps, each of which takes some of the work.
  induction steps generalizing stack with
  | zero =>
    cases stack with
    | nil => rfl
    | cons visit rest =>
      -- No visit is without work.
      have positive := tree.fullSize_pos (tree.room visit)
      rw [work_cons] at enough
      omega
  | succ steps ih =>
    cases stack with
    | nil => exact iterate_step_nil _
    | cons visit rest =>
      have less : tree.work (tree.workspace.step options (visit :: rest)) <
          tree.work (visit :: rest) := work_step_lt lengthening visit rest
      rw [Function.iterate_succ_apply]
      exact ih (by omega)

/-- Where names are plain, a scan is what the recursion finds, and the recursion finds something. -/
theorem exists_scan_eq (grammar : Grammar) (options : ScanOptions)
    (plain : tree.workspace.PlainNames) : ∃ depth found,
      tree.workspace.exploreAll grammar options depth (options.roots.map .directory) = some found ∧
        tree.workspace.scan grammar options = found := by
  -- Each root by itself comes to its end.
  have ends : ∀ visit ∈ options.roots.map Visit.directory, ∃ steps,
      (tree.workspace.step options)^[steps] [visit] = [] := fun visit _ =>
    ⟨tree.work [visit], iterate_step_eq_nil plain.lengthening (Nat.le_refl _)⟩
  obtain ⟨depth, found, explored⟩ := exists_exploreAll_iff.2 ends
  exact ⟨depth, found, explored, scan_eq_of_explored explored⟩

/-- The loop of a scan empties its stack for every root, if no listed name is empty or absolute.

Listed directories may be missing, and names may repeat, lead upwards or hold slashes. The loop
makes finitely many visits, no more than the step limit, and with steps enough for them it makes
these visits and no other ones. -/
theorem loop_ends (tree : FileTree) (options : ScanOptions)
    (lengthening : tree.workspace.LengtheningNames) :
    ∀ root ∈ options.roots, ∃ visits : List Visit,
      (tree.workspace.step options)^[visits.length] [.directory root] = [] ∧
      visits.length ≤ tree.workspace.stepLimit ∧
      ∀ limit, visits.length ≤ limit →
        tree.workspace.trace options limit [.directory root] = visits := by
  -- The work of the root is finite, so the loop ends, and then the recursion says what it has
  -- visited.
  intro root _
  have ends : (tree.workspace.step options)^[tree.work [.directory root]] [.directory root] = [] :=
    iterate_step_eq_nil lengthening (Nat.le_refl _)
  -- A loop that ends makes the visits of the recursion, whatever it takes for a marker.
  obtain ⟨depth, found, explored⟩ : ∃ depth found,
      tree.workspace.exploreAll .standard options depth [.directory root] = some found := by
    refine exists_exploreAll_iff.2 fun visit member => ?_
    obtain rfl := List.mem_singleton.1 member
    exact ⟨_, ends⟩
  have performed := performs_visits explored []
  rw [List.append_nil] at performed
  have short : found.visits.length ≤ tree.workspace.stepLimit := by
    rw [exploreAll_singleton] at explored
    exact length_visits_le_stepLimit explored
  exact ⟨found.visits, performed.2, short, fun limit enough => trace_eq_visits explored enough⟩

/-- A directory that lists one name twice, a name that leads upwards and on to a directory that
lists the first one again, a name with a slash in it, and one that is missing. -/
theorem loop_ends_upwards :
    let tree : FileTree :=
  -- No listed name is empty or absolute, which is all that the law asks for.
      { directories :=
          [("a", [⟨"..", .directory⟩, ⟨"..", .directory⟩, ⟨"b/c", .directory⟩, ⟨"d", .directory⟩]),
           ("a/..", [⟨"a", .directory⟩, ⟨"e.rs", .file⟩]),
           ("a/../a", [⟨"..", .directory⟩]),
           ("a/b/c", [⟨"f.rs", .file⟩])]
        files := [("a/b/c/f.rs", "TODO one")] }
    let options : ScanOptions := ⟨["a", "gone"], [], [".rs"]⟩
    tree.workspace.LengtheningNames ∧
      ∀ root ∈ ["a", "gone"], ∃ visits : List Visit,
        (tree.workspace.step options)^[visits.length] [.directory root] = [] ∧
        visits.length ≤ tree.workspace.stepLimit ∧
        ∀ limit, visits.length ≤ limit →
          tree.workspace.trace options limit [.directory root] = visits := by
  intro tree options
  have lengthening : tree.workspace.LengtheningNames := fun path entries listed =>
    (show ∀ directory ∈ tree.directories, ∀ entry ∈ directory.2,
        entry.name ≠ "" ∧ Path.isAbsolute entry.name = false by decide)
      (path, entries) (mem_directories listed)
  exact ⟨lengthening, loop_ends tree options lengthening⟩

end FileTree

end TodoMarkers
