import TodoMarkers.Proofs.Workspace.StepLimit

/-! A scan finds and asks for exactly what the recursion over directories does, on every file system
on which the traversal ends. -/

namespace TodoMarkers

namespace Workspace

variable {workspace : Workspace} {grammar : Grammar} {options : ScanOptions} {depth : Nat}
  {found : Scan} {roots : List Path}

/-- Each root by itself asks for no more than all of them together. -/
theorem length_visits_le_of_mem {visits : List Visit} {visit : Visit} {one : Scan}
    (explored : workspace.exploreAll grammar options depth visits = some found)
    (member : visit ∈ visits)
    (mine : workspace.exploreVisit grammar options depth visit = some one) :
    one.visits.length ≤ found.visits.length := by
  -- The root is the first of the visits, or one of those behind it.
  induction visits generalizing found with
  | nil => simp at member
  | cons first rest ih =>
    obtain ⟨head, later, its, others, rfl⟩ := exploreAll_cons_eq_some_iff.1 explored
    have whole : (head.andThen later).visits.length =
        head.visits.length + later.visits.length := List.length_append
    rw [whole]
    rcases List.mem_cons.1 member with rfl | member
    · obtain rfl := Option.some.inj (its.symm.trans mine)
      exact Nat.le_add_right _ _
    · exact Nat.le_trans (ih others member) (Nat.le_add_left _ _)

/-- Traversals of the roots one after the other make the visits of the recursion, if each of them
has steps enough. -/
theorem flatMap_trace_eq_visits {limit : Nat}
    (explored : workspace.exploreAll grammar options depth (roots.map .directory) = some found)
    (enough : ∀ root ∈ roots, ∀ one,
      workspace.exploreVisit grammar options depth (.directory root) = some one →
        one.visits.length ≤ limit) :
    roots.flatMap (fun root => workspace.trace options limit [.directory root]) = found.visits := by
  -- Each root has a limit of its own, so the limits need not add up.
  induction roots generalizing found with
  | nil => exact Option.some.inj explored ▸ rfl
  | cons root rest ih =>
    obtain ⟨first, later, one, others, rfl⟩ := exploreAll_cons_eq_some_iff.1 explored
    have short := enough root (by simp) first one
    rw [← exploreAll_singleton] at one
    rw [List.flatMap_cons, trace_eq_visits one short,
      ih others fun other member => enough other (List.mem_cons_of_mem _ member)]
    rfl

/-- The roots are explored like visits that lie side by side. -/
theorem exploreRoots_eq : workspace.exploreRoots grammar options depth =
    workspace.exploreAll grammar options depth (options.roots.map .directory) := by
  -- A root is visited as a directory.
  rw [exploreAll, List.map_map]
  rfl

/-- With steps enough for each root a scan is what the recursion finds. -/
theorem scan_eq_of_enough (explored : workspace.exploreRoots grammar options depth = some found)
    (enough : ∀ root ∈ options.roots, ∀ one,
      workspace.exploreVisit grammar options depth (.directory root) = some one →
        one.visits.length ≤ workspace.stepLimit) :
    workspace.scan grammar options = found := by
  -- The records are those of the visits, and the visits are the same.
  rw [exploreRoots_eq] at explored
  have same := flatMap_trace_eq_visits explored enough
  rw [scan, visits, same, ← records_eq_flatMap explored]

/-- Some visits are explored to an end if and only if the loop ends for each of them. -/
theorem exists_exploreAll_iff {visits : List Visit} :
    (∃ depth found, workspace.exploreAll grammar options depth visits = some found) ↔
      ∀ visit ∈ visits, ∃ steps, (workspace.step options)^[steps] [visit] = [] := by
  -- Loop and recursion make the same visits, so each bounds the other.
  constructor
  · -- The loop ends when it has made the visits of the recursion.
    rintro ⟨depth, found, explored⟩
    induction visits generalizing found with
    | nil => simp
    | cons visit rest ih =>
      obtain ⟨first, later, one, others, -⟩ := exploreAll_cons_eq_some_iff.1 explored
      rw [← exploreAll_singleton] at one
      have ends := (performs_visits one []).2
      intro other member
      rcases List.mem_cons.1 member with rfl | member
      · exact ⟨first.visits.length, ends⟩
      · exact ih later others other member
  · -- Each visit comes with a bound of its own.
    intro ends
    induction visits with
    | nil => exact ⟨0, .nothing, rfl⟩
    | cons visit rest ih =>
      obtain ⟨steps, empty⟩ := ends visit List.mem_cons_self
      have single : ∃ first, workspace.exploreVisit grammar options steps visit = some first :=
        exists_exploreVisit_of_ends empty visit (List.mem_singleton_self visit)
      obtain ⟨first, one⟩ := single
      obtain ⟨depth, later, others⟩ := ih fun other member =>
        ends other (List.mem_cons_of_mem _ member)
      -- The larger of the two bounds serves for all of them.
      rw [← exploreAll_singleton] at one
      have here := exploreAll_deeper (Nat.le_max_left steps depth) one
      have there := exploreAll_deeper (Nat.le_max_right steps depth) others
      rw [exploreAll_singleton] at here
      exact ⟨max steps depth, _,
        exploreAll_cons_eq_some_iff.2 ⟨first, later, here, there, rfl⟩⟩

/-- A scan is exactly what the recursion over directories finds and asks for.

The loop over the stack ends for every root if and only if the recursion does. Where it ends, the
scan has the records and the visits of the recursion in its order, provided that the step limit does
not cut the traversal off, and the limit of a finite file system never does. The order in which a
directory is taken is the one that is ascending by names and keeps entries of one name as they are
listed. -/
theorem scan_eq_recursion (grammar : Grammar) (options : ScanOptions) :
    (∀ workspace : Workspace,
      (∃ depth found, workspace.exploreRoots grammar options depth = some found) ↔
        ∀ root ∈ options.roots, ∃ steps,
          (workspace.step options)^[steps] [.directory root] = []) ∧
    (∀ (workspace : Workspace) (depth : Nat) (found : Scan),
      workspace.exploreRoots grammar options depth = some found →
        found.visits.length ≤ workspace.stepLimit → workspace.scan grammar options = found) ∧
    (∀ (tree : FileTree) (depth : Nat) (found : Scan),
      tree.workspace.exploreRoots grammar options depth = some found →
        tree.workspace.scan grammar options = found) ∧
    ∀ entries ordered, ordered = sortEntries entries ↔ InNameOrder entries ordered := by
  -- The first part is the law for visits, taken at the roots, and the others rest on it.
  refine ⟨?_, ?_, ?_, ?_⟩
  · intro workspace
    simp only [exploreRoots_eq, exists_exploreAll_iff, List.forall_mem_map]
  · intro workspace depth found explored short
    refine scan_eq_of_enough explored fun root member one mine => ?_
    rw [exploreRoots_eq] at explored
    exact Nat.le_trans
      (length_visits_le_of_mem explored (List.mem_map_of_mem member) mine) short
  · intro tree depth found explored
    exact scan_eq_of_enough explored fun root _ one mine =>
      FileTree.length_visits_le_stepLimit mine
  · intro entries ordered
    exact eq_sortEntries_iff

/-- A directory that is skipped and one that cannot be listed, a file that cannot be read, and a
marker in a file that can. -/
theorem scan_eq_recursion_nested :
    let tree : FileTree :=
  -- The recursion is followed by hand, and the law turns its outcome into the scan.
      { directories :=
          [("src", [⟨"b.rs", .file⟩, ⟨"a", .directory⟩]),
           ("src/a", [⟨"out", .directory⟩, ⟨"c.md", .file⟩])]
        files := [("src/b.rs", "TODO one")] }
    let options : ScanOptions := ⟨["src", "gone"], ["out"], [".rs", ".md"]⟩
    let found : Scan :=
      ⟨[⟨{ text := "one", rawText := "one" }, "src/b.rs", 0⟩],
       [.directory "src", .directory "src/a", .file "src/a/c.md", .file "src/b.rs",
        .directory "gone"]⟩
    tree.workspace.exploreRoots .standard options 2 = some found ∧
      tree.workspace.scan .standard options = found := by
  intro tree options found
  -- The inner directory comes first, because its name is the smaller one.
  have inner : tree.workspace.explore .standard options 1 "src/a" =
      some ⟨[], [.directory "src/a", .file "src/a/c.md"]⟩ := by
    have listed : tree.workspace.list? "src/a" = some [⟨"out", .directory⟩, ⟨"c.md", .file⟩] := by
      decide
    rw [explore, listed]
    dsimp only
    rw [sortEntries_pair (by decide)]
    decide +kernel
  have outer : tree.workspace.explore .standard options 2 "src" =
      some ⟨found.records,
        [.directory "src", .directory "src/a", .file "src/a/c.md", .file "src/b.rs"]⟩ := by
    have listed : tree.workspace.list? "src" = some [⟨"b.rs", .file⟩, ⟨"a", .directory⟩] := by
      decide
    have kept : options.ignores "a" = false := by decide
    have path : Path.join "src" "a" = "src/a" := by decide
    rw [explore, listed]
    dsimp only
    rw [sortEntries_pair (by decide), List.map_cons, exploreEntry, kept, path, inner]
    decide +kernel
  have gone : tree.workspace.explore .standard options 2 "gone" = some ⟨[], [.directory "gone"]⟩ := by
    decide
  have explored : tree.workspace.exploreRoots .standard options 2 = some found := by
    simp only [exploreRoots, options, List.map_cons, List.map_nil, outer, gone]
    rfl
  exact ⟨explored, (scan_eq_recursion .standard options).2.2.1 tree 2 found explored⟩

end Workspace

end TodoMarkers
