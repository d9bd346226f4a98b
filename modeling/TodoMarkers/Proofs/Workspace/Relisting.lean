import Mathlib.Data.List.Nodup
import TodoMarkers.Proofs.Workspace.Termination

/-! The order in which directories list their entries is no matter for a scan: the loop has the same
stack after every step, whatever shape the directories make. -/

namespace TodoMarkers

namespace Workspace

/-- Listings are sorted alike exactly if each name has the same entries in both, in one order. -/
theorem sortEntries_eq_iff {entries other : List Entry} :
    sortEntries other = sortEntries entries ↔
      ∀ name, other.filter (·.name = name) = entries.filter (·.name = name) := by
  -- A sorted list is settled by the groups of its names.
  constructor
  · intro same name
    rw [← filter_sortEntries, same, filter_sortEntries]
  · intro groups
    exact eq_sortEntries_iff.2 ⟨sortEntries_ascending other, fun name => by
      rw [filter_sortEntries, groups]⟩

/-- Entries with names of their own are sorted alike in whatever order they are listed. -/
theorem sortEntries_eq_of_perm {entries other : List Entry} (same : entries.Perm other)
    (distinct : (entries.map Entry.name).Nodup) : sortEntries other = sortEntries entries := by
  -- Listings with the same groups are sorted alike, so one name is looked at at a time.
  refine sortEntries_eq_iff.2 fun name => ?_
  have group : (entries.filter (·.name = name)).Perm (other.filter (·.name = name)) :=
    same.filter _
  -- No two entries share a name, so there is nothing to rearrange in its group.
  have few : (entries.filter (·.name = name)).length ≤ 1 := by
    rw [← List.countP_eq_length_filter]
    have once := List.nodup_iff_count_le_one.1 distinct name
    rw [List.count_eq_countP, List.countP_map] at once
    simpa [Function.comp_def, beq_eq_decide] using once
  rcases Nat.le_one_iff_eq_zero_or_eq_one.1 few with none | one
  · rw [List.length_eq_zero_iff] at none
    rw [none] at group ⊢
    exact group.nil_eq.symm
  · obtain ⟨entry, alone⟩ := List.length_eq_one_iff.1 one
    rw [alone] at group ⊢
    exact (List.singleton_perm.1 group).symm

/-- Two workspaces that differ only in the order in which directories list their entries, no two of
which have one name. -/
structure Relists (first second : Workspace) : Prop where
  /-- A directory lists the same entries in both, or can be listed in neither. -/
  listed : ∀ path, Option.Rel List.Perm (first.list? path) (second.list? path)
  /-- No name is listed twice. -/
  distinct : ∀ path entries, first.list? path = some entries → (entries.map Entry.name).Nodup
  /-- Files are read alike. -/
  read : ∀ path, second.read? path = first.read? path

namespace Relists

variable {first second : Workspace} {grammar : Grammar} {options : ScanOptions} {depth : Nat}
  {found : Scan} {visits : List Visit}

/-- Each visit leads to the same visits in the same order. -/
theorem opened_eq (relists : Relists first second) (options : ScanOptions) (visit : Visit) :
    second.opened options visit = first.opened options visit := by
  -- A directory is listed in both workspaces or in neither.
  cases visit with
  | file path => rfl
  | directory path =>
    have listed := relists.listed path
    rw [opened, opened]
    cases entries : first.list? path with
    | none =>
      rw [entries] at listed
      cases other : second.list? path with
      | none => rfl
      | some _ => simp [other] at listed
    | some entries' =>
      rw [entries] at listed
      cases other : second.list? path with
      | none => simp [other] at listed
      | some others =>
        rw [other, Option.rel_some_some] at listed
        simp only [sortEntries_eq_of_perm listed (relists.distinct path entries' entries)]

/-- Each visit finds the same records. -/
theorem recordsAt_eq (relists : Relists first second) (grammar : Grammar) (visit : Visit) :
    second.recordsAt grammar visit = first.recordsAt grammar visit := by
  -- Files are read alike, whatever the directories list.
  cases visit with
  | directory path => rfl
  | file path => rw [recordsAt, recordsAt, relists.read]

/-- A step of the loop leaves the same stack. -/
theorem step_eq (relists : Relists first second) (options : ScanOptions) :
    second.step options = first.step options := by
  -- The step opens the visit on top, and the rest of the stack stays.
  funext stack
  cases stack with
  | nil => rfl
  | cons visit rest => rw [step, step, relists.opened_eq]

/-- Any number of steps makes the same visits. -/
theorem trace_eq (relists : Relists first second) (options : ScanOptions) (steps : Nat)
    (stack : List Visit) :
    second.trace options steps stack = first.trace options steps stack := by
  -- Both loops turn to the same stack after the visit on top.
  induction steps generalizing stack with
  | zero => rfl
  | succ steps ih =>
    cases stack with
    | nil => rfl
    | cons visit rest => rw [trace, trace, relists.opened_eq, ih]

/-- The recursion finds the same. -/
theorem exploreAll_eq_some (relists : Relists first second)
    (explored : first.exploreAll grammar options depth visits = some found) :
    second.exploreAll grammar options depth visits = some found := by
  -- Induction along the recursion, which opens the same visits in both workspaces.
  refine explored_induction (P := fun depth visits found =>
    second.exploreAll grammar options depth visits = some found) ?_ ?_ ?_ ?_ explored
  · intro depth
    rfl
  · intro depth visit rest early later one others
    rw [exploreAll_singleton] at one
    exact exploreAll_cons_eq_some_iff.2 ⟨early, later, one, others, rfl⟩
  · intro depth path
    rw [exploreAll_singleton, exploreVisit, exploreFile, exploreFile, relists.read]
  · intro depth path found _ below
    rw [← relists.opened_eq] at below
    rw [exploreAll_singleton, exploreVisit, explore_succ, below, Option.map_some]

/-- Under one step limit the scans are the same. -/
theorem scan_eq (relists : Relists first second) (grammar : Grammar) (options : ScanOptions)
    (limit : second.stepLimit = first.stepLimit) :
    second.scan grammar options = first.scan grammar options := by
  -- A scan is its visits and their records, and both are the same.
  have visits : second.visits options = first.visits options := by
    rw [Workspace.visits, Workspace.visits, limit]
    exact List.flatMap_congr fun root _ => relists.trace_eq options _ _
  have records : second.recordsAt grammar = first.recordsAt grammar :=
    funext (relists.recordsAt_eq grammar)
  rw [scan, scan, visits, records]

end Relists

/-- The order in which directories list their entries changes neither the records nor the visits of
a scan, nor the order of either.

The loop over the stack does the same in both workspaces, step by step and from every stack, so that
it ends in both or in neither, and each visit finds the same records. Both scans are the same under
one step limit; and on finite file systems they are the same under the limit of each, wherever the
loop ends. -/
theorem scan_of_relists (grammar : Grammar) (options : ScanOptions) :
    (∀ first second : Workspace, Relists first second →
      (∀ steps stack,
        (second.step options)^[steps] stack = (first.step options)^[steps] stack ∧
          second.trace options steps stack = first.trace options steps stack) ∧
      (∀ visit, second.recordsAt grammar visit = first.recordsAt grammar visit) ∧
      (second.stepLimit = first.stepLimit →
        second.scan grammar options = first.scan grammar options)) ∧
    ∀ first second : FileTree, Relists first.workspace second.workspace →
      (∀ root ∈ options.roots, ∃ steps,
        (first.workspace.step options)^[steps] [.directory root] = []) →
      second.workspace.scan grammar options = first.workspace.scan grammar options := by
  -- The loop opens and reads alike, step by step, and the limit cuts off neither scan.
  constructor
  · intro first second relists
    refine ⟨fun steps stack => ⟨?_, relists.trace_eq options steps stack⟩,
      relists.recordsAt_eq grammar, relists.scan_eq grammar options⟩
    rw [relists.step_eq]
  · intro first second relists ends
    -- Both scans are what the recursion finds.
    obtain ⟨depth, found, explored⟩ := exists_exploreAll_iff.2
      (show ∀ visit ∈ options.roots.map Visit.directory, ∃ steps,
          (first.workspace.step options)^[steps] [visit] = [] by
        simpa only [List.forall_mem_map] using ends)
    rw [FileTree.scan_eq_of_explored explored,
      FileTree.scan_eq_of_explored (relists.exploreAll_eq_some explored)]

/-- A directory that lists its entries the other way round, with another directory among them. -/
theorem scan_of_relists_reversed :
    let inner : Path × List Entry := ("src/a", [⟨"c.md", .file⟩])
    let files : List (Path × String) := [("src/a/c.md", "TODO one"), ("src/b.rs", "TODO two")]
    let first : FileTree := ⟨[("src", [⟨"b.rs", .file⟩, ⟨"a", .directory⟩]), inner], files⟩
    let second : FileTree := ⟨[("src", [⟨"a", .directory⟩, ⟨"b.rs", .file⟩]), inner], files⟩
    let options : ScanOptions := ⟨["src"], [], [".rs", ".md"]⟩
    Relists first.workspace second.workspace ∧
      second.workspace.scan .standard options = first.workspace.scan .standard options := by
  -- The other listing is a permutation, and the names in each are distinct.
  intro inner files first second options
  have named : first.workspace.PlainNames := fun path entries listed =>
    (show ∀ directory ∈ first.directories, ∀ entry ∈ directory.2, Path.Plain entry.name by decide)
      (path, entries) (FileTree.mem_directories listed)
  have relists : Relists first.workspace second.workspace := by
    refine ⟨fun path => ?_, fun path entries listed => ?_, fun _ => rfl⟩
    · -- Only the one directory is listed in another order.
      by_cases src : path = "src"
      · subst src
        exact .some (List.Perm.swap _ _ [])
      · have other : (path == "src") = false := by simpa using src
        have alike : second.workspace.list? path = first.workspace.list? path := by
          simp [FileTree.workspace, first, second, List.lookup_cons, other]
        rw [alike]
        cases first.workspace.list? path with
        | none => exact .none
        | some entries => exact .some (.refl entries)
    · exact (show ∀ directory ∈ first.directories, (directory.2.map Entry.name).Nodup by decide)
        (path, entries) (FileTree.mem_directories listed)
  have ends : ∀ root ∈ options.roots, ∃ steps,
      (first.workspace.step options)^[steps] [.directory root] = [] := by
    obtain ⟨depth, found, explored, _⟩ := FileTree.exists_scan_eq .standard options named
    simpa using exists_exploreAll_iff.1 ⟨depth, found, explored⟩
  exact ⟨relists, (scan_of_relists .standard options).2 first second relists ends⟩

end Workspace

end TodoMarkers
