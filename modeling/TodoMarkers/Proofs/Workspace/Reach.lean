import Mathlib.Logic.Relation
import TodoMarkers.Proofs.Path
import TodoMarkers.Proofs.Record
import TodoMarkers.Proofs.Workspace.Refinement

/-! Where a traversal comes to: if it ends, it asks for exactly what its roots lead to. -/

namespace TodoMarkers

open Scan

/-- The path that a visit asks for. -/
def Visit.path : Visit → Path
  | .directory path | .file path => path

namespace Workspace

/-- The names that directories list are plain ones. -/
def PlainNames (workspace : Workspace) : Prop :=
  ∀ path entries, workspace.list? path = some entries → ∀ entry ∈ entries, Path.Plain entry.name

/-- The visits that a visit leads to, itself and those at any depth included. -/
def LeadsTo (workspace : Workspace) (options : ScanOptions) : Visit → Visit → Prop :=
  Relation.ReflTransGen fun visit next => next ∈ workspace.opened options visit

variable {workspace : Workspace} {grammar : Grammar} {options : ScanOptions} {depth : Nat}
  {found : Scan} {path : Path} {visits : List Visit} {visit next : Visit}

/-- An entry adds a visit if it is a directory that is not skipped, or a file that is read. -/
theorem visitOf?_eq_some_iff {entry : Entry} : visitOf? options path entry = some visit ↔
    (entry.kind = .directory ∧ options.ignores entry.name = false ∧
        .directory (Path.join path entry.name) = visit) ∨
      (entry.kind = .file ∧ options.includes entry.name = true ∧
        .file (Path.join path entry.name) = visit) := by
  -- The kinds are gone through, and each has one flag that decides.
  rw [visitOf?]
  cases entry.kind with
  | directory => cases options.ignores entry.name <;> simp
  | file => cases options.includes entry.name <;> simp
  | other => simp

/-- A directory leads to its entries, each at its path in the directory. -/
theorem mem_opened_directory_iff : visit ∈ workspace.opened options (.directory path) ↔
    ∃ entries, workspace.list? path = some entries ∧
      ∃ entry ∈ entries, visitOf? options path entry = some visit := by
  -- Sorting the entries loses none of them.
  rw [opened]
  cases workspace.list? path with
  | none => simp
  | some entries => simp [sortEntries, List.mem_mergeSort]

/-- Whatever adds a visit adds it at the path of its name. -/
theorem path_of_visitOf? {entry : Entry} (adds : visitOf? options path entry = some visit) :
    visit.path = Path.join path entry.name := by
  -- Directories and files are both joined to the path above.
  rcases visitOf?_eq_some_iff.1 adds with ⟨_, _, rfl⟩ | ⟨_, _, rfl⟩ <;> rfl

/-- Only a directory that can be listed leads to anything, and to paths made from its own by the
names that it lists. -/
theorem exists_entry_of_mem_opened (member : next ∈ workspace.opened options visit) :
    ∃ entries, workspace.list? visit.path = some entries ∧
      ∃ entry ∈ entries, next.path = Path.join visit.path entry.name := by
  -- A file leads to nothing, and a directory to its entries.
  cases visit with
  | file path => simp [opened] at member
  | directory path =>
    obtain ⟨entries, listed, entry, inside, adds⟩ := mem_opened_directory_iff.1 member
    exact ⟨entries, listed, entry, inside, path_of_visitOf? adds⟩

/-- Where names are plain, a visit leads to paths made from its own by plain names. -/
theorem exists_join_of_mem_opened (plain : workspace.PlainNames)
    (member : next ∈ workspace.opened options visit) :
    ∃ name, Path.Plain name ∧ next.path = Path.join visit.path name := by
  -- The name comes from a listing, and what is listed is plain.
  obtain ⟨entries, listed, entry, inside, joined⟩ := exists_entry_of_mem_opened member
  exact ⟨entry.name, plain visit.path entries listed entry inside, joined⟩

/-- The recursion asks for exactly what its visits lead to. -/
theorem mem_visits_iff (explored : workspace.exploreAll grammar options depth visits = some found) :
    next ∈ found.visits ↔ ∃ visit ∈ visits, workspace.LeadsTo options visit next := by
  -- Induction along the recursion: what is led to goes through one of the next visits.
  refine explored_induction (P := fun _ visits found => ∀ next, next ∈ found.visits ↔
    ∃ visit ∈ visits, workspace.LeadsTo options visit next) ?_ ?_ ?_ ?_ explored next
  · intro depth next
    simp [nothing]
  · intro depth visit rest first later one others next
    simp [andThen, one, others]
  · intro depth path next
    -- A file leads to itself alone.
    simp only [visits_exploreFile, List.mem_singleton, exists_eq_left]
    constructor
    · rintro rfl
      exact .refl
    · intro leads
      rcases leads.cases_head with same | ⟨other, member, _⟩
      · exact same.symm
      · simp [opened] at member
  · intro depth path found _ below next
    -- A directory comes first, and then what its entries lead to.
    simp only [List.mem_cons, below next, List.not_mem_nil, or_false, exists_eq_left]
    constructor
    · rintro (rfl | ⟨entry, member, leads⟩)
      · exact .refl
      · exact .head member leads
    · intro leads
      rcases leads.cases_head with same | ⟨entry, member, tail⟩
      · exact .inl same.symm
      · exact .inr ⟨entry, member, tail⟩

/-- Every record of a visit comes from a file that can be read. -/
theorem mem_recordsAt {record : MarkerRecord}
    (member : record ∈ workspace.recordsAt grammar visit) :
    visit = .file record.sourcePath ∧ ∃ text, workspace.read? record.sourcePath = some text ∧
      record ∈ scanText grammar record.sourcePath text := by
  -- Directories have no records, and those of a file are scanned from its text.
  cases visit with
  | directory path => simp [recordsAt] at member
  | file path =>
    rw [recordsAt] at member
    cases read : workspace.read? path with
    | none => simp [read] at member
    | some text =>
      simp only [read] at member
      obtain ⟨_, _, _, _, _, rfl⟩ := mem_scanText_iff.1 member
      exact ⟨rfl, text, read, member⟩

end Workspace

namespace FileTree

open Workspace

variable {tree : FileTree} {grammar : Grammar} {options : ScanOptions}

/-- A scan is what the recursion finds, wherever that comes to an end. -/
theorem scan_eq_of_explored {depth : Nat} {found : Scan}
    (explored : tree.workspace.exploreAll grammar options depth (options.roots.map .directory) =
      some found) : tree.workspace.scan grammar options = found := by
  -- The limit of a finite file system cuts no traversal off.
  rw [← exploreRoots_eq] at explored
  exact scan_eq_of_enough explored fun root _ one mine => length_visits_le_stepLimit mine

end FileTree

end TodoMarkers
