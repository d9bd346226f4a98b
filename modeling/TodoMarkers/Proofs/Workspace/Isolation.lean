import TodoMarkers.Proofs.Workspace.Termination

/-! A place that cannot be read takes away from a scan what lies under it, and nothing else. -/

namespace TodoMarkers

/-- A scan without what lies under a place, and without the records of the place itself. -/
def Scan.without (found : Scan) (place : Path) : Scan where
  records := found.records.filter fun record =>
    ¬ (Path.Same record.sourcePath place ∨ Path.Under place record.sourcePath)
  visits := found.visits.filter fun visit => ¬ Path.Under place visit.path

/-- One scan after another one is left without the place by leaving both without it. -/
theorem Scan.without_andThen (first later : Scan) (place : Path) :
    (first.andThen later).without place = (first.without place).andThen (later.without place) := by
  -- A filter goes through two lists one after the other.
  simp only [without, andThen, List.filter_append]

/-- A directory that does not lie under a place is still asked for. -/
theorem Scan.without_directory {path place : Path} (outside : ¬ Path.Under place path)
    (found : Scan) :
    (Scan.mk found.records (.directory path :: found.visits)).without place =
      ⟨(found.without place).records, .directory path :: (found.without place).visits⟩ := by
  -- The filter keeps the first visit, whose path is outside.
  simp [without, Visit.path, outside]

namespace Workspace

/-- What a visit asks for cannot be read. -/
def Fails (workspace : Workspace) : Visit → Prop
  | .directory path => workspace.list? path = none
  | .file path => workspace.read? path = none

instance (workspace : Workspace) : (visit : Visit) → Decidable (workspace.Fails visit)
  | .directory path => inferInstanceAs (Decidable (workspace.list? path = none))
  | .file path => inferInstanceAs (Decidable (workspace.read? path = none))

/-- Two workspaces are the same but for one place, and whatever some visits ask for at that place
cannot be read in the second. -/
structure FailsAt (first second : Workspace) (place : Path) (asked : List Visit) : Prop where
  /-- Everywhere else they are read alike. -/
  elsewhere : ∀ path, ¬ Path.Same path place →
    second.list? path = first.list? path ∧ second.read? path = first.read? path
  /-- At the place itself nothing that is asked for can be read. -/
  there : ∀ visit ∈ asked, Path.Same visit.path place → second.Fails visit

variable {first second : Workspace} {grammar : Grammar} {options : ScanOptions} {depth : Nat}
  {found : Scan} {place path : Path} {visits : List Visit} {visit next : Visit}

/-- What fails for some visits fails for fewer of them. -/
theorem FailsAt.mono {asked fewer : List Visit} (fails : FailsAt first second place asked)
    (fewer_ : ∀ visit ∈ fewer, visit ∈ asked) : FailsAt first second place fewer :=
  -- Only the visits that are asked for matter.
  ⟨fails.elsewhere, fun visit member => fails.there visit (fewer_ visit member)⟩

/-- Whatever lies under a place leads only to what lies under it as well. -/
theorem under_of_leadsTo (plain : first.PlainNames) (leads : first.LeadsTo options visit next)
    (under : Path.Under place visit.path) : Path.Under place next.path := by
  -- The induction is on the way, each step of which adds one name.
  induction leads with
  | refl => exact under
  | tail _ member ih =>
    obtain ⟨name, named, same⟩ := exists_join_of_mem_opened plain member
    rw [same]
    exact (Path.under_join_iff named).2 (.inr ih)

/-- Everything in a directory of the place lies under the place. -/
theorem under_of_explored (plain : first.PlainNames) (same : Path.Same path place)
    (explored : first.exploreAll grammar options depth (first.opened options (.directory path)) =
      some found) : ∀ next ∈ found.visits, Path.Under place next.path := by
  -- Whatever is found is reached from an entry of the directory.
  intro next member
  obtain ⟨visit, inside, leads⟩ := (mem_visits_iff explored).1 member
  obtain ⟨name, named, joined⟩ := exists_join_of_mem_opened plain inside
  -- The first name leads from the place to something under it.
  have under : Path.Under place visit.path := by
    rw [joined]
    exact (Path.under_join_iff named).2 (.inl same)
  exact under_of_leadsTo plain leads under

/-- Nothing is left of what lies under a place as a whole. -/
theorem without_eq_nothing (explored : first.exploreAll grammar options depth visits = some found)
    (under : ∀ next ∈ found.visits, Path.Under place next.path) :
    found.without place = .nothing := by
  -- Every visit is under the place, and records come from visits.
  have visits : found.visits.filter (fun visit => ¬ Path.Under place visit.path) = [] :=
    List.filter_eq_nil_iff.2 fun next member => by simp [under next member]
  have records : found.records.filter (fun record =>
      ¬ (Path.Same record.sourcePath place ∨ Path.Under place record.sourcePath)) = [] := by
    refine List.filter_eq_nil_iff.2 fun record member => ?_
    -- The record comes from a file that lies under the place.
    rw [records_eq_flatMap explored, List.mem_flatMap] at member
    obtain ⟨visit, visited, inside⟩ := member
    obtain ⟨rfl, _⟩ := mem_recordsAt inside
    have below : Path.Under place record.sourcePath := under _ visited
    simp [below]
  rw [Scan.without, visits, records, Scan.nothing]

/-- A file adds to the second scan what is left of it without the place. -/
theorem exploreFile_without (fails : FailsAt first second place [.file path])
    (outside : ¬ Path.Under place path) :
    second.exploreFile grammar path = (first.exploreFile grammar path).without place := by
  -- The visit stays, and the records stay unless the file is at the place.
  have visits : (first.exploreFile grammar path).visits.filter
      (fun visit => ¬ Path.Under place visit.path) = [.file path] := by
    simp [Visit.path, outside]
  have records : second.recordsAt grammar (.file path) =
      (first.recordsAt grammar (.file path)).filter fun record =>
        ¬ (Path.Same record.sourcePath place ∨ Path.Under place record.sourcePath) := by
    -- All records of the file have its path, so they go or stay together.
    have source : ∀ record ∈ first.recordsAt grammar (.file path), record.sourcePath = path :=
      fun record member => (Visit.file.inj (mem_recordsAt member).1).symm
    by_cases same : Path.Same path place
    · have unread : second.read? path = none := fails.there _ List.mem_cons_self same
      rw [List.filter_eq_nil_iff.2 fun record member => by simp [source record member, same],
        recordsAt, unread]
    · rw [List.filter_eq_self.2 fun record member => by simp [source record member, same, outside],
        recordsAt, recordsAt, (fails.elsewhere path same).2]
  rw [Scan.without, visits, records_exploreFile, ← records, ← records_exploreFile,
    ← visits_exploreFile]

/-- The recursion finds in the second workspace what is left of the first one without the place. -/
theorem exploreAll_without (plain : first.PlainNames)
    (explored : first.exploreAll grammar options depth visits = some found)
    (fails : FailsAt first second place found.visits)
    (outside : ∀ visit ∈ visits, ¬ Path.Under place visit.path) :
    second.exploreAll grammar options depth visits = some (found.without place) := by
  -- Induction along the recursion, where a directory at the place is the case that matters.
  refine explored_induction (P := fun depth visits found =>
    FailsAt first second place found.visits → (∀ visit ∈ visits, ¬ Path.Under place visit.path) →
      second.exploreAll grammar options depth visits = some (found.without place))
    ?_ ?_ ?_ ?_ explored fails outside
  · intro depth _ _
    rfl
  · intro depth visit rest early later one others fails outside
    have here := one (fails.mono fun visit member => List.mem_append_left _ member)
      (List.forall_mem_singleton.2 (outside visit List.mem_cons_self))
    have there := others (fails.mono fun visit member => List.mem_append_right _ member)
      fun visit member => outside visit (List.mem_cons_of_mem _ member)
    rw [exploreAll_singleton] at here
    exact exploreAll_cons_eq_some_iff.2 ⟨_, _, here, there, (Scan.without_andThen ..).symm⟩
  · intro depth path fails outside
    rw [visits_exploreFile] at fails
    rw [exploreAll_singleton, exploreVisit,
      exploreFile_without fails (outside _ List.mem_cons_self)]
  · intro depth path found explored below fails outside
    have here : ¬ Path.Under place path := outside _ List.mem_cons_self
    rw [exploreAll_singleton, exploreVisit, explore_succ]
    by_cases same : Path.Same path place
    · -- The directory is asked for in vain, and with it goes everything under the place.
      have unlisted : second.list? path = none := fails.there _ List.mem_cons_self same
      have empty : second.opened options (.directory path) = [] := by rw [opened, unlisted]
      rw [empty, Scan.without_directory here,
        without_eq_nothing explored (under_of_explored plain same explored)]
      rfl
    · -- The directory is listed alike, and nothing in it lies under the place.
      have alike : second.opened options (.directory path) =
          first.opened options (.directory path) := by
        rw [opened, opened, (fails.elsewhere path same).1]
      have inside : ∀ visit ∈ first.opened options (.directory path),
          ¬ Path.Under place visit.path := by
        intro visit member under
        obtain ⟨name, named, joined⟩ := exists_join_of_mem_opened plain member
        rw [joined, Path.under_join_iff named] at under
        exact under.elim same here
      rw [alike, below (fails.mono fun visit member => List.mem_cons_of_mem _ member) inside,
        Scan.without_directory here, Option.map_some]

end Workspace

namespace FileTree

open Workspace

/-- A scan in which one place cannot be read is the scan without that place.

Both scans are of the same file system but for the place, under which no root lies. The second one
has the records of the first in the same order, except those of the place and of what lies under it.
It asks for the same directories and files, except those that lie under the place. It comes to an
end for every root. -/
theorem scan_without_place (first second : FileTree) (grammar : Grammar) (options : ScanOptions)
    (place : Path) (plain : first.workspace.PlainNames)
    (fails : FailsAt first.workspace second.workspace place
      (first.workspace.scan grammar options).visits)
    (outside : ∀ root ∈ options.roots, ¬ Path.Under place root) :
    second.workspace.scan grammar options = (first.workspace.scan grammar options).without place ∧
      ∀ root ∈ options.roots, ∃ steps,
        (second.workspace.step options)^[steps] [.directory root] = [] := by
  -- Both scans are what the recursion finds at one depth.
  obtain ⟨depth, found, explored, whole⟩ := exists_scan_eq grammar options plain
  rw [whole] at fails ⊢
  have roots : ∀ visit ∈ options.roots.map Visit.directory, ¬ Path.Under place visit.path := by
    intro visit member
    obtain ⟨root, listed, rfl⟩ := List.mem_map.1 member
    exact outside root listed
  have left := exploreAll_without plain explored fails roots
  refine ⟨scan_eq_of_explored left, fun root member => ?_⟩
  exact exists_exploreAll_iff.1 ⟨depth, _, left⟩ _ (List.mem_map_of_mem member)

/-- A directory in the middle of a scan is taken away. -/
theorem scan_without_place_directory :
    let before : Path × List Entry := ("src", [⟨"a", .directory⟩, ⟨"b.rs", .file⟩])
    let files : List (Path × String) := [("src/a/c.md", "TODO one"), ("src/b.rs", "TODO two")]
    let first : FileTree := ⟨[before, ("src/a", [⟨"c.md", .file⟩])], files⟩
    let second : FileTree := ⟨[before], files⟩
    let options : ScanOptions := ⟨["src"], [], [".rs", ".md"]⟩
    second.workspace.scan .standard options =
      (first.workspace.scan .standard options).without "src/a" := by
  -- The second workspace fails at the place alone, as the law asks.
  intro before files first second options
  have named : first.workspace.PlainNames := fun path entries listed =>
    (show ∀ directory ∈ first.directories, ∀ entry ∈ directory.2, Path.Plain entry.name by decide)
      (path, entries) (mem_directories listed)
  have fails : FailsAt first.workspace second.workspace "src/a"
      (first.workspace.scan .standard options).visits := by
    constructor
    · intro path other
      have different : path ≠ "src/a" := fun same => other (same ▸ rfl)
      refine ⟨?_, rfl⟩
      have absent : (path == "src/a") = false := by simpa using different
      simp [workspace, first, second, before, List.lookup_cons, absent]
    · -- Neither spelling of the directory is listed, nor read as a file.
      intro visit _ same
      have spelled : visit.path = "src/a" ∨ visit.path = "src/a/" := by
        rcases same.cases with equal | longer | shorter
        · exact .inl equal
        · exact .inr longer
        · have last := congrArg (fun path => path.toList.getLast?) shorter
          simp at last
      cases visit with
      | directory path => rcases spelled with rfl | rfl <;> decide
      | file path => rcases spelled with rfl | rfl <;> decide
  exact (scan_without_place first second .standard options "src/a" named fails (by decide)).1

end FileTree

end TodoMarkers
