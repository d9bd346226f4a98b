import Mathlib.Data.List.Nodup
import TodoMarkers.Proofs.Workspace.Termination

/-! A scan of a root asks for every path at most once, and for exactly those that lead through
directories which are not skipped. -/

namespace TodoMarkers

namespace Path

/-- Of two paths neither is written at the head of the other. -/
def Apart (path other : Path) : Prop :=
  ¬ base path <+: base other ∧ ¬ base other <+: base path

/-- Nothing is written behind both of two such paths. -/
theorem Apart.not_both {path other : Path} {text : List Char} (apart : Apart path other)
    (one : base path <+: text) : ¬ base other <+: text := by
  -- Of two heads of one text, one is a head of the other.
  intro two
  rcases List.prefix_or_prefix_of_prefix one two with head | head
  · exact apart.1 head
  · exact apart.2 head

end Path

namespace Workspace

/-- Every directory lists entries with plain names, no two of one name. -/
structure WellNamed (workspace : Workspace) : Prop where
  /-- The names are plain ones. -/
  plain : workspace.PlainNames
  /-- No name is listed twice in a directory. -/
  distinct : ∀ path entries, workspace.list? path = some entries → (entries.map Entry.name).Nodup

/-- Names that lead from a root through directories: each is listed as a directory in the one before
it, and none is skipped. -/
def Descends (workspace : Workspace) (options : ScanOptions) (root : Path) (names : List String) :
    Prop :=
  ∀ before name after, names = before ++ name :: after → options.ignores name = false ∧
    ∃ entries, workspace.list? (Path.below root before) = some entries ∧
      ⟨name, .directory⟩ ∈ entries

/-- A name that is listed as a file behind such names, with an ending that is read. -/
def Offers (workspace : Workspace) (options : ScanOptions) (root : Path) (names : List String)
    (name : String) : Prop :=
  workspace.Descends options root names ∧
    (∃ ending ∈ options.extensions, ending.toList <:+ name.toList) ∧
    ∃ entries, workspace.list? (Path.below root names) = some entries ∧ ⟨name, .file⟩ ∈ entries

variable {workspace : Workspace} {grammar : Grammar} {options : ScanOptions} {depth : Nat}
  {found : Scan} {root path : Path} {visits : List Visit} {visit next : Visit}
  {names : List String} {name : String}

/-- The root itself is reached without any name. -/
theorem descends_nil : workspace.Descends options root [] := by
  -- No name stands anywhere on an empty way.
  intro before name after split
  simp at split

/-- One more name leads on if its directory is listed in the one before it. -/
theorem descends_concat_iff : workspace.Descends options root (names ++ [name]) ↔
    workspace.Descends options root names ∧ options.ignores name = false ∧
      ∃ entries, workspace.list? (Path.below root names) = some entries ∧
        ⟨name, .directory⟩ ∈ entries := by
  -- A name of the longer list is the last one, or it is one of the shorter list.
  constructor
  · intro descends
    refine ⟨fun before other after split => ?_, descends names name [] rfl⟩
    exact descends before other (after ++ [name]) (by simp [split])
  · rintro ⟨descends, last⟩ before other after split
    rcases List.eq_nil_or_concat' after with rfl | ⟨rest, final, rfl⟩
    · obtain ⟨rfl, same⟩ := List.append_inj' split rfl
      obtain rfl := List.singleton_inj.1 same
      exact last
    · rw [← List.cons_append, ← List.append_assoc] at split
      exact descends before other rest (List.append_inj' split rfl).1

/-- The names on the way are plain, because directories list them. -/
theorem Descends.plain (plain : workspace.PlainNames)
    (descends : workspace.Descends options root names) : ∀ name ∈ names, Path.Plain name := by
  -- Each name on the way is listed by the directory before it.
  intro name member
  obtain ⟨before, after, split⟩ := List.append_of_mem member
  obtain ⟨_, entries, listed, inside⟩ := descends before name after split
  exact plain _ entries listed _ inside

/-- None of the names on the way is skipped. -/
theorem Descends.not_ignored (descends : workspace.Descends options root names) :
    ∀ name ∈ names, options.ignores name = false := by
  -- Each name on the way was kept when the directory before it was opened.
  intro name member
  obtain ⟨before, after, split⟩ := List.append_of_mem member
  exact (descends before name after split).1

/-- The names are the only plain ones that lead to their directory. -/
theorem Descends.eq_of_below {others : List String} (plain : workspace.PlainNames)
    (descends : workspace.Descends options root names)
    (otherPlain : ∀ name ∈ others, Path.Plain name)
    (same : Path.below root others = Path.below root names) : others = names :=
  -- Plain names can be read back from the path they make.
  Path.below_inj otherPlain (descends.plain plain) same

/-- The names are the only plain ones that lead to their file. -/
theorem Offers.eq_of_join {others : List String} {other : String} (plain : workspace.PlainNames)
    (offers : workspace.Offers options root names name)
    (otherPlain : ∀ name ∈ others, Path.Plain name) (last : Path.Plain other)
    (same : Path.join (Path.below root others) other = Path.join (Path.below root names) name) :
    others = names ∧ other = name := by
  -- The file's own name is one more plain name on the way.
  obtain ⟨descends, _, entries, listed, inside⟩ := offers
  have final : Path.Plain name := plain _ entries listed _ inside
  rw [← Path.below_concat, ← Path.below_concat] at same
  have whole : others ++ [other] = names ++ [name] :=
    Path.below_inj (List.forall_mem_append.2 ⟨otherPlain, by simpa using last⟩)
      (List.forall_mem_append.2 ⟨descends.plain plain, by simpa using final⟩) same
  obtain ⟨rfl, alone⟩ := List.append_inj' whole rfl
  exact ⟨rfl, List.singleton_inj.1 alone⟩

/-- A name has one kind in a directory. -/
theorem WellNamed.kind_eq (named : workspace.WellNamed) {entries others : List Entry}
    {kind second : EntryKind} (listed : workspace.list? path = some entries)
    (again : workspace.list? path = some others) (inside : ⟨name, kind⟩ ∈ entries)
    (within : ⟨name, second⟩ ∈ others) : kind = second := by
  -- A directory lists each name once, so both entries are the same.
  obtain rfl : entries = others := Option.some.inj (listed.symm.trans again)
  have same := List.inj_on_of_nodup_map (named.distinct path entries listed) inside within rfl
  exact congrArg Entry.kind same

/-- A root leads to the directories and files that lie behind directories which are not skipped. -/
theorem leadsTo_root_iff : workspace.LeadsTo options (.directory root) next ↔
    (∃ names, workspace.Descends options root names ∧ next = .directory (Path.below root names)) ∨
      ∃ names name, workspace.Offers options root names name ∧
        next = .file (Path.join (Path.below root names) name) := by
  -- A way is followed step by step, and built up name by name.
  constructor
  · -- Each step adds one name, as a directory or as a file.
    intro leads
    induction leads with
    | refl => exact .inl ⟨[], descends_nil, rfl⟩
    | tail _ member ih =>
      rcases ih with ⟨names, descends, rfl⟩ | ⟨names, name, _, rfl⟩
      · obtain ⟨entries, listed, ⟨name, kind⟩, inside, adds⟩ := mem_opened_directory_iff.1 member
        rcases visitOf?_eq_some_iff.1 adds with ⟨rfl, kept, rfl⟩ | ⟨rfl, kept, rfl⟩
        · refine .inl ⟨names ++ [name], ?_, by rw [Path.below_concat]⟩
          exact descends_concat_iff.2 ⟨descends, kept, entries, listed, inside⟩
        · have ending := ScanOptions.includes_eq_true_iff.1 kept
          exact .inr ⟨names, name, ⟨descends, ending, entries, listed, inside⟩, rfl⟩
      · simp [opened] at member
  · have directory : ∀ names, workspace.Descends options root names →
        workspace.LeadsTo options (.directory root) (.directory (Path.below root names)) := by
      intro names
      induction names using List.reverseRecOn with
      | nil => exact fun _ => .refl
      | append_singleton names name ih =>
        intro descends
        obtain ⟨before, kept, entries, listed, inside⟩ := descends_concat_iff.1 descends
        rw [Path.below_concat]
        exact (ih before).tail (mem_opened_directory_iff.2 ⟨entries, listed, _, inside,
          visitOf?_eq_some_iff.2 (.inl ⟨rfl, kept, rfl⟩)⟩)
    rintro (⟨names, descends, rfl⟩ | ⟨names, name, ⟨descends, ending, entries, listed, inside⟩, rfl⟩)
    · exact directory names descends
    · have kept := ScanOptions.includes_eq_true_iff.2 ending
      exact (directory names descends).tail (mem_opened_directory_iff.2 ⟨entries, listed, _,
        inside, visitOf?_eq_some_iff.2 (.inr ⟨rfl, kept, rfl⟩)⟩)

/-- A root leads to nothing behind a name that is skipped. -/
theorem not_ignored_of_leadsTo (plain : workspace.PlainNames)
    (leads : workspace.LeadsTo options (.directory root) next)
    (names_ : ∀ other ∈ names, Path.Plain other) (last : Path.Plain name)
    (same : next = .directory (Path.below root names) ∨
      next = .file (Path.join (Path.below root names) name)) :
    ∀ other ∈ names, options.ignores other = false := by
  -- The names that lead there are known, because plain names can be read off a path.
  rcases leadsTo_root_iff.1 leads with ⟨others, descends, rfl⟩ | ⟨others, other, offers, rfl⟩
  · have written := Visit.directory.inj (same.resolve_right (by simp))
    obtain rfl := descends.eq_of_below plain names_ written.symm
    exact descends.not_ignored
  · have written := Visit.file.inj (same.resolve_left (by simp))
    obtain ⟨rfl, rfl⟩ := offers.eq_of_join plain names_ last written.symm
    exact offers.1.not_ignored

/-- A root leads to no entry that is neither a directory nor a file. -/
theorem path_ne_of_other {entries : List Entry} (named : workspace.WellNamed)
    (above : workspace.LeadsTo options (.directory root) (.directory path))
    (listed : workspace.list? path = some entries) (inside : ⟨name, .other⟩ ∈ entries)
    (leads : workspace.LeadsTo options (.directory root) next) :
    next.path ≠ Path.join path name := by
  -- The visit's path spells out its names, which are those of the entry.
  intro same
  have last : Path.Plain name := named.plain _ entries listed _ inside
  obtain ⟨names, descends, rfl⟩ : ∃ names, workspace.Descends options root names ∧
      path = Path.below root names := by simpa using leadsTo_root_iff.1 above
  have plain := descends.plain named.plain
  -- It would be listed as a directory or as a file, and a name is listed only once.
  rcases leadsTo_root_iff.1 leads with ⟨others, below, rfl⟩ | ⟨others, other, offers, rfl⟩
  · rw [Visit.path, ← Path.below_concat] at same
    obtain rfl := below.eq_of_below named.plain
      (List.forall_mem_append.2 ⟨plain, by simpa using last⟩) same.symm
    obtain ⟨_, _, others, there, within⟩ := descends_concat_iff.1 below
    have kinds := named.kind_eq listed there inside within
    contradiction
  · obtain ⟨rfl, rfl⟩ := offers.eq_of_join named.plain plain last same.symm
    obtain ⟨_, _, others, there, within⟩ := offers
    have kinds := named.kind_eq listed there inside within
    contradiction

/-- Different entries of a directory lead to paths that are apart. -/
theorem apart_opened (named : workspace.WellNamed) (visit : Visit) :
    (workspace.opened options visit).Pairwise fun one other =>
      Path.Apart one.path other.path := by
  -- The names of the entries differ, and a plain name ends before the next separator.
  cases visit with
  | file path => exact List.Pairwise.nil
  | directory path =>
    rw [opened]
    cases listed : workspace.list? path with
    | none => exact List.Pairwise.nil
    | some entries =>
      -- Sorting keeps the names distinct.
      have sorted : (sortEntries entries).Perm entries := List.mergeSort_perm entries _
      have names := (sorted.map Entry.name).nodup_iff.2 (named.distinct path entries listed)
      have distinct : (sortEntries entries).Pairwise fun one other => one.name ≠ other.name :=
        List.pairwise_map.1 names
      rw [List.pairwise_filterMap]
      refine distinct.imp_of_mem fun {one other} mine its different visit adds next follows => ?_
      have plain := named.plain path entries listed one (sorted.mem_iff.1 mine)
      have otherPlain := named.plain path entries listed other (sorted.mem_iff.1 its)
      rw [path_of_visitOf? adds, path_of_visitOf? follows]
      exact ⟨fun head => different (Path.eq_of_base_prefix plain otherPlain head),
        fun head => different (Path.eq_of_base_prefix otherPlain plain head).symm⟩

/-- What is found below some visits has their paths at its head, and stays apart where they are. -/
structure KeepsApart (visits : List Visit) (found : Scan) : Prop where
  /-- Each path is written behind that of a visit. -/
  within : ∀ next ∈ found.visits, ∃ visit ∈ visits, Path.base visit.path <+: Path.base next.path
  /-- Below visits that are apart no path is asked for twice. -/
  nodup : (visits.Pairwise fun one other => Path.Apart one.path other.path) →
    (found.visits.map Visit.path).Nodup

/-- Visits side by side stay apart if each of them does. -/
theorem KeepsApart.cons {rest : List Visit} {first later : Scan} (one : KeepsApart [visit] first)
    (others : KeepsApart rest later) : KeepsApart (visit :: rest) (first.andThen later) where
  -- Whatever is found lies behind the visit that has found it.
  within next member := by
    rcases List.mem_append.1 member with early | late
    · obtain ⟨other, same, head⟩ := one.within next early
      exact ⟨visit, List.mem_cons_self, List.mem_singleton.1 same ▸ head⟩
    · obtain ⟨other, inside, head⟩ := others.within next late
      exact ⟨other, List.mem_cons_of_mem _ inside, head⟩
  nodup apart := by
    rw [List.pairwise_cons] at apart
    rw [Scan.andThen, List.map_append, List.nodup_append]
    refine ⟨one.nodup (List.pairwise_singleton _ _), others.nodup apart.2, ?_⟩
    -- A path found twice would be written behind two paths that are apart.
    intro path early other late same
    obtain ⟨next, mine, rfl⟩ := List.mem_map.1 early
    obtain ⟨behind, its, rfl⟩ := List.mem_map.1 late
    obtain ⟨start, alone, head⟩ := one.within next mine
    obtain ⟨other, inside, begins⟩ := others.within behind its
    rw [List.mem_singleton.1 alone] at head
    rw [← same] at begins
    exact (apart.1 other inside).not_both head begins

/-- A directory stays apart from everything in it. -/
theorem KeepsApart.directory (named : workspace.WellNamed)
    (below : KeepsApart (workspace.opened options (.directory path)) found) :
    KeepsApart [.directory path] ⟨found.records, .directory path :: found.visits⟩ := by
  -- What is found in the directory lies behind one of its entries.
  have inner : ∀ next ∈ found.visits, ∃ name, Path.Plain name ∧
      Path.base (Path.join path name) <+: Path.base next.path := by
    intro next member
    obtain ⟨visit, inside, head⟩ := below.within next member
    obtain ⟨name, plain, same⟩ := exists_join_of_mem_opened named.plain inside
    rw [same] at head
    exact ⟨name, plain, head⟩
  constructor
  · intro next member
    refine ⟨.directory path, List.mem_cons_self, ?_⟩
    rcases List.mem_cons.1 member with rfl | member
    · exact List.prefix_rfl
    · obtain ⟨name, plain, head⟩ := inner next member
      exact (Path.base_prefix_join plain).trans head
  · intro _
    rw [List.map_cons, List.nodup_cons]
    refine ⟨fun again => ?_, below.nodup (apart_opened named _)⟩
    -- A path in the directory is longer than the directory's own.
    obtain ⟨next, member, same⟩ := List.mem_map.1 again
    obtain ⟨name, plain, head⟩ := inner next member
    rw [same, Path.base_join plain] at head
    have short := head.length_le
    simp only [Visit.path, List.length_append, List.length_singleton] at short
    omega

/-- The recursion keeps apart what its visits keep apart. -/
theorem keepsApart_of_explored (named : workspace.WellNamed)
    (explored : workspace.exploreAll grammar options depth visits = some found) :
    KeepsApart visits found := by
  -- Induction along the recursion, one case for each way it goes on.
  refine explored_induction (P := fun _ => KeepsApart) ?_ ?_ ?_ ?_ explored
  · intro depth
    exact ⟨by simp [Scan.nothing], by simp [Scan.nothing]⟩
  · intro depth visit rest first later one others
    exact one.cons others
  · intro depth path
    exact ⟨by simp, by simp⟩
  · intro depth path found _ below
    exact below.directory named

end Workspace

namespace FileTree

open Workspace

/-- A tree is well named if all of its listings are. -/
theorem wellNamed_of_directories {tree : FileTree}
    (plain : ∀ directory ∈ tree.directories, ∀ entry ∈ directory.2, Path.Plain entry.name)
    (distinct : ∀ directory ∈ tree.directories, (directory.2.map Entry.name).Nodup) :
    tree.workspace.WellNamed where
  -- A listing that is found is one of the tree's.
  plain path entries listed := plain (path, entries) (mem_directories listed)
  distinct path entries listed := distinct (path, entries) (mem_directories listed)

/-- The scan of a root asks for exactly the directories and files that lie behind directories which
are not skipped, and for each of them once.

A file is asked for if its name has an ending that is read, every directory on the way is listed in
the one before it, and none of these has a name that is skipped. Hence no requested path leads
through a skipped name, entries of other kinds are never asked for, and every record comes from a
file that is. -/
theorem scan_exactly_once (tree : FileTree) (grammar : Grammar) (options : ScanOptions)
    (root : Path) (named : tree.workspace.WellNamed) :
    let scan := tree.workspace.scan grammar { options with roots := [root] }
    (scan.visits.map Visit.path).Nodup ∧
    (∀ path, .directory path ∈ scan.visits ↔ ∃ names,
      tree.workspace.Descends options root names ∧ path = Path.below root names) ∧
    (∀ path, .file path ∈ scan.visits ↔ ∃ names name,
      tree.workspace.Offers options root names name ∧
        path = Path.join (Path.below root names) name) ∧
    (∀ names name, (∀ other ∈ names, Path.Plain other) → Path.Plain name →
      .directory (Path.below root names) ∈ scan.visits ∨
        .file (Path.join (Path.below root names) name) ∈ scan.visits →
      ∀ other ∈ names, options.ignores other = false) ∧
    (∀ path entries name, .directory path ∈ scan.visits →
      tree.workspace.list? path = some entries → ⟨name, .other⟩ ∈ entries →
      Path.join path name ∉ scan.visits.map Visit.path) ∧
    ∀ record ∈ scan.records, .file record.sourcePath ∈ scan.visits ∧
      ∃ text, tree.workspace.read? record.sourcePath = some text ∧
        record ∈ scanText grammar record.sourcePath text := by
  -- The scan is what the recursion finds, and that is what the root leads to.
  intro scan
  obtain ⟨depth, found, explored, same⟩ :=
    exists_scan_eq grammar { options with roots := [root] } named.plain
  have whole : scan = found := same
  rw [whole]
  -- What is asked for is what the root leads to.
  have asked (next : Visit) : next ∈ found.visits ↔
      tree.workspace.LeadsTo options (.directory root) next := by
    rw [mem_visits_iff explored]
    simp only [List.map_cons, List.map_nil, List.mem_singleton, exists_eq_left]
    rfl
  have once := (keepsApart_of_explored named explored).nodup (List.pairwise_singleton _ _)
  refine ⟨once, ?_, ?_, ?_, ?_, ?_⟩
  · intro path
    simp [asked, leadsTo_root_iff]
  · intro path
    simp [asked, leadsTo_root_iff]
  · rintro names name plain last (visited | visited)
    · exact not_ignored_of_leadsTo named.plain ((asked _).1 visited) plain last (.inl rfl)
    · exact not_ignored_of_leadsTo named.plain ((asked _).1 visited) plain last (.inr rfl)
  · intro path entries name visited listed inside again
    obtain ⟨next, member, same⟩ := List.mem_map.1 again
    exact path_ne_of_other named ((asked _).1 visited) listed inside ((asked next).1 member) same
  · intro record member
    rw [records_eq_flatMap explored, List.mem_flatMap] at member
    obtain ⟨visit, visited, inside⟩ := member
    obtain ⟨rfl, text, read, found⟩ := mem_recordsAt inside
    exact ⟨visited, text, read, found⟩

/-- A file in a directory is asked for, and neither the directory that is skipped nor the link. -/
theorem scan_exactly_once_nested :
    let tree : FileTree :=
  -- The tree is well named, so the law says what is asked for in it.
      { directories :=
          [("src", [⟨"b.rs", .other⟩, ⟨"out", .directory⟩, ⟨"a", .directory⟩]),
           ("src/a", [⟨"c.md", .file⟩]), ("src/out", [⟨"d.md", .file⟩])] }
    let options : ScanOptions := ⟨["src"], ["out"], [".rs", ".md"]⟩
    let scan := tree.workspace.scan .standard options
    tree.workspace.WellNamed ∧ (scan.visits.map Visit.path).Nodup ∧
      .file "src/a/c.md" ∈ scan.visits ∧ .directory "src/out" ∉ scan.visits ∧
      "src/b.rs" ∉ scan.visits.map Visit.path := by
  intro tree options scan
  have named : tree.workspace.WellNamed :=
    wellNamed_of_directories (by decide) (by decide)
  obtain ⟨once, directories, files, skipped, others, _⟩ :=
    scan_exactly_once tree .standard options "src" named
  have inside : tree.workspace.Descends options "src" ["a"] :=
    descends_concat_iff.2 ⟨descends_nil, by decide, _, rfl, by decide⟩
  refine ⟨named, once, ?_, ?_, ?_⟩
  · exact (files _).2 ⟨["a"], "c.md", ⟨inside, by decide, _, rfl, by decide⟩, by decide⟩
  · intro asked
    have kept := skipped ["out"] "d.md" (by decide) (by decide) (.inl asked) "out" (by decide)
    contradiction
  · exact others "src" _ "b.rs" ((directories _).2 ⟨[], descends_nil, rfl⟩) rfl (by decide)

end FileTree

end TodoMarkers
