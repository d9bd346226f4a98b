import TodoMarkers.Workspace.Scan

/-! The traversal of a workspace by recursion: a directory comes before everything that is in it. -/

namespace TodoMarkers

namespace Scan

/-- A scan that finds nothing and asks for nothing. -/
def nothing : Scan :=
  ⟨[], []⟩

/-- One scan, and then another one. -/
def andThen (first later : Scan) : Scan :=
  ⟨first.records ++ later.records, first.visits ++ later.visits⟩

/-- Scans one after the other, absent as soon as one of them is absent. -/
def inTurn : List (Option Scan) → Option Scan
  | [] => some nothing
  | none :: _ => none
  | some first :: rest => (inTurn rest).map first.andThen

end Scan

namespace Workspace

/-- Reads a file, which finds nothing where it cannot be read. -/
def exploreFile (workspace : Workspace) (grammar : Grammar) (path : Path) : Scan :=
  match workspace.read? path with
  | some text => ⟨scanText grammar path text, [.file path]⟩
  | none => ⟨[], [.file path]⟩

/-- Takes an entry of a directory: only one that is neither skipped nor passed over asks for
anything. The first argument explores the directories in it. -/
def exploreEntry (inner : Path → Option Scan) (workspace : Workspace) (grammar : Grammar)
    (options : ScanOptions) (directory : Path) (entry : Entry) : Option Scan :=
  match entry.kind with
  | .directory =>
    if options.ignores entry.name then some .nothing
    else inner (Path.join directory entry.name)
  | .file =>
    if options.includes entry.name then
      some (workspace.exploreFile grammar (Path.join directory entry.name))
    else some .nothing
  | .other => some .nothing

/-- Lists a directory and takes its entries in the order of their names; one that cannot be listed
adds nothing. The scan is absent where directories lie deeper in each other than a bound. -/
def explore (workspace : Workspace) (grammar : Grammar) (options : ScanOptions) :
    Nat → Path → Option Scan
  | 0, _ => none
  | depth + 1, directory =>
    match workspace.list? directory with
    | none => some ⟨[], [.directory directory]⟩
    | some entries =>
      (Scan.inTurn ((sortEntries entries).map
        (exploreEntry (workspace.explore grammar options depth) workspace grammar options
          directory))).map fun found => ⟨found.records, .directory directory :: found.visits⟩

/-- Explores the roots in their order. -/
def exploreRoots (workspace : Workspace) (grammar : Grammar) (options : ScanOptions)
    (depth : Nat) : Option Scan :=
  Scan.inTurn (options.roots.map (workspace.explore grammar options depth))

end Workspace

end TodoMarkers
