import TodoMarkers.Record
import TodoMarkers.Workspace.Options

/-! The traversal of a workspace: directories in name order, depth first, with an explicit stack. -/

namespace TodoMarkers

/-- What a directory says about one of its entries. -/
inductive EntryKind where
  | directory
  | file
  /-- Anything else; never followed. -/
  | other
  deriving DecidableEq, Repr

/-- One entry of a directory. -/
structure Entry where
  /-- The name within the directory. -/
  name : String
  /-- What it is. -/
  kind : EntryKind
  deriving DecidableEq, Repr

/-- The files that a scan can see. -/
structure Workspace where
  /-- The entries of a directory, absent when it cannot be read. -/
  list? : Path → Option (List Entry)
  /-- The text of a file, absent when it cannot be read. -/
  read? : Path → Option String
  /-- A bound on the steps of every traversal that ends. -/
  stepLimit : Nat

/-- One thing that a scan asks for. -/
inductive Visit where
  | directory (path : Path)
  | file (path : Path)
  deriving DecidableEq, Repr

namespace Workspace

/-- Entries in ascending order of their names; those of one name keep their order. -/
def sortEntries (entries : List Entry) : List Entry :=
  entries.mergeSort fun a b => a.name ≤ b.name

/-- What an entry of a directory adds to the traversal. -/
def visitOf? (options : ScanOptions) (directory : Path) (entry : Entry) : Option Visit :=
  match entry.kind with
  | .directory =>
    if options.ignores entry.name then none
    else some (.directory (Path.join directory entry.name))
  | .file =>
    if options.includes entry.name then some (.file (Path.join directory entry.name)) else none
  | .other => none

/-- The visits that a visit leads to. -/
def opened (workspace : Workspace) (options : ScanOptions) : Visit → List Visit
  | .directory path =>
    match workspace.list? path with
    | some entries => (sortEntries entries).filterMap (visitOf? options path)
    -- A directory that cannot be listed leads to nothing.
    | none => []
  | .file _ => []

/-- One step of the traversal: the top of the stack gives way to what it leads to. -/
def step (workspace : Workspace) (options : ScanOptions) : List Visit → List Visit
  | [] => []
  | visit :: rest => workspace.opened options visit ++ rest

/-- The visits of at most a number of steps, in the order in which they are made. -/
def trace (workspace : Workspace) (options : ScanOptions) : Nat → List Visit → List Visit
  | 0, _ => []
  | _ + 1, [] => []
  | steps + 1, visit :: rest =>
    visit :: workspace.trace options steps (workspace.opened options visit ++ rest)

/-- The records that a visit finds. -/
def recordsAt (workspace : Workspace) (grammar : Grammar) : Visit → List MarkerRecord
  | .directory _ => []
  | .file path =>
    match workspace.read? path with
    | some text => scanText grammar path text
    | none => []

/-- The visits of a whole scan, one root after the other. A traversal that does not end is cut off
at the step limit. -/
def visits (workspace : Workspace) (options : ScanOptions) : List Visit :=
  options.roots.flatMap fun root =>
    workspace.trace options workspace.stepLimit [.directory root]

end Workspace

/-- What a scan finds, and what it asks for. -/
structure Scan where
  /-- The records, in the order of the traversal. -/
  records : List MarkerRecord
  /-- The visits, those that failed included. -/
  visits : List Visit
  deriving DecidableEq, Repr

/-- Scans every root of a workspace. -/
def Workspace.scan (workspace : Workspace) (grammar : Grammar) (options : ScanOptions) : Scan :=
  let visits := workspace.visits options
  ⟨visits.flatMap (workspace.recordsAt grammar), visits⟩

end TodoMarkers
