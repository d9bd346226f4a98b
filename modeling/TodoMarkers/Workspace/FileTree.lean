import TodoMarkers.Workspace.Scan

/-! A finite file system: the listings and texts of the paths that can be read. -/

namespace TodoMarkers

/-- Finitely many directories and files, found by their exact paths. -/
structure FileTree where
  /-- The directories and their entries. -/
  directories : List (Path × List Entry) := []
  /-- The files and their texts. -/
  files : List (Path × String) := []
  deriving DecidableEq, Repr

namespace FileTree

/-- Gives a path a new value, or takes the path away. -/
def assign {α : Type} (path : Path) (value : Option α) (table : List (Path × α)) :
    List (Path × α) :=
  let others := table.filter fun entry => entry.1 != path
  match value with
  | some value => (path, value) :: others
  | none => others

/-- The tree with one directory changed or removed. -/
def withDirectory (tree : FileTree) (path : Path) (entries : Option (List Entry)) : FileTree :=
  { tree with directories := assign path entries tree.directories }

/-- The tree with one file changed or removed. -/
def withFile (tree : FileTree) (path : Path) (text : Option String) : FileTree :=
  { tree with files := assign path text tree.files }

/-- The largest number of entries in a directory. -/
def widest (tree : FileTree) : Nat :=
  (tree.directories.map fun directory => directory.2.length).foldl max 0

/-- The tree as a workspace.

In a traversal that ends no directory lies below itself, so the directories above any visit are
distinct, and each adds at most a widest listing to the stack. -/
def workspace (tree : FileTree) : Workspace where
  list? := fun path => tree.directories.lookup path
  read? := fun path => tree.files.lookup path
  stepLimit := Nat.pow (tree.widest + 2) (tree.directories.length + 2)

end FileTree

end TodoMarkers
