import TodoMarkers.Path
import TodoMarkers.Text.Utf8
import TodoMarkers.Workspace.Scan

/-! A disk: nested directories with files and symbolic links, and how paths lead through them. -/

namespace TodoMarkers

/-- What a name in a directory stands for. -/
inductive Node where
  | file (bytes : List UInt8)
  | directory (entries : List (String × Node))
  | link (target : Path)
  deriving Repr, Inhabited

/-- A disk, as the entries of its top directory. -/
structure Disk where
  /-- The entries of the top directory. -/
  entries : List (String × Node) := []
  deriving Repr, Inhabited

/-- Where names lead. -/
inductive Place where
  /-- A node of the disk, by the names that lead to it, the last one first. -/
  | inside (names : List String)
  /-- A directory that the disk lies in. -/
  | outside
  deriving DecidableEq, Repr

namespace Place

/-- The top directory of the disk. -/
def top : Place :=
  .inside []

/-- The directory that a place lies in. -/
def up : Place → Place
  | .inside (_ :: names) => .inside names
  | .inside [] | .outside => .outside

/-- An entry of the directory at a place. -/
def down (name : String) : Place → Place
  | .inside names => .inside (name :: names)
  | .outside => .outside

/-- Where a path starts that is read at a place; no absolute path leads into the disk. -/
def start (path : Path) (place : Place) : Place :=
  if Path.isAbsolute path then .outside else place

end Place

namespace Node

/-- What a directory is to a scan that lists it. -/
def kind : Node → EntryKind
  | .file _ => .file
  | .directory _ => .directory
  | .link _ => .other

mutual

/-- The number of nodes, the node itself included. -/
def size : Node → Nat
  | .file _ | .link _ => 1
  | .directory entries => 1 + sizeOfEntries entries

/-- The number of nodes below some entries. -/
def sizeOfEntries : List (String × Node) → Nat
  | [] => 0
  | (_, node) :: rest => node.size + sizeOfEntries rest

end

/-- The node that names lead to, without following links. -/
def descend : Node → List String → Option Node
  | node, [] => some node
  | .directory entries, name :: rest =>
    match entries.lookup name with
    | some node => node.descend rest
    | none => none
  | _, _ :: _ => none

/-- Entries with one name given a node, or taken away. -/
def assign (name : String) (node : Option Node) (entries : List (String × Node)) :
    List (String × Node) :=
  let others := entries.filter fun entry => entry.1 != name
  match node with
  | some node => (name, node) :: others
  | none => others

/-- Entries with a node put where names lead, through directories that are made as needed, or with
what is there taken away. -/
def put (node : Option Node) : List String → List (String × Node) → List (String × Node)
  | [], entries => entries
  | [name], entries => assign name node entries
  | name :: rest, entries =>
    match entries.lookup name with
    | some (.directory inner) => assign name (some (.directory (put node rest inner))) entries
    | _ =>
      if node.isSome then assign name (some (.directory (put node rest []))) entries else entries

end Node

namespace Disk

/-- The top directory as a node. -/
def top (disk : Disk) : Node :=
  .directory disk.entries

/-- The largest number of links that one path may lead through. -/
def mostLinks : Nat :=
  40

/-- The longest name, in bytes. -/
def longestName : Nat :=
  255

/-- The longest path, in bytes. -/
def longestPath : Nat :=
  4095

/-- The node at a place. All that is known of a directory above the disk is that it is there. -/
def node? (disk : Disk) : Place → Option Node
  | .inside names => disk.top.descend names.reverse
  | .outside => some (.directory [])

/-- Follows names from a place. The first argument bounds the steps, the second the links. -/
def follow (disk : Disk) : Nat → Nat → Place → List String → Except FileError Place
  | 0, _, _, _ => .error .tooManyLinks
  | _ + 1, _, place, [] => .ok place
  | steps + 1, links, place, name :: rest =>
    match disk.node? place with
    | some (.directory entries) =>
      -- Slashes that follow each other leave empty names.
      if name = "" ∨ name = "." then disk.follow steps links place rest
      else if name = ".." then disk.follow steps links place.up rest
      else if longestName < Text.byteLength name.toList then .error .nameTooLong
      else
        match entries.lookup name with
        | none => .error .notFound
        | some (.link target) =>
          match links with
          | 0 => .error .tooManyLinks
          | links + 1 =>
            if target = "" then .error .notFound
            -- A target is followed from the directory that holds the link.
            else disk.follow steps links (place.start target) (Path.pieces target ++ rest)
        | some _ => disk.follow steps links (place.down name) rest
    | _ => .error .notDirectory

/-- The number of steps within which every path ends: each link is followed by at most as many
names as the longest path has. -/
def mostSteps : Nat :=
  (mostLinks + 1) * (longestPath + 2)

/-- The node that a path leads to. -/
def locate (disk : Disk) (path : Path) : Except FileError Node :=
  if path.toList.contains '\x00' then .error .zeroInPath
  else if path = "" then .error .notFound
  else if longestPath < Text.byteLength path.toList then .error .nameTooLong
  else
    match disk.follow mostSteps mostLinks (Place.top.start path) (Path.pieces path) with
    | .error error => .error error
    | .ok place =>
      match disk.node? place with
      | some node => .ok node
      | none => .error .notFound

/-- The entries of a directory. -/
def list (disk : Disk) (path : Path) : Except FileError (List Entry) :=
  match disk.locate path with
  | .error error => .error error
  | .ok (.directory entries) => .ok (entries.map fun (name, node) => ⟨name, node.kind⟩)
  | .ok _ => .error .notDirectory

/-- The bytes of a file. -/
def read (disk : Disk) (path : Path) : Except FileError (List UInt8) :=
  match disk.locate path with
  | .error error => .error error
  | .ok (.file bytes) => .ok bytes
  | .ok _ => .error .isDirectory

/-- The disk with a node put at a path, in place of what was there, or taken away.

The directories of the path are made as needed; where they are there, links among them are
followed. -/
def write (disk : Disk) (path : Path) (node : Option Node) : Disk :=
  let names := Path.components path
  let parents := names.dropLast
  let place :=
    match disk.follow mostSteps mostLinks .top parents with
    -- Parents that lead nowhere yet are taken as they are named.
    | .ok (.inside place) => place.reverse
    | _ => parents
  ⟨Node.put node (place ++ names.drop parents.length) disk.entries⟩

end Disk

end TodoMarkers
