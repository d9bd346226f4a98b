import TodoMarkers.Marker.Fields
import TodoMarkers.Path

/-! Records: the fields of a marker together with the place where it was found. -/

namespace TodoMarkers

/-- One marker found in a file. -/
structure MarkerRecord extends MarkerFields where
  /-- The file. -/
  sourcePath : Path
  /-- The line within the file, counted from zero. -/
  lineNumber : Nat
  deriving DecidableEq, Repr

namespace MarkerRecord

/-- The number of line numbers that can be told apart. -/
def lineCapacity : Nat :=
  Nat.pow 2 64

/-- The rank of markers without a priority. -/
def unclassifiedRank : Nat :=
  999

/-- Sort rank: high, medium, low, then markers without a priority. -/
def rank (record : MarkerRecord) : Nat :=
  (record.priority.map Priority.rank).getD unclassifiedRank

/-- The file's name and the line counted from one, or the whole path where it has no name. -/
def location (record : MarkerRecord) : String :=
  (Path.fileName? record.sourcePath).getD record.sourcePath ++ ":" ++
    toString ((record.lineNumber + 1) % lineCapacity)

end MarkerRecord

/-- The records of some lines, the first of which has a given number. -/
def scanLines (grammar : Grammar) (path : Path) : Nat → List (List Char) → List MarkerRecord
  | _, [] => []
  | number, line :: rest =>
    match grammar.parseLine? line with
    | some fields => ⟨fields, path, number⟩ :: scanLines grammar path (number + 1) rest
    | none => scanLines grammar path (number + 1) rest

/-- The records of a file's text. -/
def scanText (grammar : Grammar) (path : Path) (text : String) : List MarkerRecord :=
  scanLines grammar path 0 (Text.lines text.toList)

end TodoMarkers
