/-! Places of a document as lines and columns, in characters or in UTF-16 code units. -/

namespace TodoMarkers

/-- A line and a column, both counted from zero. -/
structure Position where
  /-- The line. -/
  line : Nat
  /-- The column. -/
  character : Nat
  deriving DecidableEq, Repr

/-- How many UTF-16 code units a character takes. -/
def utf16Length (c : Char) : Nat :=
  if c.toNat < 0x10000 then 1 else 2

/-- The places after the newlines of a text that starts at a place. -/
def lineStartsFrom : Nat → List Char → List Nat
  | _, [] => []
  | place, c :: rest =>
    if c = '\n' then (place + 1) :: lineStartsFrom (place + 1) rest
    else lineStartsFrom (place + 1) rest

/-- The code units before each character of a text, and before its end. -/
def unitsFrom : Nat → List Char → List Nat
  | units, [] => [units]
  | units, c :: rest => units :: unitsFrom (units + utf16Length c) rest

/-- The lines of a document, and the code units before each of its places. -/
structure TextIndex where
  /-- The places where lines start, in increasing order. -/
  lineStarts : List Nat
  /-- The code units before each place, the end of the document included. -/
  unitsBefore : Array Nat

namespace TextIndex

/-- The index of a text. -/
def ofText (text : List Char) : TextIndex :=
  ⟨0 :: lineStartsFrom 0 text, (unitsFrom 0 text).toArray⟩

/-- The length of the document in characters. -/
def length (index : TextIndex) : Nat :=
  index.unitsBefore.size - 1

/-- A place no further than the end of the document. -/
def clamp (index : TextIndex) (offset : Nat) : Nat :=
  min offset index.length

/-- The line of a place: the last one that starts at or before it. -/
def lineOf (index : TextIndex) (offset : Nat) : Nat :=
  (index.lineStarts.takeWhile (· ≤ offset)).length - 1

/-- The place where a line starts. -/
def startOf (index : TextIndex) (line : Nat) : Nat :=
  index.lineStarts.getD line 0

/-- The code units before a place. -/
def unitsAt (index : TextIndex) (offset : Nat) : Nat :=
  index.unitsBefore.getD offset 0

/-- The position of a place, with its column in characters. -/
def position (index : TextIndex) (offset : Nat) : Position :=
  let place := index.clamp offset
  let line := index.lineOf place
  ⟨line, place - index.startOf line⟩

/-- The position of a place, with its column in UTF-16 code units. -/
def utf16Position (index : TextIndex) (offset : Nat) : Position :=
  let place := index.clamp offset
  let line := index.lineOf place
  ⟨line, index.unitsAt place - index.unitsAt (index.startOf line)⟩

end TextIndex

end TodoMarkers
