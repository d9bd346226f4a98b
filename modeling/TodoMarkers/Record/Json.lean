import TodoMarkers.Json.Shape
import TodoMarkers.Record

/-! The JSON form of records. -/

namespace TodoMarkers.MarkerRecord

/-- The names of a record's fields, in the order in which they are written. -/
def fieldNames : List String :=
  ["rawText", "text", "priorityKey", "typeKey", "contextKey", "assignee", "author", "sourcePath",
    "lineNumber"]

/-- The token of a key, or null without one. -/
def keyToJson {α : Type} (token : α → String) (key : Option α) : Json :=
  Json.ofOption (key.map token)

/-- A record as an object of all its fields. -/
def toJson (record : MarkerRecord) : Json :=
  .object
    [("rawText", .string record.rawText),
     ("text", .string record.text),
     ("priorityKey", keyToJson Priority.token record.priority),
     ("typeKey", keyToJson Kind.token record.kind),
     ("contextKey", keyToJson Context.token record.context),
     ("assignee", .ofOption record.assignee),
     ("author", .ofOption record.author),
     ("sourcePath", .string record.sourcePath),
     ("lineNumber", .natural record.lineNumber)]

/-- Reads a key: its token, an object that holds null under the token, or null for none. -/
def keyOfJson? {α : Type} (ofToken : String → Option α) (given : Option Json) :
    Option (Option α) :=
  match given with
  | none | some .null => some none
  | some (.string token) => (ofToken token).map some
  | some (.object [(token, .null)]) => (ofToken token).map some
  | some _ => none

/-- Reads a name, which may be null or left out. -/
def nameOfJson? (given : Option Json) : Option (Option String) :=
  match given with
  | none => some none
  | some json => json.asOption?

/-- Reads a line number, which 64 bits must hold. -/
def lineOfJson? (given : Option Json) : Option Nat :=
  match given with
  | some (.natural number) => if number < lineCapacity then some number else none
  | _ => none

/-- Reads a record.

An object may leave out the fields that may be null; an array gives all fields in their order. -/
def ofJson? (json : Json) : Option MarkerRecord :=
  match json.fields? fieldNames false with
  | some [rawText, text, priority, kind, context, assignee, author, sourcePath, lineNumber] => do
    let rawText ← rawText.bind Json.asString?
    let text ← text.bind Json.asString?
    let priority ← keyOfJson? Priority.ofToken? priority
    let kind ← keyOfJson? Kind.ofToken? kind
    let context ← keyOfJson? Context.ofToken? context
    let assignee ← nameOfJson? assignee
    let author ← nameOfJson? author
    let sourcePath ← sourcePath.bind Json.asString?
    let lineNumber ← lineOfJson? lineNumber
    some { rawText, text, priority, kind, context, assignee, author, sourcePath, lineNumber }
  | _ => none

/-- The shape of a record. -/
def shape : Json.Shape :=
  .fields "struct MarkerRecord"
    [("rawText", .required, .text "a string"),
     ("text", .required, .text "a string"),
     ("priorityKey", .nullable, .optional (.choice (Priority.all.map Priority.token))),
     ("typeKey", .nullable, .optional (.choice (Kind.all.map Kind.token))),
     ("contextKey", .nullable, .optional (.choice (Context.all.map Context.token))),
     ("assignee", .nullable, .optional (.text "a string")),
     ("author", .nullable, .optional (.text "a string")),
     ("sourcePath", .required, .text "path string"),
     ("lineNumber", .required, .count "usize")]

/-- Reads the text of a record. -/
def ofText (text : String) : Except Json.Fault MarkerRecord :=
  match shape.ofText text with
  | .error fault => .error fault
  | .ok json =>
    match ofJson? json with
    | some record => .ok record
    -- Every value of the shape is a record, so this fault does not arise.
    | none => .error (.atEnd .expectedValue)

end TodoMarkers.MarkerRecord
