import TodoMarkers.Json.Basic
import TodoMarkers.Json.Skip

/-! Shapes that a reader expects, and the reading of texts that have them. -/

namespace TodoMarkers.Json

/-- What happens to a field that is not given. -/
inductive Presence where
  /-- Its absence is a fault. -/
  | required
  /-- An object may leave it out, an array may not. -/
  | nullable
  /-- It may always be left out. -/
  | defaulted
  deriving DecidableEq, Repr

/-- What a reader expects of a value.

The words with which a message names the expectation come with the shape. -/
inductive Shape where
  /-- Any value. -/
  | anything
  /-- A string. -/
  | text (expected : String)
  /-- A natural number of at most 64 bits. -/
  | count (expected : String)
  /-- One of some words, or an object that holds null under one of them. -/
  | choice (words : List String)
  /-- Null or a value of a shape. -/
  | optional (shape : Shape)
  /-- An object of strings. -/
  | table
  /-- An object of named fields, or an array of their values in order. -/
  | fields (expected : String) (fields : List (String × Presence × Shape))

/-- Refuses the value at the head of a text, which is of another sort than the wanted one. -/
def refuse {α : Type} (expected : String) (text : List Char) : Except Fault α :=
  let mismatch (found : Found) (rest : List Char) : Fault :=
    .before (.mismatch found expected) rest
  match text with
  | [] => .error (.atEnd .endInValue)
  | c :: rest =>
    let word (letters : List Char) (found : Found) : Except Fault α :=
      match readWord letters rest with
      | .error fault => .error fault
      | .ok rest => .error (mismatch found rest)
    if c = 'n' then word ['u', 'l', 'l'] .null
    else if c = 't' then word ['r', 'u', 'e'] (.bool true)
    else if c = 'f' then word ['a', 'l', 's', 'e'] (.bool false)
    else if c = '"' then
      match readString rest with
      | .error fault => .error fault
      | .ok (value, rest) => .error (mismatch (.string value) rest)
    else if c = '[' then .error (mismatch .sequence text)
    else if c = '\x7b' then .error (mismatch .map text)
    else if c = '-' ∨ c.isDigit then
      match readNumber text with
      | .error fault => .error fault
      | .ok (.natural value, rest) => .error (mismatch (.integer value) rest)
      | .ok (.negative value, rest) => .error (mismatch (.integer value) rest)
      | .ok (.float value, rest) => .error (mismatch (.float value) rest)
    else .error (.after .expectedValue text)

/-- Reads a string. -/
def readText (expected : String) (text : List Char) : Reading String :=
  match skipSpaces text with
  | '"' :: rest => readString rest
  | rest => refuse expected rest

/-- Reads a natural number of at most 64 bits. -/
def readCount (expected : String) (text : List Char) : Reading Nat :=
  let start := skipSpaces text
  match start with
  | c :: _ =>
    if c = '-' ∨ c.isDigit then
      match readNumber start with
      | .ok (.natural value, rest) => .ok (value, rest)
      | .error fault => .error fault
      | .ok _ => refuse expected start
    else refuse expected start
  | [] => refuse expected start

/-- Reads the colon after a name. -/
def readColon (text : List Char) : Except Fault (List Char) :=
  match skipSpaces text with
  | ':' :: rest => .ok rest
  | [] => .error (.atEnd .endInObject)
  | rest => .error (.after .expectedColon rest)

/-- Reads one of some words, or an object that holds null under one of them. -/
def readChoice (words : List String) (text : List Char) : Reading Json :=
  let known (word : String) (rest : List Char) : Reading String :=
    if words.contains word then .ok (word, rest)
    else .error (.before (.unknownWord word words) rest)
  match skipSpaces text with
  | [] => .error (.atEnd .endInValue)
  | '"' :: rest =>
    match readString rest with
    | .error fault => .error fault
    | .ok (word, rest) =>
      match known word rest with
      | .error fault => .error fault
      | .ok (word, rest) => .ok (.string word, rest)
  | '\x7b' :: rest =>
    match readText "variant identifier" rest with
    | .error fault => .error fault
    | .ok (word, rest) =>
      match known word rest with
      | .error fault => .error fault
      | .ok (word, rest) =>
        match readColon rest with
        | .error fault => .error fault
        | .ok rest =>
          match skipSpaces rest with
          | 'n' :: rest =>
            match readWord ['u', 'l', 'l'] rest with
            | .error fault => .error fault
            | .ok rest =>
              match skipSpaces rest with
              | '\x7d' :: rest => .ok (.object [(word, .null)], rest)
              | [] => .error (.atEnd .endInObject)
              | rest => .error (.before .expectedValue rest)
          | rest => refuse "unit" rest
  | rest => .error (.after .expectedValue rest)

/-- The start of the next item of an array, absent at its closing bracket. -/
def nextItem? (first : Bool) (text : List Char) : Except Fault (Option (List Char)) :=
  match skipSpaces text with
  | [] => .error (.atEnd .endInArray)
  | c :: rest =>
    if c = ']' then .ok none
    else if first then .ok (some (c :: rest))
    else if c = ',' then
      match skipSpaces rest with
      | [] => .error (.atEnd .endInValue)
      | d :: rest =>
        if d = ']' then .error (.after .trailingComma (d :: rest)) else .ok (some (d :: rest))
    else .error (.after .expectedArrayEnd (c :: rest))

/-- Reads the closing bracket of an array whose items have all been read. -/
def readArrayEnd (text : List Char) : Except Fault (List Char) :=
  match skipSpaces text with
  | [] => .error (.atEnd .endInArray)
  | ']' :: rest => .ok rest
  | ',' :: rest =>
    match skipSpaces rest with
    | ']' :: rest => .error (.after .trailingComma (']' :: rest))
    | rest => .error (.after .trailingCharacters rest)
  | rest => .error (.after .trailingCharacters rest)

/-- The name of the next member of an object, absent at its closing brace. -/
def nextName? (first : Bool) (text : List Char) : Except Fault (Option (String × List Char)) :=
  let name (text : List Char) : Except Fault (Option (String × List Char)) :=
    match readString text with
    | .error fault => .error fault
    | .ok found => .ok (some found)
  match skipSpaces text with
  | [] => .error (.atEnd .endInObject)
  | c :: rest =>
    if c = '\x7d' then .ok none
    else if first then
      if c = '"' then name rest else .error (.after .keyNotString (c :: rest))
    else if c = ',' then
      match skipSpaces rest with
      | [] => .error (.atEnd .endInValue)
      | d :: rest =>
        if d = '"' then name rest
        else if d = '\x7d' then .error (.after .trailingComma (d :: rest))
        else .error (.after .keyNotString (d :: rest))
    else .error (.after .expectedObjectEnd (c :: rest))

/-- Reads the members of an object, each by what is given for it; the bound limits their number.

The rest starts after the closing brace. -/
def readMembers {σ : Type} (member : σ → String → List Char → Reading σ) :
    Nat → Bool → σ → List Char → Reading σ
  | 0, _, state, text => .ok (state, text)
  | bound + 1, first, state, text =>
    match nextName? first text with
    | .error fault => .error fault
    | .ok none => .ok (state, (skipSpaces text).drop 1)
    | .ok (some (name, rest)) =>
      match member state name rest with
      | .error fault => .error fault
      | .ok (state, rest) => readMembers member bound false state rest

/-- Reads the items of an array, each by what is given for it; the bound limits their number.

The rest starts after the closing bracket. -/
def readItems (item : List Char → Reading Json) :
    Nat → Bool → List Char → Reading (List Json)
  | 0, _, text => .ok ([], text)
  | bound + 1, first, text =>
    match nextItem? first text with
    | .error fault => .error fault
    | .ok none => .ok ([], (skipSpaces text).drop 1)
    | .ok (some rest) =>
      match item rest with
      | .error fault => .error fault
      | .ok (value, rest) =>
        match readItems item bound false rest with
        | .error fault => .error fault
        | .ok (others, rest) => .ok (value :: others, rest)

/-- The literal that was read between two places of a text. -/
def literalBetween (text rest : List Char) : String :=
  String.ofList (text.take (text.length - rest.length))

/-- Reads a value that holds no others. -/
def readScalar (text : List Char) : Reading Json :=
  let word (letters : List Char) (value : Json) (rest : List Char) : Reading Json :=
    match readWord letters rest with
    | .error fault => .error fault
    | .ok rest => .ok (value, rest)
  match text with
  | [] => .error (.atEnd .endInValue)
  | c :: rest =>
    if c = 'n' then word ['u', 'l', 'l'] .null rest
    else if c = 't' then word ['r', 'u', 'e'] (.bool true) rest
    else if c = 'f' then word ['a', 'l', 's', 'e'] (.bool false) rest
    else if c = '"' then
      match readString rest with
      | .error fault => .error fault
      | .ok (value, rest) => .ok (.string value, rest)
    else if c = '-' ∨ c.isDigit then
      match readNumber text with
      | .error fault => .error fault
      | .ok (.natural value, rest) => .ok (.natural value, rest)
      -- Any other number is kept as it is written.
      | .ok (_, rest) => .ok (.decimal (literalBetween text rest), rest)
    else .error (.after .expectedValue text)

/-- The deepest nesting of a value that is kept. -/
def deepest : Nat :=
  127

/-- Reads any value, no deeper than the bound. -/
def readAny : Nat → List Char → Reading Json
  | depth, text =>
    match skipSpaces text, depth with
    | '[' :: rest, 0 => .error (.after .tooDeep ('[' :: rest))
    | '\x7b' :: rest, 0 => .error (.after .tooDeep ('\x7b' :: rest))
    | '[' :: rest, depth + 1 =>
      match readItems (readAny depth) (rest.length + 1) true rest with
      | .error fault => .error fault
      | .ok (items, rest) => .ok (.array items, rest)
    | '\x7b' :: rest, depth + 1 =>
      let member (members : List (String × Json)) (name : String) (rest : List Char) :
          Reading (List (String × Json)) :=
        match readColon rest with
        | .error fault => .error fault
        | .ok rest =>
          match readAny depth rest with
          | .error fault => .error fault
          | .ok (value, rest) => .ok (members ++ [(name, value)], rest)
      match readMembers member (rest.length + 1) true [] rest with
      | .error fault => .error fault
      | .ok (members, rest) => .ok (.object members, rest)
    | rest, _ => readScalar rest

/-- Reads an object of strings. -/
def readTable (text : List Char) : Reading Json :=
  let member (members : List (String × Json)) (name : String) (rest : List Char) :
      Reading (List (String × Json)) :=
    match readColon rest with
    | .error fault => .error fault
    | .ok rest =>
      match readText "a string" rest with
      | .error fault => .error fault
      | .ok (value, rest) => .ok (members ++ [(name, .string value)], rest)
  match skipSpaces text with
  | '\x7b' :: rest =>
    match readMembers member (rest.length + 1) true [] rest with
    | .error fault => .error fault
    | .ok (members, rest) => .ok (.object members, rest)
  | rest => refuse "a map" rest

/-- The fault of a field that is given twice, placed after the object if it ends there. -/
def duplicate (name : String) (rest : List Char) : Fault :=
  match skipSpaces rest with
  | '\x7d' :: rest => .before (.duplicateField name) rest
  | rest => .before (.duplicateField name) rest

/-- The first required field that is not among some members. -/
def missing? (fields : List (String × Presence × Shape)) (members : List (String × Json)) :
    Option String :=
  (fields.find? fun field =>
    field.2.1 = .required && !(members.map Prod.fst).contains field.1).map Prod.fst

mutual

/-- Reads a value of a shape; members that the shape does not know are passed over. -/
def Shape.read : Shape → List Char → Reading Json
  | .anything, text => readAny deepest text
  | .text expected, text =>
    match readText expected text with
    | .error fault => .error fault
    | .ok (value, rest) => .ok (.string value, rest)
  | .count expected, text =>
    match readCount expected text with
    | .error fault => .error fault
    | .ok (value, rest) => .ok (.natural value, rest)
  | .choice words, text => readChoice words text
  | .optional shape, text =>
    match skipSpaces text with
    | 'n' :: rest =>
      match readWord ['u', 'l', 'l'] rest with
      | .error fault => .error fault
      | .ok rest => .ok (.null, rest)
    | rest => shape.read rest
  | .table, text => readTable text
  | .fields expected fields, text =>
    let member (members : List (String × Json)) (name : String) (rest : List Char) :
        Reading (List (String × Json)) :=
      match readField fields name with
      | none =>
        match readColon rest with
        | .error fault => .error fault
        | .ok rest =>
          match skipValue rest with
          | .error fault => .error fault
          | .ok rest => .ok (members, rest)
      | some read =>
        if (members.map Prod.fst).contains name then .error (duplicate name rest)
        else
          match readColon rest with
          | .error fault => .error fault
          | .ok rest =>
            match read rest with
            | .error fault => .error fault
            | .ok (value, rest) => .ok (members ++ [(name, value)], rest)
    match skipSpaces text with
    | '\x7b' :: rest =>
      match readMembers member (rest.length + 1) true [] rest with
      | .error fault => .error fault
      | .ok (members, rest) =>
        match missing? fields members with
        | some name => .error (.before (.missingField name) rest)
        | none => .ok (.object members, rest)
    | '[' :: rest =>
      -- An array gives the values of the fields in their order, without names.
      match readInOrder expected fields 0 rest with
      | .error fault => .error fault
      | .ok (items, rest) => .ok (.array items, rest)
    | rest => refuse expected rest

/-- How the value of a named field is read, if there is such a field. -/
def readField : List (String × Presence × Shape) → String → Option (List Char → Reading Json)
  | [], _ => none
  | (field, _, shape) :: others, name =>
    if field = name then some shape.read else readField others name

/-- Reads the values of fields in their order, up to the end of the array. -/
def readInOrder (expected : String) :
    List (String × Presence × Shape) → Nat → List Char → Reading (List Json)
  | [], _, text =>
    match readArrayEnd text with
    | .error fault => .error fault
    | .ok rest => .ok ([], rest)
  | (_, presence, shape) :: others, number, text =>
    match nextItem? (number == 0) text with
    | .error fault => .error fault
    | .ok none =>
      if presence = .defaulted then readInOrder expected others number text
      else
        .error (.before (.tooShort number
          (expected ++ " with " ++ toString (number + 1 + others.length) ++ " elements"))
          ((skipSpaces text).drop 1))
    | .ok (some rest) =>
      match shape.read rest with
      | .error fault => .error fault
      | .ok (value, rest) =>
        match readInOrder expected others (number + 1) rest with
        | .error fault => .error fault
        | .ok (items, rest) => .ok (value :: items, rest)

end

/-- Reads a text that holds one value of a shape and nothing else. -/
def Shape.ofText (shape : Shape) (text : String) : Except Fault Json :=
  match shape.read text.toList with
  | .error fault => .error fault
  | .ok (value, rest) =>
    match skipSpaces rest with
    | [] => .ok value
    | rest => .error (.after .trailingCharacters rest)

end TodoMarkers.Json
