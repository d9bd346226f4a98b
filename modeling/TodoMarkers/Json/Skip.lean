import TodoMarkers.Json.Token

/-! Passing over values that nobody asks for, however deeply they nest. -/

namespace TodoMarkers.Json

/-- What a value lies in. -/
inductive Enclosure where
  | array
  | object
  deriving DecidableEq, Repr

/-- Passes over the name and the colon of a member. -/
def skipName (text : List Char) : Except Fault (List Char) :=
  match skipSpaces text with
  | [] => .error (.atEnd .endInObject)
  | '"' :: rest =>
    match skipString rest with
    | .error fault => .error fault
    | .ok rest =>
      match skipSpaces rest with
      | [] => .error (.atEnd .endInObject)
      | ':' :: rest => .ok rest
      | rest => .error (.after .expectedColon rest)
  | rest => .error (.after .keyNotString rest)

/-- Passes over the name of the next member, which only objects have. -/
def skipNameIn : Enclosure → List Char → Except Fault (List Char)
  | .array, text => .ok text
  | .object, text => skipName text

/-- Passes over the closing brackets after a value, and over the comma and the name before the next.

The list holds what the value lies in, from the inside. The rest is absent when the outermost value
has ended, and otherwise starts at the next value. -/
def skipClosings : Bool → List Enclosure → List Char →
    Except Fault (List Enclosure × List Char)
  | _, [], text => .ok ([], text)
  | afterValue, enclosure :: outer, text =>
    match enclosure, skipSpaces text with
    | .array, [] => .error (.atEnd .endInArray)
    | .object, [] => .error (.atEnd .endInObject)
    | .array, ']' :: rest => skipClosings true outer rest
    | .object, '\x7d' :: rest => skipClosings true outer rest
    | .array, c :: rest =>
      -- Right behind the opening bracket there is no comma.
      if !afterValue then .ok (.array :: outer, c :: rest)
      else if c = ',' then .ok (.array :: outer, rest)
      else .error (.after .expectedArrayEnd (c :: rest))
    | .object, c :: rest =>
      if !afterValue then
        match skipName (c :: rest) with
        | .error fault => .error fault
        | .ok rest => .ok (.object :: outer, rest)
      else if c = ',' then
        match skipName rest with
        | .error fault => .error fault
        | .ok rest => .ok (.object :: outer, rest)
      else .error (.after .expectedObjectEnd (c :: rest))

/-- Passes over a value that holds no others. -/
def skipScalar : List Char → Except Fault (List Char)
  | [] => .error (.atEnd .endInValue)
  | c :: rest =>
    if c = 'n' then readWord ['u', 'l', 'l'] rest
    else if c = 't' then readWord ['r', 'u', 'e'] rest
    else if c = 'f' then readWord ['a', 'l', 's', 'e'] rest
    else if c = '"' then skipString rest
    else if c = '-' ∨ c.isDigit then skipNumber (c :: rest)
    else .error (.after .expectedValue (c :: rest))

/-- Passes over the values that a list of enclosures still waits for; the first argument bounds
their number. -/
def skipWithin : Nat → List Enclosure → List Char → Except Fault (List Char)
  | 0, _, text => .ok text
  | bound + 1, enclosures, text =>
    let closed :=
      match skipSpaces text with
      | '[' :: rest => skipClosings false (.array :: enclosures) rest
      | '\x7b' :: rest => skipClosings false (.object :: enclosures) rest
      | rest =>
        match skipScalar rest with
        | .error fault => .error fault
        | .ok rest => skipClosings true enclosures rest
    match closed with
    | .error fault => .error fault
    | .ok ([], rest) => .ok rest
    | .ok (enclosures, rest) => skipWithin bound enclosures rest

/-- Passes over one value. -/
def skipValue (text : List Char) : Except Fault (List Char) :=
  skipWithin (text.length + 1) [] text

end TodoMarkers.Json
