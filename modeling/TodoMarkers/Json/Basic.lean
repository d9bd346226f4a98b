/-! JSON values and their compact and indented texts. -/

namespace TodoMarkers

/-- A JSON value. -/
inductive Json where
  | null
  | bool (value : Bool)
  /-- A number without a sign, a fraction or an exponent. -/
  | natural (value : Nat)
  /-- Any other number, as it is written. -/
  | decimal (literal : String)
  | string (value : String)
  | array (items : List Json)
  /-- The members in the order in which they are written. -/
  | object (members : List (String × Json))
  deriving Repr, Inhabited, BEq

namespace Json

/-- A hexadecimal digit, in lower case. -/
def hexDigit (n : Nat) : Char :=
  (Nat.toDigits 16 n).headD '0'

/-- A character as it stands in a JSON string. -/
def escapeChar (c : Char) : List Char :=
  match c with
  | '"' => ['\\', '"']
  | '\\' => ['\\', '\\']
  | '\n' => ['\\', 'n']
  | '\r' => ['\\', 'r']
  | '\t' => ['\\', 't']
  | '\x08' => ['\\', 'b']
  | '\x0c' => ['\\', 'f']
  | _ =>
    if c.toNat < 0x20 then
      ['\\', 'u', '0', '0', hexDigit (c.toNat / 16), hexDigit (c.toNat % 16)]
    else
      [c]

/-- A JSON string. -/
def renderString (text : String) : List Char :=
  '"' :: (text.toList.flatMap escapeChar ++ ['"'])

/-- Texts one after the other, with a separator between them. -/
def separated (separator : List Char) : List (List Char) → List Char
  | [] => []
  | [text] => text
  | text :: rest => text ++ separator ++ separated separator rest

mutual

/-- A value without blanks. -/
def compactChars : Json → List Char
  | .null => "null".toList
  | .bool true => "true".toList
  | .bool false => "false".toList
  | .natural value => (toString value).toList
  | .decimal literal => literal.toList
  | .string value => renderString value
  | .array items => '[' :: (separated [','] (compactItems items) ++ [']'])
  | .object members => '\x7b' :: (separated [','] (compactMembers members) ++ ['\x7d'])

/-- The items of an array without blanks. -/
def compactItems : List Json → List (List Char)
  | [] => []
  | item :: rest => compactChars item :: compactItems rest

/-- The members of an object without blanks. -/
def compactMembers : List (String × Json) → List (List Char)
  | [] => []
  | (name, value) :: rest =>
    (renderString name ++ ':' :: compactChars value) :: compactMembers rest

end

/-- A new line, indented by two spaces for each level. -/
def newline (level : Nat) : List Char :=
  '\n' :: List.replicate (2 * level) ' '

/-- The pieces of an array or object, each on a line of its own. -/
def block (level : Nat) (opening closing : Char) (pieces : List (List Char)) : List Char :=
  if pieces.isEmpty then [opening, closing]
  else
    opening :: (newline (level + 1) ++ separated (',' :: newline (level + 1)) pieces ++
      newline level ++ [closing])

mutual

/-- A value whose arrays and objects take one line for each piece. -/
def prettyChars (level : Nat) : Json → List Char
  | .null => "null".toList
  | .bool true => "true".toList
  | .bool false => "false".toList
  | .natural value => (toString value).toList
  | .decimal literal => literal.toList
  | .string value => renderString value
  | .array items => block level '[' ']' (prettyItems level items)
  | .object members => block level '\x7b' '\x7d' (prettyMembers level members)

/-- The items of an array, one level further in. -/
def prettyItems (level : Nat) : List Json → List (List Char)
  | [] => []
  | item :: rest => prettyChars (level + 1) item :: prettyItems level rest

/-- The members of an object, one level further in. -/
def prettyMembers (level : Nat) : List (String × Json) → List (List Char)
  | [] => []
  | (name, value) :: rest =>
    (renderString name ++ ':' :: ' ' :: prettyChars (level + 1) value) :: prettyMembers level rest

end

/-- The text of a value without blanks. -/
def compact (value : Json) : String :=
  String.ofList value.compactChars

/-- The text of a value with indented lines. -/
def pretty (value : Json) : String :=
  String.ofList (value.prettyChars 0)

/-- A string, or null in its absence. -/
def ofOption (value : Option String) : Json :=
  match value with
  | some text => .string text
  | none => .null

/-- The text of a string. -/
def asString? : Json → Option String
  | .string value => some value
  | _ => none

/-- The text of a string, or nothing for null; other values are refused. -/
def asOption? : Json → Option (Option String)
  | .null => some none
  | .string value => some (some value)
  | _ => none

/-- The values of named fields.

An object gives each field by its name, at most once, and may have other members. An array gives the
fields in their order; it may end early where that is allowed, but never go on. -/
def fields? (names : List String) (mayEndEarly : Bool) : Json → Option (List (Option Json))
  | .object members =>
    let known := (members.map Prod.fst).filter names.contains
    if known.Nodup then some (names.map fun name => members.lookup name) else none
  | .array items =>
    if items.length = names.length ∨ (mayEndEarly ∧ items.length < names.length) then
      some (items.map some ++ List.replicate (names.length - items.length) none)
    else
      none
  | _ => none

end Json

end TodoMarkers
