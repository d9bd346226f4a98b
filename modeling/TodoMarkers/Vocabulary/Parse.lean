import TodoMarkers.Text.Blank
import TodoMarkers.Text.Occurrence
import TodoMarkers.Vocabulary.Key

/-! Keys read from what people type: a slug or a token, in any case, with blanks around it. -/

namespace TodoMarkers

/-- A text that names no key of its category. -/
structure UnknownKey where
  /-- The category that was searched. -/
  category : Category
  /-- The text as it was given. -/
  value : String
  deriving DecidableEq, Repr

/-- The sentence that reports an unknown key. -/
def UnknownKey.message (error : UnknownKey) : String :=
  "unknown " ++ error.category.word ++ " key: " ++ error.value

/-- A typed key without its blanks, its capitals and one pair of brackets. -/
def bareKey (input : List Char) : List Char :=
  let normal := (Text.trim input).map Char.toLower
  -- The brackets go together or not at all.
  ((Text.stripPrefix? ['['] normal).bind (Text.stripSuffix? [']'])).getD normal

/-- The first key of a category whose slug is the bare form of the input. -/
def parseKeyAmong {α : Type} (category : Category) (keys : List α) (slug : α → String)
    (input : String) : Except UnknownKey α :=
  match keys.find? fun key => (slug key).toList == bareKey input.toList with
  | some key => .ok key
  | none => .error ⟨category, input⟩

/-- Reads a typed priority. -/
def Priority.parse (input : String) : Except UnknownKey Priority :=
  parseKeyAmong .priority Priority.all Priority.slug input

/-- Reads a typed kind. -/
def Kind.parse (input : String) : Except UnknownKey Kind :=
  parseKeyAmong .kind Kind.all Kind.slug input

/-- Reads a typed context. -/
def Context.parse (input : String) : Except UnknownKey Context :=
  parseKeyAmong .context Context.all Context.slug input

/-- Reads a typed metadata key, where the blocking flag may also be written as one word. -/
def Metadata.parse (input : String) : Except UnknownKey Metadata :=
  if (Text.trim input.toList).map Char.toLower = "blockcommit".toList then
    .ok .blockCommit
  else
    parseKeyAmong .metadata Metadata.all Metadata.slug input

/-- The priority whose token is exactly the given text. -/
def Priority.ofToken? (token : String) : Option Priority :=
  Priority.all.find? fun key => key.token == token

/-- The kind whose token is exactly the given text. -/
def Kind.ofToken? (token : String) : Option Kind :=
  Kind.all.find? fun key => key.token == token

/-- The context whose token is exactly the given text. -/
def Context.ofToken? (token : String) : Option Context :=
  Context.all.find? fun key => key.token == token

/-- The metadata key whose token is exactly the given text. -/
def Metadata.ofToken? (token : String) : Option Metadata :=
  Metadata.all.find? fun key => key.token == token

end TodoMarkers
