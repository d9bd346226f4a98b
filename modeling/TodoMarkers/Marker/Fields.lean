import TodoMarkers.Marker.Line
import TodoMarkers.Vocabulary.Glyph
import TodoMarkers.Vocabulary.Parse

/-! The fields of a marker: its slots, its message, its assignee and its author. -/

namespace TodoMarkers

/-- The fields of one marker. -/
structure MarkerFields where
  /-- What follows the keyword, without its blanks and comment closer. -/
  text : String := ""
  /-- The message: the text after the slots. -/
  rawText : String := ""
  /-- The key of the priority slot. -/
  priority : Option Priority := none
  /-- The key of the kind slot. -/
  kind : Option Kind := none
  /-- The key of the context slot. -/
  context : Option Context := none
  /-- Who is to do the work. -/
  assignee : Option String := none
  /-- Who wrote the marker. -/
  author : Option String := none
  deriving DecidableEq, Repr

/-- Whether any slot is filled. -/
def MarkerFields.isClassified (fields : MarkerFields) : Bool :=
  fields.priority.isSome || fields.kind.isSome || fields.context.isSome

namespace Marker

/-- The key whose token opens a text, and what follows the token. -/
def takeKey {α : Type} (keys : List α) (token : α → String) (text : List Char) :
    Option α × List Char :=
  match keys.findSome? fun key =>
    (Text.stripPrefix? (token key).toList text).map fun rest => (key, rest) with
  | some (key, rest) => (some key, rest)
  | none => (none, text)

/-- A slot that may stand before others: the blanks after its token go with it. -/
def takeSlot {α : Type} (keys : List α) (token : α → String) (text : List Char) :
    Option α × List Char :=
  match takeKey keys token text with
  | (some key, rest) => (some key, Text.trimStart rest)
  | (none, rest) => (none, rest)

/-- The keys in the three slots at the head of a text. -/
structure Slots where
  /-- The key of the first slot. -/
  priority : Option Priority
  /-- The key of the second slot. -/
  kind : Option Kind
  /-- The key of the third slot. -/
  context : Option Context
  deriving DecidableEq, Repr

/-- Reads the slots in their order, each of which may be missing, and returns what follows them. -/
def takeSlots (text : List Char) : Slots × List Char :=
  let (priority, afterPriority) := takeSlot Priority.all Priority.token text
  let (kind, afterKind) := takeSlot Kind.all Kind.token afterPriority
  -- The blanks behind the last slot are left to the message.
  let (context, message) := takeKey Context.all Context.token afterKind
  (⟨priority, kind, context⟩, message)

/-- The value of a block whose name has been read: a colon, one blank, and a run up to a bracket. -/
def blockValue? : List Char → Option (List Char)
  | ':' :: blank :: rest =>
    if Text.isBlank blank then
      match rest.takeWhile (· != ']'), rest.dropWhile (· != ']') with
      -- A block that is never closed has no value.
      | _, [] => none
      | [], _ => none
      | value, _ => some value
    else
      none
  | _ => none

/-- The value of the block at the very head of a text, under the first name that fits. -/
def blockAt? (names : List String) : List Char → Option (List Char)
  | '[' :: rest =>
    names.findSome? fun name => (Text.stripPrefix? name.toList rest).bind blockValue?
  | _ => none

/-- The value of the first block of a text, as it is written. -/
def firstBlock? (names : List String) : List Char → Option (List Char)
  | [] => none
  | c :: rest =>
    match blockAt? names (c :: rest) with
    | some value => some value
    | none => firstBlock? names rest

/-- The trimmed value of the first block of a text, absent when it is blank. -/
def blockText? (names : List String) (text : List Char) : Option String :=
  (firstBlock? names text).bind fun value => Text.nonBlank? (String.ofList value)

end Marker

/-- What a vocabulary decides about reading fields: the names of the two blocks that name people. -/
structure Grammar where
  /-- The names that an assignee block may have, in order of preference. -/
  assigneeNames : List String
  /-- The names that an author block may have, in order of preference. -/
  authorNames : List String
  deriving DecidableEq, Repr

namespace Grammar

/-- A block may be named by its slug, its default glyph, or a configured glyph that differs. -/
def blockNames (vocabulary : Vocabulary) (key : Metadata) : List String :=
  let configured := vocabulary.glyph (.metadata key)
  [key.slug, key.defaultGlyph] ++ if configured = key.defaultGlyph then [] else [configured]

/-- The grammar of a vocabulary. -/
def ofVocabulary (vocabulary : Vocabulary) : Grammar :=
  ⟨blockNames vocabulary .assignee, blockNames vocabulary .author⟩

/-- The grammar of the vocabulary without overrides. -/
def standard : Grammar :=
  ofVocabulary .standard

/-- The fields of the text after a marker's keyword. -/
def extractFields (grammar : Grammar) (remainder : List Char) : MarkerFields :=
  let text := Marker.stripCloser remainder
  let (slots, message) := Marker.takeSlots text
  { text := String.ofList text
    rawText := String.ofList (Text.trim message)
    priority := slots.priority
    kind := slots.kind
    context := slots.context
    assignee := Marker.blockText? grammar.assigneeNames text
    author := Marker.blockText? grammar.authorNames text }

/-- The fields of a line, absent when it holds no marker. -/
def parseLine? (grammar : Grammar) (line : List Char) : Option MarkerFields :=
  (Marker.remainder? line).map grammar.extractFields

end Grammar

end TodoMarkers
