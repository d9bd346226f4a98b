import TodoMarkers.Json.Shape
import TodoMarkers.Vocabulary.Glyph

/-! The configuration, and its JSON form. -/

namespace TodoMarkers

/-- How markers are shown, and where tickets are found. -/
structure Config where
  /-- How a key is shown. -/
  displayMode : DisplayMode := .emoji
  /-- The address below which tickets are found. -/
  ticketBaseUrl : Option String := none
  /-- The glyphs that replace default ones. -/
  glyphs : GlyphOverrides := {}
  deriving DecidableEq

namespace GlyphTable

/-- A table as an object of strings. -/
def toJson (table : GlyphTable) : Json :=
  .object (table.entries.map fun entry => (entry.1, .string entry.2))

/-- The members of a table that is not empty. -/
def member (name : String) (table : GlyphTable) : List (String × Json) :=
  if table.isEmpty then [] else [(name, table.toJson)]

/-- Reads an object of strings; of a repeated name the last value counts. -/
def ofJson? : Json → Option GlyphTable
  | .object members =>
    (members.mapM fun (member : String × Json) =>
      member.2.asString?.map fun glyph => (member.1, glyph)).map ofEntries
  | _ => none

end GlyphTable

namespace GlyphOverrides

/-- Overrides as an object that leaves out empty tables. -/
def toJson (overrides : GlyphOverrides) : Json :=
  .object (Category.all.flatMap fun category => (overrides.table category).member category.word)

/-- Reads overrides, whose tables may all be left out. -/
def ofJson? (json : Json) : Option GlyphOverrides :=
  let table (given : Option Json) : Option GlyphTable :=
    match given with
    | some json => GlyphTable.ofJson? json
    | none => some .empty
  match json.fields? (Category.all.map Category.word) true with
  | some [priority, kind, context, metadata] =>
    match table priority, table kind, table context, table metadata with
    | some priority, some kind, some context, some metadata =>
      some { priority, kind, context, metadata }
    | _, _, _, _ => none
  | _ => none

/-- The shape of overrides. -/
def shape : Json.Shape :=
  .fields "struct EmojiOverrides" (Category.all.map fun category =>
    (category.word, .defaulted, .table))

end GlyphOverrides

namespace Config

/-- The vocabulary with the configured glyphs. -/
def vocabulary (config : Config) : Vocabulary :=
  .ofOverrides config.glyphs

/-- The names of the configuration's fields. -/
def fieldNames : List String :=
  ["displayMode", "ticketBaseUrl", "emojis"]

/-- A configuration as an object that leaves out an absent address and empty overrides. -/
def toJson (config : Config) : Json :=
  .object ([("displayMode", .string config.displayMode.word)] ++
    (match config.ticketBaseUrl with
      | some url => [("ticketBaseUrl", Json.string url)]
      | none => []) ++
    (if config.glyphs.isEmpty then [] else [("emojis", config.glyphs.toJson)]))

/-- The display mode of a field; one that is absent or unknown counts as the emoji mode. -/
def modeOfField? (given : Option Json) : Option DisplayMode :=
  match given with
  | none => some .emoji
  | some json =>
    json.asOption?.map fun value =>
      match value with
      | some word => (DisplayMode.parse word).toOption.getD .emoji
      | none => .emoji

/-- Reads a configuration, whose fields may all be left out. -/
def ofJson? (json : Json) : Option Config :=
  match json.fields? fieldNames true with
  | some [mode, url, glyphs] =>
    let url :=
      match url with
      | some json => json.asOption?
      | none => some none
    let glyphs :=
      match glyphs with
      | some json => GlyphOverrides.ofJson? json
      | none => some {}
    match modeOfField? mode, url, glyphs with
    | some displayMode, some ticketBaseUrl, some glyphs =>
      some { displayMode, ticketBaseUrl, glyphs }
    | _, _, _ => none
  | _ => none

/-- The shape of a configuration. -/
def shape : Json.Shape :=
  .fields "struct Config"
    [("displayMode", .defaulted, .optional (.text "a string")),
     ("ticketBaseUrl", .defaulted, .optional (.text "a string")),
     ("emojis", .defaulted, GlyphOverrides.shape)]

/-- Reads the text of a configuration. -/
def ofText (text : String) : Except Json.Fault Config :=
  match shape.ofText text with
  | .error fault => .error fault
  | .ok json =>
    match ofJson? json with
    | some config => .ok config
    -- Every value of the shape is a configuration, so this fault does not arise.
    | none => .error (.atEnd .expectedValue)

end Config

end TodoMarkers
