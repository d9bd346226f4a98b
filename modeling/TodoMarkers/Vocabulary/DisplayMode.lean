import TodoMarkers.Text.Blank

/-! How a key is shown in place of its token. -/

namespace TodoMarkers

/-- The ways to show a key. -/
inductive DisplayMode where
  /-- The glyph alone. -/
  | emoji
  /-- The name alone. -/
  | text
  /-- The glyph, a hyphen and the name in lower case. -/
  | emojiText
  deriving DecidableEq, Repr

/-- A text that names no display mode, without its blanks and capitals. -/
structure UnknownDisplayMode where
  /-- The rejected text. -/
  value : String
  deriving DecidableEq, Repr

/-- The sentence that reports an unknown display mode. -/
def UnknownDisplayMode.message (error : UnknownDisplayMode) : String :=
  "expected one of emoji, text, emoji-text; got '" ++ error.value ++ "'"

namespace DisplayMode

/-- Every display mode. -/
def all : List DisplayMode :=
  [.emoji, .text, .emojiText]

/-- The word for a display mode. -/
def word : DisplayMode → String
  | .emoji => "emoji"
  | .text => "text"
  | .emojiText => "emoji-text"

/-- The display mode of a word, written exactly. -/
def ofWord? (value : String) : Option DisplayMode :=
  all.find? fun mode => mode.word == value

/-- Reads a typed display mode, in any case and with blanks around it. -/
def parse (input : String) : Except UnknownDisplayMode DisplayMode :=
  let normal := String.ofList ((Text.trim input.toList).map Char.toLower)
  match ofWord? normal with
  | some mode => .ok mode
  | none => .error ⟨normal⟩

end DisplayMode

end TodoMarkers
