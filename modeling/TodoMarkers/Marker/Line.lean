import TodoMarkers.Text.Blank
import TodoMarkers.Text.Occurrence

/-! Markers in a text: a keyword in any case, an optional colon, blanks and some content. -/

namespace TodoMarkers.Marker

/-- The keyword that opens a marker, in lower case. -/
def keyword : List Char :=
  ['t', 'o', 'd', 'o']

/-- The keyword and the colon after it, if there is one, split off the head of a text. -/
def splitKeyword? (text : List Char) : Option (List Char × List Char) :=
  let word := text.take keyword.length
  if word.map Char.toLower = keyword then
    match text.drop keyword.length with
    | ':' :: rest => some (word ++ [':'], rest)
    | rest => some (word, rest)
  else
    none

/-- The blanks before some content, and that content up to the end of its line.

The content may start on a later line than the blanks. Where nothing but blanks is left, the last of
them that is not a newline counts as content, if a blank precedes it. -/
def splitContent? (text : List Char) : Option (List Char × List Char) :=
  let blanks := text.takeWhile Text.isBlank
  match blanks, text.dropWhile Text.isBlank with
  | [], _ => none
  | _, [] =>
    -- Of blanks alone the last one is given back, so that there is some content.
    match blanks.reverse.dropWhile (· == '\n') with
    | last :: before :: earlier => some ((before :: earlier).reverse, [last])
    | _ => none
  | _, body => some (blanks, body.takeWhile (· != '\n'))

/-- A marker at the head of a text. -/
structure Opening where
  /-- The keyword, the colon and the blanks. -/
  lead : List Char
  /-- What follows them, up to the end of the line. -/
  content : List Char
  deriving DecidableEq, Repr

/-- The marker at the very head of a text. -/
def openingAt? (text : List Char) : Option Opening :=
  match splitKeyword? text with
  | none => none
  | some (word, rest) =>
    match splitContent? rest with
    | none => none
    | some (blanks, content) => some ⟨word ++ blanks, content⟩

/-- The content of the first marker of a text. -/
def firstContent? : List Char → Option (List Char)
  | [] => none
  | c :: rest =>
    match openingAt? (c :: rest) with
    | some opening => some opening.content
    | none => firstContent? rest

/-- The content of one marker, and its place in the text. -/
structure Span where
  /-- The place of the first character of the content. -/
  start : Nat
  /-- The content. -/
  content : List Char
  deriving DecidableEq, Repr

/-- The spans of a text that starts at a place, after the characters that are still covered. -/
def spansFrom : Nat → Nat → List Char → List Span
  | _, _, [] => []
  -- No marker starts within the one before it.
  | place, covered + 1, _ :: rest => spansFrom (place + 1) covered rest
  | place, 0, c :: rest =>
    match openingAt? (c :: rest) with
    | some opening =>
      ⟨place + opening.lead.length, opening.content⟩ ::
        spansFrom (place + 1) (opening.lead.length + opening.content.length - 1) rest
    | none => spansFrom (place + 1) 0 rest

/-- The contents of all markers of a text, from the left and without overlaps. -/
def spans (text : List Char) : List Span :=
  spansFrom 0 0 text

/-- A text without the blanks around it and without one comment closer at its end. -/
def stripCloser (text : List Char) : List Char :=
  let core := Text.trim text
  -- Only one closer goes, and with it the blanks in front of it.
  match Text.stripSuffix? ['*', '/'] core <|> Text.stripSuffix? ['-', '-', '>'] core with
  | some shorter => Text.trim shorter
  | none => core

/-- What follows the keyword of a marker line, without its blanks and comment closer.

It may be empty, when the marker holds a comment closer alone. -/
def remainder? (line : List Char) : Option (List Char) :=
  match firstContent? line with
  | none => none
  | some content =>
    let core := Text.trim content
    if core.isEmpty then none else some (stripCloser core)

/-- Whether a line holds a marker whose content is not blank. -/
def isMarkerLine (line : List Char) : Bool :=
  match firstContent? line with
  | none => false
  | some content => !(Text.trim content).isEmpty

end TodoMarkers.Marker
