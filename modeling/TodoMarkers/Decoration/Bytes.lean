import TodoMarkers.Decoration
import TodoMarkers.Text.Utf8

/-! Decorations found through bytes: searches give their matches in bytes of the text, and each
place is counted in characters from slices of it. A slice that would cut a character has no
result. -/

namespace TodoMarkers

namespace Text

/-- What stands between two numbers of bytes of a text, absent where one of them lies within a
character or behind the text. -/
def slice? (first last : Nat) (text : List Char) : Option (List Char) :=
  if first ≤ last then
    match splitBytes? first text with
    | some (_, rest) => (splitBytes? (last - first) rest).map Prod.fst
    | none => none
  else
    none

/-- The bytes before each place where a token occurs, from the left and without overlaps, in a text
that starts behind some bytes.

The second number counts the characters that the last occurrence still covers. -/
def byteOccurrencesFrom (token : List Char) : Nat → Nat → List Char → List Nat
  | _, _, [] => []
  | bytes, covered + 1, c :: rest => byteOccurrencesFrom token (bytes + c.utf8Size) covered rest
  | bytes, 0, c :: rest =>
    if token.isPrefixOf (c :: rest) then
      bytes :: byteOccurrencesFrom token (bytes + c.utf8Size) (token.length - 1) rest
    else
      byteOccurrencesFrom token (bytes + c.utf8Size) 0 rest

end Text

namespace Marker

/-- The content of a marker that the search has found. -/
structure Match where
  /-- The number of bytes before the content. -/
  start : Nat
  /-- The number of bytes before what follows the content. -/
  stop : Nat
  deriving DecidableEq, Repr

/-- The contents of all markers of a text that starts behind some bytes, from the left and without
overlaps.

The second number counts the characters that the last marker still covers. -/
def matchesFrom : Nat → Nat → List Char → List Match
  | _, _, [] => []
  | bytes, covered + 1, c :: rest => matchesFrom (bytes + c.utf8Size) covered rest
  | bytes, 0, c :: rest =>
    match openingAt? (c :: rest) with
    | some opening =>
      let start := bytes + Text.byteLength opening.lead
      ⟨start, start + Text.byteLength opening.content⟩ ::
        matchesFrom (bytes + c.utf8Size) (opening.lead.length + opening.content.length - 1) rest
    | none => matchesFrom (bytes + c.utf8Size) 0 rest

/-- A match and the place of its first character. -/
structure PlacedMatch extends Match where
  /-- The number of characters before the content. -/
  place : Nat
  deriving DecidableEq, Repr

/-- Places some matches in a text, behind some bytes and as many characters as have been counted in
them. Each place is counted on from that of the match before. -/
def placeMatches? (text : List Char) : Nat → Nat → List Match → Option (List PlacedMatch)
  | _, _, [] => some []
  | bytes, place, found :: later =>
    match Text.slice? bytes found.start text with
    | some between =>
      (placeMatches? text found.start (place + between.length) later).map
        (⟨found, place + between.length⟩ :: ·)
    | none => none

end Marker

/-- The instructions of a rule in one match, where each place is counted from the start of the
match. -/
def DecorationRule.instructionsOf? (rule : DecorationRule) (text : List Char)
    (found : Marker.PlacedMatch) : Option (List Instruction) :=
  match Text.slice? found.start found.stop text with
  | some content =>
    (Text.byteOccurrencesFrom rule.token.toList 0 0 content).mapM fun bytes =>
      (Text.slice? 0 bytes content).map fun before =>
        let start := found.place + before.length
        ⟨rule.key, start, start + rule.token.length, rule.display⟩
  | none => none

/-- The instructions of a rule in some matches. -/
def DecorationRule.groupOf? (rule : DecorationRule) (text : List Char)
    (found : List Marker.PlacedMatch) : Option KeyDecorations :=
  (found.mapM (rule.instructionsOf? text)).map fun instructions =>
    ⟨rule.key, rule.display, instructions.flatten⟩

/-- The instructions for a whole document, found through its bytes. -/
def DecorationSet.computeBytes? (set : DecorationSet) (text : List Char) : Option Decorations :=
  match Marker.placeMatches? text 0 0 (Marker.matchesFrom 0 0 text) with
  | some found => (set.rules.mapM fun (rule : DecorationRule) => rule.groupOf? text found).map .mk
  | none => none

end TodoMarkers
