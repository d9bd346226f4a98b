import TodoMarkers.Marker.Line
import TodoMarkers.Vocabulary.Glyph

/-! Decorations: which characters of a document collapse to the glyph of a key. -/

namespace TodoMarkers

/-- One token that collapses to a glyph. -/
structure Instruction where
  /-- The key of the token. -/
  key : Key
  /-- The place of its first character. -/
  start : Nat
  /-- The place after its last character. -/
  stop : Nat
  /-- What is shown instead. -/
  glyph : String
  deriving DecidableEq, Repr

/-- The token of a key, and what is shown for it. -/
structure DecorationRule where
  /-- The key. -/
  key : Key
  /-- The text that collapses. -/
  token : String
  /-- The text that is shown. -/
  display : String
  deriving DecidableEq, Repr

/-- The instructions of one key. -/
structure KeyDecorations where
  /-- The key. -/
  key : Key
  /-- The text that is shown. -/
  display : String
  /-- The instructions, from the left. -/
  instructions : List Instruction
  deriving DecidableEq, Repr

/-- The instructions of every key, in scan order. -/
structure Decorations where
  /-- One group for each key, whether it occurs or not. -/
  groups : List KeyDecorations
  deriving DecidableEq, Repr

namespace Decorations

/-- The instructions of a key. -/
def get (decorations : Decorations) (key : Key) : List Instruction :=
  ((decorations.groups.find? fun group => group.key = key).map (·.instructions)).getD []

/-- The number of instructions. -/
def size (decorations : Decorations) : Nat :=
  (decorations.groups.flatMap fun group => group.instructions).length

/-- Whether there are no instructions. -/
def isEmpty (decorations : Decorations) : Bool :=
  decorations.size == 0

end Decorations

/-- The rule of a key.

A block with a value collapses its name and colon, a bare flag keeps its brackets around the glyph,
and a slot's token collapses as a whole. -/
def DecorationRule.ofKey (vocabulary : Vocabulary) (mode : DisplayMode) (key : Key) :
    DecorationRule :=
  let display := vocabulary.display mode key
  match key with
  | .metadata block =>
    if block.takesValue then ⟨key, block.slug ++ ":", display⟩
    else ⟨key, block.token, bracketed display⟩
  | _ => ⟨key, key.token, display⟩

/-- The instructions of a rule in one span. -/
def DecorationRule.instructionsIn (rule : DecorationRule) (span : Marker.Span) :
    List Instruction :=
  (Text.occurrences rule.token.toList span.content).map fun place =>
    ⟨rule.key, span.start + place, span.start + place + rule.token.length, rule.display⟩

/-- The rules of every key under one display mode. -/
structure DecorationSet where
  /-- The display mode. -/
  mode : DisplayMode
  /-- One rule for each key, in scan order. -/
  rules : List DecorationRule
  deriving DecidableEq, Repr

namespace DecorationSet

/-- The rules of a vocabulary under a display mode. -/
def ofVocabulary (vocabulary : Vocabulary) (mode : DisplayMode) : DecorationSet :=
  ⟨mode, Key.all.map (DecorationRule.ofKey vocabulary mode)⟩

/-- The instructions for a whole document. -/
def compute (set : DecorationSet) (text : List Char) : Decorations :=
  let spans := Marker.spans text
  ⟨set.rules.map fun rule => ⟨rule.key, rule.display, spans.flatMap rule.instructionsIn⟩⟩

/-- Every key without instructions. -/
def cleared (set : DecorationSet) : Decorations :=
  ⟨set.rules.map fun rule => ⟨rule.key, rule.display, []⟩⟩

end DecorationSet

/-- The instructions for a document under a vocabulary and a display mode. -/
def decorations (vocabulary : Vocabulary) (mode : DisplayMode) (text : List Char) : Decorations :=
  (DecorationSet.ofVocabulary vocabulary mode).compute text

/-- An editor's decorations: the rules in force, and whether they are switched on. -/
structure Decorator where
  /-- The rules in force. -/
  set : DecorationSet
  /-- Whether decorations are shown. -/
  enabled : Bool
  deriving DecidableEq, Repr

namespace Decorator

/-- A decorator that is switched on. -/
def ofVocabulary (vocabulary : Vocabulary) (mode : DisplayMode) : Decorator :=
  ⟨.ofVocabulary vocabulary mode, true⟩

/-- Switches decorations on or off. -/
def toggle (decorator : Decorator) : Decorator :=
  { decorator with enabled := !decorator.enabled }

/-- Takes new rules and leaves the switch alone. -/
def reload (decorator : Decorator) (vocabulary : Vocabulary) (mode : DisplayMode) : Decorator :=
  { decorator with set := .ofVocabulary vocabulary mode }

/-- The instructions for a document, none while decorations are switched off. -/
def update (decorator : Decorator) (text : List Char) : Decorations :=
  if decorator.enabled then decorator.set.compute text else decorator.set.cleared

end Decorator

end TodoMarkers
