/-! Where one text occurs in another. -/

namespace TodoMarkers.Text

/-- What follows a prefix of a text, absent when the text does not start with it. -/
def stripPrefix? : List Char → List Char → Option (List Char)
  | [], text => some text
  | _ :: _, [] => none
  | c :: lead, d :: text => if c = d then stripPrefix? lead text else none

/-- What precedes a suffix of a text, absent when the text does not end with it. -/
def stripSuffix? (tail text : List Char) : Option (List Char) :=
  (stripPrefix? tail.reverse text.reverse).map List.reverse

/-- Whether a text occurs somewhere in another. -/
def occursIn (wanted : List Char) : List Char → Bool
  | [] => wanted.isEmpty
  | c :: rest => wanted.isPrefixOf (c :: rest) || occursIn wanted rest

/-- The test for an occurrence tells whether the wanted text is a part. -/
theorem occursIn_eq_true_iff {wanted text : List Char} :
    occursIn wanted text = true ↔ wanted <:+: text := by
  -- A part starts with the first character, or it is a part of the rest.
  induction text with
  | nil => rw [occursIn, List.isEmpty_iff, List.infix_nil]
  | cons c rest ih =>
    rw [occursIn, Bool.or_eq_true, ih, List.isPrefixOf_iff_prefix, List.infix_cons_iff]

/-- The places where a token occurs, from the left and without overlaps.

The first number is the place of the text itself, the second counts the characters that the last
occurrence still covers. -/
def occurrencesFrom (token : List Char) : Nat → Nat → List Char → List Nat
  | _, _, [] => []
  | place, covered + 1, _ :: rest => occurrencesFrom token (place + 1) covered rest
  | place, 0, c :: rest =>
    if token.isPrefixOf (c :: rest) then
      place :: occurrencesFrom token (place + 1) (token.length - 1) rest
    else
      occurrencesFrom token (place + 1) 0 rest

/-- The places of a non-empty token in a text, from the left and without overlaps. -/
def occurrences (token text : List Char) : List Nat :=
  occurrencesFrom token 0 0 text

/-- The pieces of a text between its separators, at least one. -/
def split (separator : Char) : List Char → List (List Char)
  | [] => [[]]
  | c :: rest =>
    if c = separator then [] :: split separator rest
    else
      match split separator rest with
      | [] => [[c]]
      | piece :: others => (c :: piece) :: others

/-- The lines of a text: the pieces between its newlines. -/
def lines (text : List Char) : List (List Char) :=
  split '\n' text

end TodoMarkers.Text
