/-! Blank characters, and texts without the blanks around them. -/

namespace TodoMarkers.Text

/-- Holds of the characters with the White_Space property. -/
def isBlank (c : Char) : Bool :=
  -- The property is a short list of separators and control characters.
  let code := c.toNat
  (0x09 ≤ code && code ≤ 0x0D) || code == 0x20 || code == 0x85 || code == 0xA0 ||
    code == 0x1680 || (0x2000 ≤ code && code ≤ 0x200A) || code == 0x2028 || code == 0x2029 ||
    code == 0x202F || code == 0x205F || code == 0x3000

/-- A text without its leading blanks. -/
def trimStart (text : List Char) : List Char :=
  text.dropWhile isBlank

/-- A text without its trailing blanks. -/
def trimEnd (text : List Char) : List Char :=
  (text.reverse.dropWhile isBlank).reverse

/-- A text without the blanks around it. -/
def trim (text : List Char) : List Char :=
  trimEnd (trimStart text)

/-- A string without the blanks around it. -/
def trimmed (text : String) : String :=
  String.ofList (trim text.toList)

/-- A trimmed string, absent when nothing is left. -/
def nonBlank? (text : String) : Option String :=
  let core := trim text.toList
  if core.isEmpty then none else some (String.ofList core)

end TodoMarkers.Text
