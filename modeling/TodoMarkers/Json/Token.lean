import TodoMarkers.Json.Fault

/-! The tokens of JSON texts: words, strings and numbers. -/

namespace TodoMarkers.Json

/-- Holds of the blanks that may stand between tokens. -/
def isSpace (c : Char) : Bool :=
  c == ' ' || c == '\n' || c == '\t' || c == '\r'

/-- A text without its leading spaces. -/
def skipSpaces (text : List Char) : List Char :=
  text.dropWhile isSpace

/-- Reads the expected characters and returns the rest. -/
def readWord : List Char → List Char → Except Fault (List Char)
  | [], rest => .ok rest
  | _ :: _, [] => .error (.atEnd .endInValue)
  | wanted :: others, c :: rest =>
    if c = wanted then readWord others rest else .error (.after .expectedWord (c :: rest))

/-- The value of a hexadecimal digit. -/
def hexValue? (c : Char) : Option Nat :=
  if '0' ≤ c ∧ c ≤ '9' then some (c.toNat - '0'.toNat)
  else if 'a' ≤ c ∧ c ≤ 'f' then some (c.toNat - 'a'.toNat + 10)
  else if 'A' ≤ c ∧ c ≤ 'F' then some (c.toNat - 'A'.toNat + 10)
  else none

/-- Reads four hexadecimal digits. -/
def readHex (text : List Char) : Reading Nat :=
  -- Fewer than four bytes run into the end of the text, whatever they are.
  if Text.byteLength (text.take 4) < 4 then .error (.atEnd .endInString)
  else
    match (text.take 4).mapM hexValue? with
    | some [a, b, c, d] => .ok (((a * 16 + b) * 16 + c) * 16 + d, text.drop 4)
    | _ => .error ⟨.invalidEscape, Text.byteLength text - 4⟩

/-- The character that an escape of two characters stands for. -/
def simpleEscape? (c : Char) : Option Char :=
  match c with
  | '"' => some '"'
  | '\\' => some '\\'
  | '/' => some '/'
  | 'b' => some '\x08'
  | 'f' => some '\x0c'
  | 'n' => some '\n'
  | 'r' => some '\r'
  | 't' => some '\t'
  | _ => none

/-- Reads the second half of a surrogate pair, and joins it to the first. -/
def readPair (high : Nat) : List Char → Reading Char
  | '\\' :: 'u' :: rest =>
    match readHex rest with
    | .error fault => .error fault
    | .ok (low, rest) =>
      if 0xDC00 ≤ low ∧ low ≤ 0xDFFF then
        .ok (Char.ofNat ((high - 0xD800) * 0x400 + (low - 0xDC00) + 0x10000), rest)
      else
        .error (.before .loneSurrogate rest)
  | [] | ['\\'] => .error (.atEnd .endInString)
  | '\\' :: rest => .error (.after .unfinishedSurrogate rest)
  | rest => .error (.after .unfinishedSurrogate rest)

/-- Reads what follows the backslash of an escape. -/
def readEscape : List Char → Reading Char
  | [] => .error (.atEnd .endInString)
  | 'u' :: rest =>
    match readHex rest with
    | .error fault => .error fault
    | .ok (unit, rest) =>
      -- A first half waits for a second one; a second half alone is no character.
      if 0xD800 ≤ unit ∧ unit ≤ 0xDBFF then readPair unit rest
      else if 0xDC00 ≤ unit ∧ unit ≤ 0xDFFF then .error (.before .loneSurrogate rest)
      else .ok (Char.ofNat unit, rest)
  | c :: rest =>
    match simpleEscape? c with
    | some meant => .ok (meant, rest)
    | none => .error (.after .invalidEscape (c :: rest))

/-- A character before the characters that have been read after it. -/
def consReading (c : Char) : Reading (List Char) → Reading (List Char)
  | .error fault => .error fault
  | .ok (others, rest) => .ok (c :: others, rest)

/-- Reads the characters of a string up to its closing quote; the first argument bounds them. -/
def readCharsWithin : Nat → List Char → Reading (List Char)
  | 0, _ | _, [] => .error (.atEnd .endInString)
  | bound + 1, c :: rest =>
    if c = '"' then .ok ([], rest)
    else if c = '\\' then
      match readEscape rest with
      | .error fault => .error fault
      | .ok (meant, rest) => consReading meant (readCharsWithin bound rest)
    else if c.toNat < 0x20 then .error (.after .controlCharacter (c :: rest))
    else consReading c (readCharsWithin bound rest)

/-- Reads a string whose opening quote has been read. -/
def readString (text : List Char) : Reading String :=
  match readCharsWithin text.length text with
  | .error fault => .error fault
  | .ok (chars, rest) => .ok (String.ofList chars, rest)

/-- Passes over what follows the backslash of an escape, whatever character it stands for. -/
def skipEscape : List Char → Except Fault (List Char)
  | [] => .error (.atEnd .endInString)
  | 'u' :: rest =>
    match readHex rest with
    | .error fault => .error fault
    -- A half may stand alone in what is passed over.
    | .ok (_, rest) => .ok rest
  | c :: rest =>
    if (simpleEscape? c).isSome then .ok rest else .error (.after .invalidEscape (c :: rest))

/-- Passes over a string up to its closing quote; the first argument bounds its characters. -/
def skipCharsWithin : Nat → List Char → Except Fault (List Char)
  | 0, _ | _, [] => .error (.atEnd .endInString)
  | bound + 1, c :: rest =>
    if c = '"' then .ok rest
    else if c = '\\' then
      match skipEscape rest with
      | .error fault => .error fault
      | .ok rest => skipCharsWithin bound rest
    else if c.toNat < 0x20 then .error (.before .controlCharacter (c :: rest))
    else skipCharsWithin bound rest

/-- Passes over a string whose opening quote has been read. -/
def skipString (text : List Char) : Except Fault (List Char) :=
  skipCharsWithin text.length text

/-- A number, as far as its sort decides what it may be used for. -/
inductive Number where
  /-- A natural number below two to the power of 64. -/
  | natural (value : Nat)
  /-- A negative number, no less than minus two to the power of 63. -/
  | negative (value : Int)
  /-- Any other number, rounded. -/
  | float (value : Float)

/-- The digits of a number and the power of ten that they are taken times. -/
structure Significand where
  /-- The digits that fit into 64 bits. -/
  digits : Nat
  /-- The power of ten. -/
  exponent : Int
  /-- Whether a digit did not fit. -/
  full : Bool

/-- Whether another digit fits into 64 bits. -/
def Significand.fits (significand : Significand) (digit : Char) : Bool :=
  !significand.full && significand.digits * 10 + (digit.toNat - '0'.toNat) < Nat.pow 2 64

/-- Adds a digit before the point: one that does not fit counts as a zero. -/
def Significand.addWhole (significand : Significand) (digit : Char) : Significand :=
  if significand.fits digit then
    { significand with digits := significand.digits * 10 + (digit.toNat - '0'.toNat) }
  else
    { significand with exponent := significand.exponent + 1, full := true }

/-- Adds a digit after the point: one that does not fit is left out, and those after it too. -/
def Significand.addFraction (significand : Significand) (digit : Char) : Significand :=
  if significand.fits digit then
    { significand with
      digits := significand.digits * 10 + (digit.toNat - '0'.toNat)
      exponent := significand.exponent - 1 }
  else
    { significand with full := true }

/-- A number times a power of ten, by steps of at most 308 places; absent when it is too large. -/
def scaleFloat : Nat → Float → Int → Option Float
  | 0, value, _ => some value
  | steps + 1, value, exponent =>
    let places := exponent.natAbs
    if places ≤ 308 then
      if 0 ≤ exponent then
        let scaled := value * Float.ofScientific 1 false places
        if scaled.isInf then none else some scaled
      else
        some (value / Float.ofScientific 1 false places)
    -- Too large a power exceeds all but zero; too small a one is divided out in steps.
    else if value == 0.0 then some value
    else if 0 ≤ exponent then none
    else scaleFloat steps (value / Float.ofScientific 1 false 308) (exponent + 308)

/-- The largest exponent that is taken as it is written. -/
def largestExponent : Nat :=
  Nat.pow 2 31 - 1

/-- The exponents that keep within 32 bits. -/
def clampExponent (exponent : Int) : Int :=
  max (-(largestExponent + 1)) (min exponent largestExponent)

/-- The number of digits, from the left, after which a number exceeds the largest exponent. -/
def digitsToExceed (value count : Nat) : List Char → Nat
  | [] => count
  | digit :: rest =>
    let value := value * 10 + (digit.toNat - '0'.toNat)
    if largestExponent < value then count + 1 else digitsToExceed value (count + 1) rest

/-- A signed float. -/
def signed (negative : Bool) (value : Float) : Number :=
  .float (if negative then -value else value)

/-- Rounds a number whose last digit has been read. -/
def finishFloat (negative : Bool) (digits : Nat) (exponent : Int) (rest : List Char) :
    Reading Number :=
  match scaleFloat 8000000 (Float.ofNat digits) exponent with
  | some value => .ok (signed negative value, rest)
  | none => .error (.before .numberOutOfRange rest)

/-- Reads an exponent, whose letter has been read, and rounds the number. -/
def readExponent (negative : Bool) (significand : Significand) (text : List Char) :
    Reading Number :=
  let (down, rest) :=
    match text with
    | '+' :: rest => (false, rest)
    | '-' :: rest => (true, rest)
    | rest => (false, rest)
  match rest with
  | [] => .error (.atEnd .endInValue)
  | c :: _ =>
    if c.isDigit then
      let digits := rest.takeWhile Char.isDigit
      let after := rest.dropWhile Char.isDigit
      let power := Nat.ofDigitChars 10 digits 0
      -- Such a power makes zero of every number, or is too large for all but zero.
      if largestExponent < power then
        if significand.digits = 0 ∨ down then .ok (signed negative 0.0, after)
        else .error (.before .numberOutOfRange (rest.drop (digitsToExceed 0 0 digits)))
      else
        let exponent := significand.exponent + (if down then -(power : Int) else power)
        finishFloat negative significand.digits (clampExponent exponent) after
    else
      .error (.after .invalidNumber rest)

/-- Reads the digits after a point, which has been read, and what may follow them. -/
def readFraction (negative : Bool) (significand : Significand) (text : List Char) :
    Reading Number :=
  match text.takeWhile Char.isDigit, text.dropWhile Char.isDigit with
  | [], [] => .error (.atEnd .endInValue)
  | [], rest => .error (.after .invalidNumber rest)
  | digits, rest =>
    let significand := digits.foldl Significand.addFraction { significand with full := false }
    match rest with
    | 'e' :: power | 'E' :: power => readExponent negative significand power
    | _ => finishFloat negative significand.digits significand.exponent rest

/-- Reads a number without its sign. -/
def readUnsigned (negative : Bool) (text : List Char) : Reading Number :=
  match text.takeWhile Char.isDigit, text.dropWhile Char.isDigit with
  | [], [] => .error (.atEnd .endInValue)
  | [], rest => .error (.after .invalidNumber rest)
  | '0' :: digit :: others, rest => .error (.after .invalidNumber (digit :: others ++ rest))
  | digits, rest =>
    let significand := digits.foldl Significand.addWhole ⟨0, 0, false⟩
    match rest with
    | '.' :: fraction => readFraction negative significand fraction
    | 'e' :: power | 'E' :: power => readExponent negative significand power
    | _ =>
      -- Without a point or a power the number is an integer, as far as its digits fit.
      if significand.full then finishFloat negative significand.digits significand.exponent rest
      else if !negative then .ok (.natural significand.digits, rest)
      else if 0 < significand.digits ∧ significand.digits ≤ Nat.pow 2 63 then
        .ok (.negative (-(significand.digits : Int)), rest)
      else .ok (signed true (Float.ofNat significand.digits), rest)

/-- Reads a number. -/
def readNumber : List Char → Reading Number
  | '-' :: rest => readUnsigned true rest
  | text => readUnsigned false text

/-- Passes over an exponent, whose letter has been read. -/
def skipExponent (text : List Char) : Except Fault (List Char) :=
  let rest :=
    match text with
    | '+' :: rest | '-' :: rest => rest
    | rest => rest
  match rest with
  | c :: _ =>
    if c.isDigit then .ok (rest.dropWhile Char.isDigit) else .error (.after .invalidNumber rest)
  | [] => .error (.atEnd .invalidNumber)

/-- Passes over a number without its sign, whatever its size. -/
def skipUnsigned (text : List Char) : Except Fault (List Char) :=
  match text.takeWhile Char.isDigit, text.dropWhile Char.isDigit with
  | [], rest => .error (.after .invalidNumber rest)
  | '0' :: digit :: others, rest => .error (.after .invalidNumber (digit :: others ++ rest))
  | _, '.' :: fraction =>
    match fraction.takeWhile Char.isDigit, fraction.dropWhile Char.isDigit with
    | [], rest => .error (.after .invalidNumber rest)
    | _, 'e' :: power | _, 'E' :: power => skipExponent power
    | _, rest => .ok rest
  | _, 'e' :: power | _, 'E' :: power => skipExponent power
  | _, rest => .ok rest

/-- Passes over a number. -/
def skipNumber : List Char → Except Fault (List Char)
  | '-' :: rest => skipUnsigned rest
  | text => skipUnsigned text

end TodoMarkers.Json
