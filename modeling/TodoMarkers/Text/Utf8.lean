/-! Texts decoded from bytes in UTF-8. -/

namespace TodoMarkers.Text

/-- The number of bytes of a text in UTF-8. -/
def byteLength (text : List Char) : Nat :=
  text.foldr (fun c total => c.utf8Size + total) 0

/-- The characters of so many bytes at the head of a text, and what follows them; absent where the
bytes end within a character or behind the text. -/
def splitBytes? : Nat → List Char → Option (List Char × List Char)
  | 0, text => some ([], text)
  | _ + 1, [] => none
  | bytes + 1, c :: rest =>
    if c.utf8Size ≤ bytes + 1 then
      (splitBytes? (bytes + 1 - c.utf8Size) rest).map fun (piece, after) => (c :: piece, after)
    else
      none

/-- Holds of the bytes that continue a character. -/
def isContinuation (byte : UInt8) : Bool :=
  0x80 ≤ byte && byte ≤ 0xBF

/-- The six bits that a continuation carries. -/
def payload (byte : UInt8) : Nat :=
  byte.toNat % 0x40

/-- The second bytes that may follow the first byte of a three-byte character. -/
def isSecondOfThree (lead second : UInt8) : Bool :=
  if lead == 0xE0 then 0xA0 ≤ second && second ≤ 0xBF
  else if lead == 0xED then 0x80 ≤ second && second ≤ 0x9F
  else isContinuation second

/-- The second bytes that may follow the first byte of a four-byte character. -/
def isSecondOfFour (lead second : UInt8) : Bool :=
  if lead == 0xF0 then 0x90 ≤ second && second ≤ 0xBF
  else if lead == 0xF4 then 0x80 ≤ second && second ≤ 0x8F
  else isContinuation second

/-- The characters of some bytes.

A piece that is no character, or that breaks off before its character is complete, is absent. -/
def decodeUtf8 : List UInt8 → List (Option Char)
  | [] => []
  | lead :: rest =>
    if lead < 0x80 then some (Char.ofNat lead.toNat) :: decodeUtf8 rest
    else if 0xC2 ≤ lead && lead ≤ 0xDF then
      match rest with
      | [] => [none]
      | second :: after =>
        if isContinuation second then
          some (Char.ofNat (lead.toNat % 0x20 * 0x40 + payload second)) :: decodeUtf8 after
        -- A broken piece ends before the byte that cannot continue it.
        else none :: decodeUtf8 (second :: after)
    else if 0xE0 ≤ lead && lead ≤ 0xEF then
      match rest with
      | [] => [none]
      | second :: after =>
        if isSecondOfThree lead second then
          match after with
          | [] => [none]
          | third :: after =>
            if isContinuation third then
              some (Char.ofNat ((lead.toNat % 0x10 * 0x40 + payload second) * 0x40 +
                payload third)) :: decodeUtf8 after
            else none :: decodeUtf8 (third :: after)
        else none :: decodeUtf8 (second :: after)
    else if 0xF0 ≤ lead && lead ≤ 0xF4 then
      match rest with
      | [] => [none]
      | second :: after =>
        if isSecondOfFour lead second then
          match after with
          | [] => [none]
          | third :: after =>
            if isContinuation third then
              match after with
              | [] => [none]
              | fourth :: after =>
                if isContinuation fourth then
                  some (Char.ofNat (((lead.toNat % 0x08 * 0x40 + payload second) * 0x40 +
                    payload third) * 0x40 + payload fourth)) :: decodeUtf8 after
                else none :: decodeUtf8 (fourth :: after)
            else none :: decodeUtf8 (third :: after)
        else none :: decodeUtf8 (second :: after)
    else none :: decodeUtf8 rest

/-- The text of some bytes, with a replacement character for each piece that is no character. -/
def lossyText (bytes : List UInt8) : String :=
  String.ofList ((decodeUtf8 bytes).map fun found => found.getD '\uFFFD')

/-- The text of some bytes, absent when any piece is no character. -/
def exactText? (bytes : List UInt8) : Option String :=
  ((decodeUtf8 bytes).mapM id).map String.ofList

end TodoMarkers.Text
