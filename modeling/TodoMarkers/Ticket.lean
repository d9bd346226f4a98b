import TodoMarkers.Text.Blank
import TodoMarkers.Text.CharacterClass
import TodoMarkers.Text.Utf8

/-! Ticket blocks of a document, linked under a base address. -/

namespace TodoMarkers

/-- A link from a ticket block to its ticket. -/
structure TicketLink where
  /-- The written identifier. -/
  ticketId : String
  /-- The place of the block's first character. -/
  start : Nat
  /-- The place after the block's last character. -/
  stop : Nat
  /-- The address of the ticket. -/
  url : String
  deriving DecidableEq, Repr

/-- What a link says about itself. -/
def TicketLink.tooltip (link : TicketLink) : String :=
  "Open " ++ link.ticketId ++ " in browser"

namespace Ticket

/-- What opens a ticket block, in lower case. -/
def opener : List Char :=
  ['[', 't', 'i', 'c', 'k', 'e', 't', ':']

/-- A ticket block at the head of a text. -/
structure Block where
  /-- The identifier: letters, a hyphen and digits. -/
  id : List Char
  /-- The number of characters of the whole block. -/
  length : Nat
  deriving DecidableEq, Repr

/-- The identifier at the head of a text and what follows it. -/
def splitId? (text : List Char) : Option (List Char × List Char) :=
  match text.takeWhile Text.isFoldedLetter, text.dropWhile Text.isFoldedLetter with
  | [], _ => none
  | letters, '-' :: rest =>
    match rest.takeWhile Text.isDecimalDigit, rest.dropWhile Text.isDecimalDigit with
    | [], _ => none
    | digits, after => some (letters ++ '-' :: digits, after)
  | _, _ => none

/-- The ticket block at the very head of a text. -/
def blockAt? (text : List Char) : Option Block :=
  if (text.take opener.length).map Text.foldToAscii = opener then
    let value := text.drop opener.length
    let blanks := value.takeWhile Text.isBlank
    match splitId? (value.dropWhile Text.isBlank) with
    | some (id, ']' :: _) => some ⟨id, opener.length + blanks.length + id.length + 1⟩
    | _ => none
  else
    none

/-- A ticket block that the search has found. -/
structure Match where
  /-- The number of bytes before the block. -/
  start : Nat
  /-- The block. -/
  block : Block
  deriving DecidableEq, Repr

/-- The ticket blocks of a text that starts behind some bytes, from the left and without overlaps.

The second number counts the characters that the last block still covers. -/
def matchesFrom : Nat → Nat → List Char → List Match
  | _, _, [] => []
  | bytes, covered + 1, c :: rest => matchesFrom (bytes + c.utf8Size) covered rest
  | bytes, 0, c :: rest =>
    match blockAt? (c :: rest) with
    | some block => ⟨bytes, block⟩ :: matchesFrom (bytes + c.utf8Size) (block.length - 1) rest
    | none => matchesFrom (bytes + c.utf8Size) 0 rest

/-- A base address without the blanks around it and the slashes at its end. -/
def baseAddress (url : String) : List Char :=
  ((Text.trim url.toList).reverse.dropWhile (· == '/')).reverse

/-- The link of a block at a place. -/
def linkAt (base : List Char) (place : Nat) (block : Block) : TicketLink where
  ticketId := String.ofList block.id
  start := place
  stop := place + block.length
  url := String.ofList (base ++ '/' :: block.id)

/-- The links of some blocks in a text that starts behind some bytes, at a place.

Each place is counted on from that of the block before. It is absent where a block does not start at
a character of the text. -/
def linksFrom? (base : List Char) : Nat → Nat → List Char → List Match → Option (List TicketLink)
  | _, _, _, [] => some []
  | bytes, place, text, found :: later =>
    if bytes ≤ found.start then
      match Text.splitBytes? (found.start - bytes) text with
      | some (before, rest) =>
        (linksFrom? base found.start (place + before.length) rest later).map
          (linkAt base (place + before.length) found.block :: ·)
      | none => none
    else
      none

/-- The links of a document, none without a base address. -/
def links (text : List Char) (baseUrl : Option String) : List TicketLink :=
  match baseUrl.map baseAddress with
  -- An address of blanks and slashes alone counts as none.
  | none | some [] => []
  -- Every block starts at a character, so that its place can be counted.
  | some base => (linksFrom? base 0 0 text (matchesFrom 0 0 text)).getD []

end Ticket

end TodoMarkers
