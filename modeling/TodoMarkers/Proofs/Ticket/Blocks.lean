import TodoMarkers.Proofs.Text.Blank
import TodoMarkers.Ticket

/-! Ticket blocks as they are written: a text starts with one exactly if one is read there, and no
block starts within another. -/

namespace TodoMarkers

open Text

namespace Text

/-- No letter is a blank. -/
theorem isBlank_of_isFoldedLetter {c : Char} (letter : isFoldedLetter c = true) :
    isBlank c = false := by
  -- A letter folds to one from a to z, and blanks have no case.
  simp only [isFoldedLetter, foldToAscii] at letter
  -- The two letters beyond the capitals and small letters are no blanks either.
  split at letter
  · rename_i kelvin
    rw [kelvin]
    decide
  · split at letter
    · rename_i long
      rw [long]
      decide
    · rw [← isBlank_toLower]
      generalize c.toLower = small at letter
      simp only [Bool.and_eq_true, decide_eq_true_eq, Char.le_def, UInt32.le_iff_toNat_le] at letter
      have low : 97 ≤ small.toNat := letter.1
      have high : small.toNat ≤ 122 := letter.2
      simp only [isBlank]
      grind

/-- Only the opening bracket itself folds to an opening bracket. -/
theorem eq_bracket_of_foldToAscii {c : Char} (folded : foldToAscii c = '[') : c = '[' := by
  -- Everything that folding changes becomes a letter.
  unfold foldToAscii at folded
  split at folded
  · contradiction
  · split at folded
    · contradiction
    · -- A capital becomes a small letter, whose code is not that of the bracket.
      unfold Char.toLower at folded
      split at folded
      · rename_i capital
        have low : 65 ≤ c.toNat := capital.1
        have high : c.toNat ≤ 90 := capital.2
        have small : (c.val + ('a'.val - 'A'.val)).toNat = c.toNat + 32 := by
          rw [UInt32.toNat_add]
          exact Nat.mod_eq_of_lt (show c.toNat + 32 < 4294967296 by omega)
        have code := congrArg Char.toNat folded
        have bracket : c.toNat + 32 = 91 := small.symm.trans code
        omega
      · exact folded

end Text

namespace Ticket

/-- A ticket block as it is written. -/
structure Written where
  /-- The bracket, the name in any case, and the colon. -/
  lead : List Char
  /-- The blanks in front of the identifier. -/
  blanks : List Char
  /-- The letters of the identifier. -/
  letters : List Char
  /-- The digits of the identifier. -/
  digits : List Char
  /-- The case of the name is no matter. -/
  opens : lead.map foldToAscii = opener
  /-- The blanks are nothing else. -/
  blank : ∀ b ∈ blanks, isBlank b = true
  /-- The letters are nothing else. -/
  lettered : ∀ c ∈ letters, isFoldedLetter c = true
  /-- There is a letter. -/
  named : letters ≠ []
  /-- The digits are nothing else. -/
  digital : ∀ d ∈ digits, isDecimalDigit d = true
  /-- There is a digit. -/
  numbered : digits ≠ []

namespace Written

/-- The identifier, with the hyphen between its letters and its digits. -/
def id (written : Written) : List Char :=
  written.letters ++ '-' :: written.digits

/-- The whole block. -/
def text (written : Written) : List Char :=
  written.lead ++ (written.blanks ++ (written.id ++ [']']))

/-- What is read where the block is written. -/
def block (written : Written) : Block :=
  ⟨written.id, written.text.length⟩

/-- What opens a block is as long as its name in lower case. -/
theorem length_lead (written : Written) : written.lead.length = opener.length := by
  -- Comparing in lower case keeps the length.
  rw [← written.opens, List.length_map]

/-- The parts of a block, and whatever follows it. -/
theorem text_append (written : Written) (rest : List Char) : written.text ++ rest =
    written.lead ++ (written.blanks ++ (written.id ++ ']' :: rest)) := by
  -- The closing bracket is put in front of what follows.
  simp only [text, List.append_assoc, List.singleton_append]

/-- The length of a block is that of its parts and its closing bracket. -/
theorem length_text (written : Written) : written.text.length =
    opener.length + written.blanks.length + written.id.length + 1 := by
  -- The four parts are added up.
  simp only [text, List.length_append, List.length_singleton, written.length_lead]
  omega

/-- A block starts with its only opening bracket. -/
theorem exists_text_eq (written : Written) : ∃ tail, written.text = '[' :: tail ∧ '[' ∉ tail := by
  -- Nothing else folds to a bracket, and neither a blank nor a letter nor a digit is one.
  have opens := written.opens
  cases lead : written.lead with
  | nil => simp [lead, opener] at opens
  | cons c more =>
    rw [lead, List.map_cons, opener, List.cons.injEq] at opens
    refine ⟨more ++ (written.blanks ++ (written.id ++ [']'])), ?_, ?_⟩
    · rw [text, lead, eq_bracket_of_foldToAscii opens.1, List.cons_append]
    · have name : '[' ∉ more := fun member => by
        have folded := List.mem_map_of_mem (f := foldToAscii) member
        rw [opens.2] at folded
        exact absurd folded (by decide)
      have blank : '[' ∉ written.blanks := fun member =>
        absurd (written.blank _ member) (by decide)
      have letter : '[' ∉ written.letters := fun member =>
        absurd (written.lettered _ member) (by decide)
      have digit : '[' ∉ written.digits := fun member =>
        absurd (written.digital _ member) (by decide)
      simp [id, name, blank, letter, digit]

end Written

/-- An identifier is read up to the bracket behind it. -/
theorem splitId?_written (written : Written) (rest : List Char) :
    splitId? (written.id ++ ']' :: rest) = some (written.id, ']' :: rest) := by
  -- The letters end at the hyphen, and the digits at the bracket.
  have letters : (written.id ++ ']' :: rest).takeWhile isFoldedLetter = written.letters ∧
      (written.id ++ ']' :: rest).dropWhile isFoldedLetter =
        '-' :: (written.digits ++ ']' :: rest) := by
    rw [Written.id, List.append_assoc, List.takeWhile_append_of_pos written.lettered,
      List.dropWhile_append_of_pos written.lettered, List.cons_append,
      List.takeWhile_cons_of_neg (by decide), List.dropWhile_cons_of_neg (by decide),
      List.append_nil]
    exact ⟨rfl, rfl⟩
  have digits : (written.digits ++ ']' :: rest).takeWhile isDecimalDigit = written.digits ∧
      (written.digits ++ ']' :: rest).dropWhile isDecimalDigit = ']' :: rest := by
    rw [List.takeWhile_append_of_pos written.digital, List.dropWhile_append_of_pos written.digital,
      List.takeWhile_cons_of_neg (by decide), List.dropWhile_cons_of_neg (by decide),
      List.append_nil]
    exact ⟨rfl, rfl⟩
  obtain ⟨letter, letters', first⟩ := List.exists_cons_of_ne_nil written.named
  obtain ⟨digit, digits', second⟩ := List.exists_cons_of_ne_nil written.numbered
  rw [splitId?, letters.1, letters.2, first]
  simp only [digits.1, digits.2]
  simp only [second, Written.id, first]

/-- An identifier that is read has letters, a hyphen and digits. -/
theorem exists_of_splitId? {text id after : List Char} (read : splitId? text = some (id, after)) :
    ∃ letters digits, text = id ++ after ∧ id = letters ++ '-' :: digits ∧
      (∀ c ∈ letters, isFoldedLetter c = true) ∧ letters ≠ [] ∧
      (∀ d ∈ digits, isDecimalDigit d = true) ∧ digits ≠ [] := by
  -- Two runs of characters are taken, and neither may be empty.
  have whole := List.takeWhile_append_dropWhile (p := isFoldedLetter) (l := text)
  unfold splitId? at read
  split at read
  · contradiction
  · -- Behind the letters stands the hyphen.
    rename_i rest hyphen letter
    have inner := List.takeWhile_append_dropWhile (p := isDecimalDigit) (l := rest)
    split at read
    · contradiction
    · rename_i digit
      rw [Option.some.injEq, Prod.mk.injEq] at read
      obtain ⟨rfl, rfl⟩ := read
      refine ⟨_, _, ?_, rfl, fun c => List.mem_takeWhile_imp, letter,
        fun d => List.mem_takeWhile_imp, digit⟩
      rw [List.append_assoc, List.cons_append, inner, ← hyphen, whole]
  · contradiction

/-- A block that is written is read, whatever follows it. -/
theorem blockAt?_written (written : Written) (rest : List Char) :
    blockAt? (written.text ++ rest) = some written.block := by
  -- Each part is read up to the character that ends it.
  obtain ⟨letter, letters, first⟩ := List.exists_cons_of_ne_nil written.named
  have solid : isBlank letter = false :=
    isBlank_of_isFoldedLetter (written.lettered letter (by simp [first]))
  -- The blanks end at the first letter.
  have body : written.id ++ ']' :: rest =
      letter :: (letters ++ '-' :: written.digits ++ ']' :: rest) := by
    rw [Written.id, first]
    rfl
  have blanks : (written.blanks ++ (written.id ++ ']' :: rest)).takeWhile isBlank =
      written.blanks := by
    rw [body, takeWhile_blank_body written.blank solid]
  have value : (written.blanks ++ (written.id ++ ']' :: rest)).dropWhile isBlank =
      written.id ++ ']' :: rest := by
    rw [body, dropWhile_blank_body written.blank solid]
  rw [written.text_append, blockAt?, ← written.length_lead, List.take_left, List.drop_left,
    if_pos written.opens]
  simp only [blanks, value, splitId?_written, Written.block, written.length_text,
    written.length_lead]

/-- A block that is read is written at the head of the text. -/
theorem exists_written_of_blockAt? {text : List Char} {block : Block}
    (read : blockAt? text = some block) :
    ∃ written : Written, written.text <+: text ∧ written.block = block := by
  -- The parts that were read are those of a written block.
  have whole := List.take_append_drop opener.length text
  have value := List.takeWhile_append_dropWhile (p := isBlank) (l := text.drop opener.length)
  unfold blockAt? at read
  split at read
  · rename_i opens
    dsimp only at read
    split at read
    · rename_i id rest found
      obtain ⟨letters, digits, behind, rfl, lettered, named, digital, numbered⟩ :=
        exists_of_splitId? found
      let written : Written := ⟨text.take opener.length,
        (text.drop opener.length).takeWhile isBlank, letters, digits, opens,
        fun b => List.mem_takeWhile_imp, lettered, named, digital, numbered⟩
      refine ⟨written, ⟨rest, ?_⟩, ?_⟩
      · rw [behind] at value
        rw [written.text_append]
        exact (congrArg (text.take opener.length ++ ·) value).trans whole
      · rw [Written.block, written.length_text]
        exact Option.some.inj read
    · contradiction
  · contradiction

/-- A block is read at the head of a text exactly if one is written there. -/
theorem blockAt?_eq_some_iff {text : List Char} {block : Block} :
    blockAt? text = some block ↔
      ∃ written : Written, written.text <+: text ∧ written.block = block := by
  -- Reading and writing are inverse to one another.
  refine ⟨exists_written_of_blockAt?, ?_⟩
  rintro ⟨written, ⟨rest, rfl⟩, rfl⟩
  exact blockAt?_written written rest

/-- No block is read where no bracket stands. -/
theorem blockAt?_eq_none_of_ne {c : Char} (other : c ≠ '[') (rest : List Char) :
    blockAt? (c :: rest) = none := by
  -- A written block starts with a bracket.
  rw [Option.eq_none_iff_forall_ne_some]
  intro block read
  obtain ⟨written, ⟨more, whole⟩, _⟩ := blockAt?_eq_some_iff.1 read
  obtain ⟨tail, text, _⟩ := written.exists_text_eq
  rw [text, List.cons_append, List.cons.injEq] at whole
  exact other whole.1.symm

/-- No block is read in the middle of another one. -/
theorem blockAt?_eq_none_within {c : Char} {rest : List Char} {block : Block}
    (read : blockAt? (c :: rest) = some block) {offset : Nat} (inside : offset < block.length - 1) :
    blockAt? (rest.drop offset) = none := by
  -- A block holds one opening bracket, at its start.
  obtain ⟨written, ⟨more, whole⟩, rfl⟩ := blockAt?_eq_some_iff.1 read
  obtain ⟨tail, text, free⟩ := written.exists_text_eq
  rw [text, List.cons_append, List.cons.injEq] at whole
  have room : offset < tail.length := by
    simpa [Written.block, text] using inside
  -- The characters behind the first one are no opening brackets.
  rw [← whole.2, List.drop_append_of_le_length (Nat.le_of_lt room), List.drop_eq_getElem_cons room]
  exact blockAt?_eq_none_of_ne (fun same => free (same ▸ List.getElem_mem room)) _

/-- A block that is read has a character, and ends within the text. -/
theorem length_of_blockAt? {text : List Char} {block : Block} (read : blockAt? text = some block) :
    0 < block.length ∧ block.length ≤ text.length := by
  -- The block is written at the head of the text, and holds a bracket.
  obtain ⟨written, within, rfl⟩ := blockAt?_eq_some_iff.1 read
  refine ⟨?_, within.length_le⟩
  rw [Written.block, written.length_text]
  exact Nat.succ_pos _

end Ticket

end TodoMarkers
