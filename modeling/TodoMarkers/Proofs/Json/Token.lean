import TodoMarkers.Json.Basic
import TodoMarkers.Json.Token
import Mathlib.Data.List.Basic

/-! Tokens of JSON texts read back: words, and strings as they are escaped. -/

namespace TodoMarkers.Json

/-- A word is read where it is written. -/
theorem readWord_append (word rest : List Char) : readWord word (word ++ rest) = .ok rest := by
  -- Induction on the word, which is compared character by character.
  induction word with
  | nil => rfl
  | cons c word ih => rw [List.cons_append, readWord, if_pos rfl, ih]

/-- A hexadecimal digit takes one byte, and its value is read back. -/
theorem hexValue?_hexDigit {n : Nat} (small : n < 16) :
    (hexDigit n).utf8Size = 1 ∧ hexValue? (hexDigit n) = some n := by
  -- The digits are sixteen, and all of them are checked.
  have table : ∀ n < 16, (hexDigit n).utf8Size = 1 ∧ hexValue? (hexDigit n) = some n := by decide
  exact table n small

/-- The code of a control character is read from its escape. -/
theorem readHex_control {n : Nat} (control : n < 0x20) (rest : List Char) :
    readHex ('0' :: '0' :: hexDigit (n / 16) :: hexDigit (n % 16) :: rest) = .ok (n, rest) := by
  -- The two leading digits are zero, and the other two make up the code.
  obtain ⟨firstSize, first⟩ := hexValue?_hexDigit (show n / 16 < 16 by omega)
  obtain ⟨secondSize, second⟩ := hexValue?_hexDigit (show n % 16 < 16 by omega)
  have zero : '0'.utf8Size = 1 ∧ hexValue? '0' = some 0 := by decide
  have value : n / 16 * 16 + n % 16 = n := by omega
  simp [readHex, Text.byteLength, firstSize, secondSize, zero, first, second, value]

/-- The three forms in which a character stands in a string: as itself, behind a backslash, and as
a control code. -/
theorem escapeChar_cases (c : Char) :
    (escapeChar c = [c] ∧ c ≠ '"' ∧ c ≠ '\\' ∧ ¬ c.toNat < 0x20) ∨
    (∃ d, escapeChar c = ['\\', d] ∧ d ≠ 'u' ∧ simpleEscape? d = some c) ∨
    (c.toNat < 0x20 ∧ escapeChar c =
      ['\\', 'u', '0', '0', hexDigit (c.toNat / 16), hexDigit (c.toNat % 16)]) := by
  -- The cases follow the definition: seven named characters, control codes and all others.
  unfold escapeChar
  split
  · exact .inr (.inl ⟨'"', rfl, by decide, rfl⟩)
  · exact .inr (.inl ⟨'\\', rfl, by decide, rfl⟩)
  · exact .inr (.inl ⟨'n', rfl, by decide, rfl⟩)
  · exact .inr (.inl ⟨'r', rfl, by decide, rfl⟩)
  · exact .inr (.inl ⟨'t', rfl, by decide, rfl⟩)
  · exact .inr (.inl ⟨'b', rfl, by decide, rfl⟩)
  · exact .inr (.inl ⟨'f', rfl, by decide, rfl⟩)
  · rename_i quote backslash _ _ _ _ _
    split
    · rename_i control
      exact .inr (.inr ⟨control, rfl⟩)
    · rename_i printable
      exact .inl ⟨rfl, quote, backslash, printable⟩

/-- An escaped character is read back as the one that it stands for. -/
theorem readCharsWithin_escapeChar (bound : Nat) (c : Char) (rest : List Char) :
    readCharsWithin (bound + 1) (escapeChar c ++ rest) =
      consReading c (readCharsWithin bound rest) := by
  -- The form in which the character stands decides which reader it meets.
  rcases escapeChar_cases c with ⟨whole, quote, backslash, printable⟩ | ⟨d, whole, other, meant⟩ |
    ⟨control, whole⟩
  · simp [whole, readCharsWithin, quote, backslash, printable]
  · -- Behind the backslash stands another letter than that of a code.
    have read : readEscape (d :: rest) = .ok (c, rest) := by
      unfold readEscape
      split
      · contradiction
      · rename_i same
        exact absurd (List.cons.inj same).1 other
      · rename_i same
        obtain ⟨rfl, rfl⟩ := List.cons.inj same
        rw [meant]
    simp [whole, readCharsWithin, read]
  · -- The code of a control character is too small for half of a pair.
    have read : readEscape ('u' :: '0' :: '0' :: hexDigit (c.toNat / 16) ::
        hexDigit (c.toNat % 16) :: rest) = .ok (c, rest) := by
      have low : ¬ 0xD800 ≤ c.toNat := by omega
      have high : ¬ 0xDC00 ≤ c.toNat := by omega
      simp [readEscape, readHex_control control, low, high, Char.ofNat_toNat]
    simp [whole, readCharsWithin, read]

/-- An escaped character is passed over whole. -/
theorem skipCharsWithin_escapeChar (bound : Nat) (c : Char) (rest : List Char) :
    skipCharsWithin (bound + 1) (escapeChar c ++ rest) = skipCharsWithin bound rest := by
  -- Each of the three forms is one turn of the loop.
  rcases escapeChar_cases c with ⟨whole, quote, backslash, printable⟩ | ⟨d, whole, other, meant⟩ |
    ⟨control, whole⟩
  · simp [whole, skipCharsWithin, quote, backslash, printable]
  · have skipped : skipEscape (d :: rest) = .ok rest := by
      unfold skipEscape
      split
      · contradiction
      · rename_i same
        exact absurd (List.cons.inj same).1 other
      · rename_i same
        obtain ⟨rfl, rfl⟩ := List.cons.inj same
        simp [meant]
    simp [whole, skipCharsWithin, skipped]
  · simp [whole, skipCharsWithin, skipEscape, readHex_control control]

/-- A string in quotes takes a character for each of its own, at least. -/
theorem length_le_escaped (chars rest : List Char) :
    chars.length < (chars.flatMap escapeChar ++ '"' :: rest).length := by
  -- No character is escaped as nothing.
  have positive (c : Char) : 1 ≤ (escapeChar c).length := by
    rcases escapeChar_cases c with ⟨whole, _⟩ | ⟨d, whole, _⟩ | ⟨_, whole⟩ <;> simp [whole]
  induction chars with
  | nil => simp
  | cons c chars ih =>
    have head := positive c
    rw [List.flatMap_cons, List.append_assoc, List.length_append, List.length_cons]
    omega

/-- A string is read back as it was before it was escaped. -/
theorem readString_escaped (text : String) (rest : List Char) :
    readString (text.toList.flatMap escapeChar ++ '"' :: rest) = .ok (text, rest) := by
  -- The bound is used up by one for each character of the string.
  have general (chars : List Char) (bound : Nat) (enough : chars.length < bound) :
      readCharsWithin bound (chars.flatMap escapeChar ++ '"' :: rest) = .ok (chars, rest) := by
    induction chars generalizing bound with
    | nil =>
      obtain ⟨bound, rfl⟩ := Nat.exists_eq_add_one_of_ne_zero (Nat.ne_of_gt enough)
      simp [readCharsWithin]
    | cons c chars ih =>
      obtain ⟨bound, rfl⟩ := Nat.exists_eq_add_one_of_ne_zero (Nat.ne_zero_of_lt enough)
      rw [List.flatMap_cons, List.append_assoc, readCharsWithin_escapeChar,
        ih bound (Nat.lt_of_succ_lt_succ enough), consReading]
  rw [readString, general _ _ (length_le_escaped text.toList rest)]
  simp

/-- A string is passed over up to its closing quote. -/
theorem skipString_escaped (text : String) (rest : List Char) :
    skipString (text.toList.flatMap escapeChar ++ '"' :: rest) = .ok rest := by
  -- Induction on the characters with the bound general, since each turn takes one from it.
  have general (chars : List Char) (bound : Nat) (enough : chars.length < bound) :
      skipCharsWithin bound (chars.flatMap escapeChar ++ '"' :: rest) = .ok rest := by
    induction chars generalizing bound with
    | nil =>
      obtain ⟨bound, rfl⟩ := Nat.exists_eq_add_one_of_ne_zero (Nat.ne_of_gt enough)
      simp [skipCharsWithin]
    | cons c chars ih =>
      obtain ⟨bound, rfl⟩ := Nat.exists_eq_add_one_of_ne_zero (Nat.ne_zero_of_lt enough)
      rw [List.flatMap_cons, List.append_assoc, skipCharsWithin_escapeChar,
        ih bound (Nat.lt_of_succ_lt_succ enough)]
  exact general _ _ (length_le_escaped text.toList rest)

end TodoMarkers.Json
