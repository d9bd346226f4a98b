import Mathlib.Data.List.Basic
import TodoMarkers.Text.Utf8

/-! Bytes of a text: they add up over its parts, a text is split behind the bytes of a part, and the
bytes of a text in UTF-8 are decoded as that text. -/

namespace TodoMarkers.Text

/-- The empty text has no bytes. -/
@[simp] theorem byteLength_nil : byteLength [] = 0 :=
  rfl

/-- The first character has its own bytes. -/
@[simp] theorem byteLength_cons (c : Char) (text : List Char) :
    byteLength (c :: text) = c.utf8Size + byteLength text :=
  rfl

/-- The bytes of two parts add up. -/
@[simp] theorem byteLength_append (first second : List Char) :
    byteLength (first ++ second) = byteLength first + byteLength second := by
  -- The first part gives its characters one by one.
  induction first with
  | nil => exact (Nat.zero_add _).symm
  | cons c first ih => rw [List.cons_append, byteLength_cons, ih, byteLength_cons, Nat.add_assoc]

/-- Behind the bytes of its first part a text is split into its parts. -/
theorem splitBytes?_append (first second : List Char) :
    splitBytes? (byteLength first) (first ++ second) = some (first, second) := by
  -- Each character of the first part is split off by its own bytes.
  induction first with
  | nil => cases second <;> rfl
  | cons c first ih =>
    -- Every character has a byte, so there is something to split off.
    obtain ⟨more, bytes⟩ : ∃ more, byteLength (c :: first) = more + 1 :=
      ⟨byteLength (c :: first) - 1, by have := c.utf8Size_pos; rw [byteLength_cons]; omega⟩
    have size : c.utf8Size ≤ more + 1 := by rw [← bytes, byteLength_cons]; omega
    have left : more + 1 - c.utf8Size = byteLength first := by
      rw [← bytes, byteLength_cons, Nat.add_sub_cancel_left]
    rw [bytes, List.cons_append, splitBytes?, if_pos size, left, ih]
    rfl

/-- The bytes of an array, from a place on. -/
theorem toList_loop (bytes : ByteArray) (place : Nat) (done : List UInt8) :
    ByteArray.toList.loop bytes place done = done.reverse ++ bytes.data.toList.drop place := by
  -- The loop puts the bytes in reverse before those that it has passed.
  fun_induction ByteArray.toList.loop bytes place done with
  | case1 place done inside ih =>
    have less : place < bytes.data.toList.length := by simpa using inside
    rw [ih, List.drop_eq_getElem_cons less]
    simp [ByteArray.get!, inside]
  | case2 place done outside =>
    rw [List.drop_eq_nil_of_le (by simpa using Nat.le_of_not_lt outside)]
    simp

/-- The bytes of a text are those of its characters. -/
theorem toList_toUTF8 (text : String) :
    text.toUTF8.toList = text.toList.flatMap String.utf8EncodeChar := by
  -- The bytes are encoded character by character, and the loop lists them from the first on.
  rw [String.toUTF8_eq_toByteArray, ← String.utf8Encode_toList, ByteArray.toList, toList_loop]
  simp [List.utf8Encode]

section Characters

variable {lead second third fourth : UInt8} (rest : List UInt8)

/-- A byte from a bound on is not below it. -/
theorem not_below {bound byte : UInt8} (above : bound.toNat ≤ byte.toNat) : ¬ byte < bound := by
  -- Bytes are ordered as their values are.
  rw [UInt8.not_lt]
  exact UInt8.le_iff_toNat_le.2 above

/-- A byte lies in a range exactly if its value does. -/
theorem between_iff {low high byte : UInt8} : (low ≤ byte && byte ≤ high) = true ↔
    low.toNat ≤ byte.toNat ∧ byte.toNat ≤ high.toNat := by
  -- Bytes are ordered as their values are.
  simp [UInt8.le_iff_toNat_le]

/-- A byte behind a range does not lie in it. -/
theorem not_between {low high byte : UInt8} (above : high.toNat < byte.toNat) :
    ¬ (low ≤ byte && byte ≤ high) = true :=
  -- The byte is above the last one of the range.
  fun inside => Nat.not_le.2 above (between_iff.1 inside).2

/-- A byte that continues a character lies in one range. -/
theorem isContinuation_iff {byte : UInt8} :
    isContinuation byte = true ↔ 0x80 ≤ byte.toNat ∧ byte.toNat ≤ 0xBF :=
  -- The continuations are a single range.
  between_iff

/-- The second of three bytes continues the first one, in a smaller range behind two of them. -/
theorem isSecondOfThree_iff : isSecondOfThree lead second = true ↔
    (0x80 ≤ second.toNat ∧ second.toNat ≤ 0xBF) ∧ (lead.toNat = 0xE0 → 0xA0 ≤ second.toNat) ∧
      (lead.toNat = 0xED → second.toNat ≤ 0x9F) := by
  -- The test is about the values of the bytes, and the first byte decides which range is taken.
  simp only [isSecondOfThree, isContinuation, beq_iff_eq, ← UInt8.toNat_inj, Bool.and_eq_true,
    Bool.ite_eq_true_distrib, decide_eq_true_eq, UInt8.le_iff_toNat_le, UInt8.reduceToNat]
  split_ifs <;> omega

/-- The second of four bytes continues the first one, in a smaller range behind two of them. -/
theorem isSecondOfFour_iff : isSecondOfFour lead second = true ↔
    (0x80 ≤ second.toNat ∧ second.toNat ≤ 0xBF) ∧ (lead.toNat = 0xF0 → 0x90 ≤ second.toNat) ∧
      (lead.toNat = 0xF4 → second.toNat ≤ 0x8F) := by
  -- The test is about the values of the bytes, and the first byte decides which range is taken.
  simp only [isSecondOfFour, isContinuation, beq_iff_eq, ← UInt8.toNat_inj, Bool.and_eq_true,
    Bool.ite_eq_true_distrib, decide_eq_true_eq, UInt8.le_iff_toNat_le, UInt8.reduceToNat]
  split_ifs <;> omega

/-- A byte below the first continuation is a character by itself. -/
theorem decodeUtf8_one (isLead : lead.toNat < 0x80) :
    decodeUtf8 (lead :: rest) = some (Char.ofNat lead.toNat) :: decodeUtf8 rest := by
  -- The very first test of the decoder succeeds.
  have less : lead < 0x80 := UInt8.lt_iff_toNat_lt.2 isLead
  rw [decodeUtf8.eq_def]
  dsimp only
  rw [if_pos less]

/-- Two bytes are decoded. -/
theorem decodeUtf8_two (isLead : 0xC2 ≤ lead.toNat ∧ lead.toNat ≤ 0xDF)
    (continues : isContinuation second = true) :
    decodeUtf8 (lead :: second :: rest) =
      some (Char.ofNat (lead.toNat % 0x20 * 0x40 + payload second)) :: decodeUtf8 rest := by
  -- The first test fails, and the second one succeeds.
  have notOne : ¬ lead < 0x80 := not_below (show 0x80 ≤ lead.toNat by omega)
  have two : (0xC2 ≤ lead && lead ≤ 0xDF) = true := between_iff.2 isLead
  rw [decodeUtf8.eq_def]
  dsimp only
  rw [if_neg notOne, if_pos two, if_pos continues]

/-- Three bytes are decoded. -/
theorem decodeUtf8_three (isLead : 0xE0 ≤ lead.toNat ∧ lead.toNat ≤ 0xEF)
    (follows : isSecondOfThree lead second = true) (continues : isContinuation third = true) :
    decodeUtf8 (lead :: second :: third :: rest) =
      some (Char.ofNat ((lead.toNat % 0x10 * 0x40 + payload second) * 0x40 + payload third)) ::
        decodeUtf8 rest := by
  -- The byte lies above the ranges of the first two tests.
  have notOne : ¬ lead < 0x80 := not_below (show 0x80 ≤ lead.toNat by omega)
  have notTwo : ¬ (0xC2 ≤ lead && lead ≤ 0xDF) = true :=
    not_between (show 0xDF < lead.toNat by omega)
  have three : (0xE0 ≤ lead && lead ≤ 0xEF) = true := between_iff.2 isLead
  rw [decodeUtf8.eq_def]
  dsimp only
  rw [if_neg notOne, if_neg notTwo, if_pos three, if_pos follows, if_pos continues]

/-- Four bytes are decoded. -/
theorem decodeUtf8_four (isLead : 0xF0 ≤ lead.toNat ∧ lead.toNat ≤ 0xF4)
    (follows : isSecondOfFour lead second = true) (continues : isContinuation third = true)
    (ends : isContinuation fourth = true) :
    decodeUtf8 (lead :: second :: third :: fourth :: rest) =
      some (Char.ofNat (((lead.toNat % 0x08 * 0x40 + payload second) * 0x40 + payload third) * 0x40 +
        payload fourth)) :: decodeUtf8 rest := by
  -- The byte lies above the ranges of the first three tests.
  have notOne : ¬ lead < 0x80 := not_below (show 0x80 ≤ lead.toNat by omega)
  have notTwo : ¬ (0xC2 ≤ lead && lead ≤ 0xDF) = true :=
    not_between (show 0xDF < lead.toNat by omega)
  have notThree : ¬ (0xE0 ≤ lead && lead ≤ 0xEF) = true :=
    not_between (show 0xEF < lead.toNat by omega)
  have four : (0xF0 ≤ lead && lead ≤ 0xF4) = true := between_iff.2 isLead
  rw [decodeUtf8.eq_def]
  dsimp only
  rw [if_neg notOne, if_neg notTwo, if_neg notThree, if_pos four, if_pos follows,
    if_pos continues, if_pos ends]

end Characters

/-- A continuation that carries six bits. -/
theorem continuation {bits : Nat} (six : bits < 0x40) :
    isContinuation (UInt8.ofNat (bits + 128)) = true ∧ payload (UInt8.ofNat (bits + 128)) = bits := by
  -- Six bits and the mark of a continuation fit into a byte.
  rw [isContinuation_iff, payload, UInt8.toNat_ofNat_of_lt' (by simp only [UInt8.size]; omega)]
  omega

/-- A character is decoded from its bytes. -/
theorem decodeUtf8_append (c : Char) (rest : List UInt8) :
    decodeUtf8 (String.utf8EncodeChar c ++ rest) = some c :: decodeUtf8 rest := by
  -- All bytes are written as values below 256, from which the bits can be read back.
  have code : Char.ofNat c.val.toNat = c := Char.ofNat_toNat c
  have valid : c.val.toNat < 0xD800 ∨ 0xDFFF < c.val.toNat ∧ c.val.toNat < 0x110000 := c.valid
  have byte {n : Nat} (small : n < 256) : (UInt8.ofNat n).toNat = n := UInt8.toNat_ofNat_of_lt' small
  have ⟨firstContinues, first⟩ := continuation (Nat.mod_lt c.val.toNat (show 0 < 64 by decide))
  have ⟨secondContinues, second⟩ :=
    continuation (Nat.mod_lt (c.val.toNat / 64) (show 0 < 64 by decide))
  have ⟨thirdContinues, third⟩ :=
    continuation (Nat.mod_lt (c.val.toNat / 4096) (show 0 < 64 by decide))
  -- The number of bytes follows from the code; surrogates, which are no characters, and codes that
  -- fewer bytes hold are what the second byte is tested for.
  unfold String.utf8EncodeChar
  generalize c.val.toNat = v at *
  dsimp only
  split
  · rw [List.cons_append, decodeUtf8_one _ (by rw [byte (by omega)]; omega), byte (by omega), code]
    rfl
  · split
    · have lead : (UInt8.ofNat (v / 64 % 32 + 192)).toNat = v / 64 % 32 + 192 := byte (by omega)
      have value : (v / 64 % 32 + 192) % 0x20 * 0x40 + v % 64 = v := by omega
      simp only [List.cons_append, List.nil_append]
      rw [decodeUtf8_two _ (by omega) firstContinues, lead, first, value, code]
    · split
      · have lead : (UInt8.ofNat (v / 4096 % 16 + 224)).toNat = v / 4096 % 16 + 224 :=
          byte (by omega)
        have follows : isSecondOfThree (UInt8.ofNat (v / 4096 % 16 + 224))
            (UInt8.ofNat (v / 64 % 64 + 128)) = true := by
          rw [isSecondOfThree_iff, lead, byte (by omega)]
          omega
        have value : ((v / 4096 % 16 + 224) % 0x10 * 0x40 + v / 64 % 64) * 0x40 + v % 64 = v := by
          omega
        simp only [List.cons_append, List.nil_append]
        rw [decodeUtf8_three _ (by omega) follows firstContinues, lead, second, first, value, code]
      · have lead : (UInt8.ofNat (v / 262144 % 8 + 240)).toNat = v / 262144 % 8 + 240 :=
          byte (by omega)
        have follows : isSecondOfFour (UInt8.ofNat (v / 262144 % 8 + 240))
            (UInt8.ofNat (v / 4096 % 64 + 128)) = true := by
          rw [isSecondOfFour_iff, lead, byte (by omega)]
          omega
        have value : (((v / 262144 % 8 + 240) % 0x08 * 0x40 + v / 4096 % 64) * 0x40 +
            v / 64 % 64) * 0x40 + v % 64 = v := by omega
        simp only [List.cons_append, List.nil_append]
        rw [decodeUtf8_four _ (by omega) follows secondContinues firstContinues, lead, third, second,
          first, value, code]

/-- The bytes of a text are decoded as that text. -/
theorem exactText?_toUTF8 (text : String) : exactText? text.toUTF8.toList = some text := by
  -- Every piece is a character, so that none is absent.
  have decoded (chars : List Char) :
      decodeUtf8 (chars.flatMap String.utf8EncodeChar) = chars.map some := by
    induction chars with
    | nil => rfl
    | cons c chars ih => rw [List.flatMap_cons, decodeUtf8_append, ih, List.map_cons]
  have whole (chars : List Char) : (chars.map some).mapM id = some chars := by
    induction chars with
    | nil => rfl
    | cons c chars ih => simp [ih]
  rw [exactText?, toList_toUTF8, decoded, whole]
  simp

end TodoMarkers.Text
