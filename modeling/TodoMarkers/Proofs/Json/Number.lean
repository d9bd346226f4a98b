import Mathlib.Data.List.Basic
import TodoMarkers.Json.Token

/-! Numbers in JSON texts: how they may be written, how they are passed over, and how those that 64
bits hold are read back. -/

namespace TodoMarkers.Json

/-- Holds of texts that are digits alone, and at least one. -/
def IsDigits (text : List Char) : Prop :=
  text ≠ [] ∧ ∀ c ∈ text, c.isDigit = true

/-- Holds of the digits before a point: a zero stands at their head only if it is alone. -/
def IsWhole (text : List Char) : Prop :=
  IsDigits text ∧ (text.head? = some '0' → text = ['0'])

/-- Holds of what may follow the whole digits: nothing, or a point and digits. -/
def IsFraction (text : List Char) : Prop :=
  text = [] ∨ ∃ digits, IsDigits digits ∧ text = '.' :: digits

/-- Holds of what may end a number: nothing, or a letter, a sign or none, and digits. -/
def IsPower (text : List Char) : Prop :=
  text = [] ∨ ∃ letter sign digits, (letter = 'e' ∨ letter = 'E') ∧
    (sign = [] ∨ sign = ['+'] ∨ sign = ['-']) ∧ IsDigits digits ∧ text = letter :: (sign ++ digits)

/-- Holds of the texts of numbers. -/
def IsNumber (text : List Char) : Prop :=
  ∃ sign whole fraction power, (sign = [] ∨ sign = ['-']) ∧ IsWhole whole ∧ IsFraction fraction ∧
    IsPower power ∧ text = sign ++ (whole ++ (fraction ++ power))

/-- Holds of the characters by which a number may go on behind its whole digits. -/
def continuesNumber (c : Char) : Bool :=
  c.isDigit || c == '.' || c == 'e' || c == 'E'

/-- Holds of texts that do not go on with a number. -/
def EndsNumber (rest : List Char) : Prop :=
  ∀ c ∈ rest.head?, continuesNumber c = false

/-- Digits are taken up to a text that starts with none. -/
theorem span_digits {digits rest : List Char} (all : ∀ c ∈ digits, c.isDigit = true)
    (stop : ∀ c ∈ rest.head?, c.isDigit = false) :
    (digits ++ rest).takeWhile Char.isDigit = digits ∧
      (digits ++ rest).dropWhile Char.isDigit = rest := by
  -- The digits are taken whole, and the next character is none of them.
  rw [List.takeWhile_append_of_pos all, List.dropWhile_append_of_pos all]
  cases rest with
  | nil => simp
  | cons c rest =>
    have other : c.isDigit = false := stop c rfl
    simp [other]

/-- Behind all digits stands neither a digit nor a point. -/
theorem head_power {power rest : List Char} (isPower : IsPower power) (ends : EndsNumber rest) :
    ∀ c ∈ (power ++ rest).head?, c.isDigit = false ∧ c ≠ '.' := by
  -- Either an exponent starts there with its letter, or the number ends.
  intro c first
  rcases isPower with rfl | ⟨letter, sign, digits, known, _, _, rfl⟩
  · have other := ends c first
    simp only [continuesNumber, Bool.or_eq_false_iff, beq_eq_false_iff_ne] at other
    exact other.1.1
  · obtain rfl : letter = c := by simpa using first
    rcases known with rfl | rfl <;> decide

/-- Behind the whole digits stands no digit. -/
theorem head_fraction {fraction power rest : List Char} (isFraction : IsFraction fraction)
    (isPower : IsPower power) (ends : EndsNumber rest) :
    ∀ c ∈ (fraction ++ (power ++ rest)).head?, c.isDigit = false := by
  -- Either a fraction starts there with its point, or what follows the digits is known.
  intro c first
  rcases isFraction with rfl | ⟨digits, _, rfl⟩
  · exact (head_power isPower ends c first).1
  · obtain rfl : '.' = c := by simpa using first
    decide

/-- The digits of an exponent are passed over, and its sign. -/
theorem skipExponent_append {sign digits rest : List Char}
    (signed : sign = [] ∨ sign = ['+'] ∨ sign = ['-']) (isDigits : IsDigits digits)
    (ends : EndsNumber rest) : skipExponent (sign ++ (digits ++ rest)) = .ok rest := by
  -- A sign may stand before the first digit, so its three forms are gone through.
  obtain ⟨some_, all⟩ := isDigits
  obtain ⟨digit, digits, rfl⟩ := List.exists_cons_of_ne_nil some_
  have digit' := all digit List.mem_cons_self
  have behind := (span_digits all fun c first => (head_power (.inl rfl) ends c first).1).2
  rw [List.nil_append] at behind
  rcases signed with rfl | rfl | rfl
  · have unsigned : digit ≠ '+' ∧ digit ≠ '-' := by
      constructor <;> rintro rfl <;> contradiction
    simpa [skipExponent, unsigned, digit'] using behind
  · simpa [skipExponent, digit'] using behind
  · simpa [skipExponent, digit'] using behind

/-- What may end a number is passed over behind its digits. -/
theorem skipPower_append {power rest : List Char} (isPower : IsPower power)
    (ends : EndsNumber rest) :
    (match power ++ rest with
      | 'e' :: behind | 'E' :: behind => skipExponent behind
      | rest => .ok rest) = .ok rest := by
  -- Without an exponent the next character ends the number, so it is no such letter.
  rcases isPower with rfl | ⟨letter, sign, digits, known, signed, isDigits, rfl⟩
  · rw [List.nil_append]
    split
    · rename_i behind
      exact absurd (ends 'e' rfl) (by decide)
    · rename_i behind
      exact absurd (ends 'E' rfl) (by decide)
    · rfl
  · have skipped := skipExponent_append signed isDigits ends
    rw [← List.append_assoc] at skipped
    rcases known with rfl | rfl <;> exact skipped

/-- A number without a sign is passed over. -/
theorem skipUnsigned_append {whole fraction power rest : List Char} (isWhole : IsWhole whole)
    (isFraction : IsFraction fraction) (isPower : IsPower power) (ends : EndsNumber rest) :
    skipUnsigned (whole ++ (fraction ++ (power ++ rest))) = .ok rest := by
  -- The whole digits are taken first, and the cases follow what may stand behind them.
  obtain ⟨taken, left⟩ := span_digits isWhole.1.2 (head_fraction isFraction isPower ends)
  have tail := skipPower_append isPower ends
  unfold skipUnsigned
  rw [taken, left]
  rcases isFraction with rfl | ⟨digits, isDigits, rfl⟩
  · rw [List.nil_append]
    split
    · exact absurd rfl isWhole.1.1
    · exact absurd (isWhole.2 rfl) (by simp)
    · rename_i point
      exact absurd rfl (head_power isPower ends '.' (by rw [point]; rfl)).2
    · rename_i letter
      rwa [letter] at tail
    · rename_i letter
      rwa [letter] at tail
    · simpa [*] using tail
  · -- Behind the point the digits of the fraction are taken in the same way.
    obtain ⟨fractionTaken, fractionLeft⟩ :=
      span_digits isDigits.2 fun c first => (head_power isPower ends c first).1
    rw [List.cons_append]
    split
    · exact absurd rfl isWhole.1.1
    · exact absurd (isWhole.2 rfl) (by simp)
    · rename_i same
      obtain ⟨-, rfl⟩ := List.cons.inj same
      rw [fractionTaken, fractionLeft]
      split
      · exact absurd rfl isDigits.1
      · rename_i letter
        rwa [letter] at tail
      · rename_i letter
        rwa [letter] at tail
      · simpa [*] using tail
    · rename_i same
      exact absurd (List.cons.inj same).1 (by decide)
    · rename_i same
      exact absurd (List.cons.inj same).1 (by decide)
    · rename_i noPoint _ _
      exact absurd rfl (noPoint _)

/-- A number is passed over, whatever its form. -/
theorem skipNumber_append {text rest : List Char} (isNumber : IsNumber text)
    (ends : EndsNumber rest) : skipNumber (text ++ rest) = .ok rest := by
  -- A sign is taken away before the digits, and there may be none.
  obtain ⟨sign, whole, fraction, power, signed, isWhole, isFraction, isPower, rfl⟩ := isNumber
  have unsigned := skipUnsigned_append isWhole isFraction isPower ends
  simp only [List.append_assoc]
  rcases signed with rfl | rfl
  · -- No digit is a sign.
    rw [List.nil_append]
    unfold skipNumber
    split
    · rename_i minus
      obtain ⟨digit, digits, rfl⟩ := List.exists_cons_of_ne_nil isWhole.1.1
      obtain rfl := (List.cons.inj minus).1
      exact absurd (isWhole.1.2 '-' List.mem_cons_self) (by decide)
    · exact unsigned
  · exact unsigned

/-- The digits of a number have a zero at their head only if it is zero. -/
theorem head_toDigits {n : Nat} (positive : 0 < n) : (Nat.toDigits 10 n).head? ≠ some '0' := by
  -- Induction on the digits: the leading one is the same with the last one left out.
  induction n using Nat.base_induction 10 (by decide) with
  | single m small =>
    simpa [Nat.toDigits_of_lt_base small] using Nat.ne_of_gt positive
  | digit m k digit more ih =>
    rw [← Nat.toDigits_append_toDigits (by decide) more digit,
      List.head?_append_of_ne_nil _ Nat.toDigits_ne_nil]
    exact ih more

/-- A number is written as the digits before a point may be. -/
theorem isWhole_toDigits (n : Nat) : IsWhole (Nat.toDigits 10 n) := by
  -- Only zero itself is written with a zero in front.
  refine ⟨⟨Nat.toDigits_ne_nil, fun c => Nat.isDigit_of_mem_toDigits (by decide) (by decide)⟩,
    fun zero => ?_⟩
  rcases Nat.eq_zero_or_pos n with rfl | positive
  · rfl
  · exact absurd zero (head_toDigits positive)

/-- The digits of a number that 64 bits hold make up that number. -/
theorem foldl_addWhole_toDigits {n : Nat} (small : n < Nat.pow 2 64) :
    (Nat.toDigits 10 n).foldl Significand.addWhole ⟨0, 0, false⟩ = ⟨n, 0, false⟩ := by
  -- Induction on the digits: each one is added to the number that the others make up.
  induction n using Nat.base_induction 10 (by decide) with
  | single m digit =>
    have value := Nat.toNat_digitChar_sub_48_of_lt_ten digit
    simp [Nat.toDigits_of_lt_base digit, Significand.addWhole, Significand.fits, value, small]
  | digit m k digit more ih =>
    have value := Nat.toNat_digitChar_sub_48_of_lt_ten digit
    have less : m < Nat.pow 2 64 := by omega
    have fits : m * 10 + k < Nat.pow 2 64 := by omega
    rw [← Nat.toDigits_append_toDigits (by decide) more digit, List.foldl_append, ih less,
      Nat.toDigits_of_lt_base digit]
    simp [Significand.addWhole, Significand.fits, value, Nat.mul_comm]
    omega

/-- A natural number that 64 bits hold is read back from its digits. -/
theorem readNumber_natural {n : Nat} (small : n < Nat.pow 2 64) {rest : List Char}
    (ends : EndsNumber rest) :
    readNumber ((toString n).toList ++ rest) = .ok (.natural n, rest) := by
  -- The digits are taken up to the end of the number, where no other form of it begins.
  have isWhole := isWhole_toDigits n
  have value := foldl_addWhole_toDigits small
  have stop := head_power (.inl rfl) ends
  obtain ⟨taken, left⟩ := span_digits isWhole.1.2 fun c first => (stop c first).1
  rw [List.nil_append] at taken left
  rw [Nat.toString_eq_repr, Nat.toList_repr]
  unfold readNumber
  split
  · rename_i minus
    obtain ⟨digit, digits, whole⟩ := List.exists_cons_of_ne_nil isWhole.1.1
    rw [whole] at minus
    obtain rfl := (List.cons.inj minus).1
    exact absurd (isWhole.1.2 '-' (by rw [whole]; exact List.mem_cons_self)) (by decide)
  · unfold readUnsigned
    rw [taken, left]
    generalize Nat.toDigits 10 n = digits at isWhole value
    split
    · exact absurd rfl isWhole.1.1
    · exact absurd rfl isWhole.1.1
    · exact absurd (isWhole.2 rfl) (by simp)
    · -- Nothing behind the digits makes the number another one.
      dsimp only
      split
      · exact absurd rfl (stop '.' rfl).2
      · exact absurd (ends 'e' rfl) (by decide)
      · exact absurd (ends 'E' rfl) (by decide)
      · simp [value]

end TodoMarkers.Json
