import TodoMarkers.Position
import TodoMarkers.Proofs.Text.Lines

/-! The index of a text finds the line of every place, and the place where that line starts. -/

namespace TodoMarkers

open Text

/-- There is one entry for each place of a text, its end included. -/
@[simp] theorem length_unitsFrom (units : Nat) (text : List Char) :
    (unitsFrom units text).length = text.length + 1 := by
  -- Each character has an entry for what precedes it, and the last entry is for the end.
  induction text generalizing units with
  | nil => rfl
  | cons c rest ih => simp [unitsFrom, ih]

/-- A line starts after the place from which newlines are sought. -/
theorem lt_of_mem_lineStartsFrom {text : List Char} {place start : Nat}
    (member : start ∈ lineStartsFrom place text) : place < start := by
  -- The search has passed at least one character before it reports a start.
  induction text generalizing place with
  | nil => simp [lineStartsFrom] at member
  | cons c rest ih =>
    simp only [lineStartsFrom] at member
    split at member
    · rcases List.mem_cons.1 member with same | member
      · omega
      · have := ih member
        omega
    · have := ih member
      omega

/-- The starts up to an offset are as many as the newlines before it. -/
theorem length_takeWhile_lineStartsFrom (text : List Char) (place offset : Nat) :
    ((lineStartsFrom place text).takeWhile (· ≤ place + offset)).length =
      (text.take offset).count '\n' := by
  -- The starts increase, so the first one past the offset ends the count on both sides.
  induction text generalizing place offset with
  | nil => simp [lineStartsFrom]
  | cons c rest ih =>
    cases offset with
    | zero =>
      rw [List.take_zero, List.count_nil, List.length_eq_zero_iff]
      cases starts : lineStartsFrom place (c :: rest) with
      | nil => rfl
      | cons start later =>
        have past := lt_of_mem_lineStartsFrom (starts ▸ List.mem_cons_self)
        exact List.takeWhile_cons_of_neg (by simpa using past)
    | succ offset =>
      have tail := ih (place + 1) offset
      rw [show place + 1 + offset = place + (offset + 1) by omega] at tail
      by_cases newline : c = '\n'
      · rw [lineStartsFrom, if_pos newline, List.takeWhile_cons_of_pos (by simp),
          List.length_cons, tail, newline, List.take_succ_cons, List.count_cons_self]
      · rw [lineStartsFrom, if_neg newline, tail, List.take_succ_cons,
          List.count_cons_of_ne newline]

/-- The newline after a line starts the next one. -/
theorem lineStartsFrom_append_newline {line : List Char} (free : '\n' ∉ line)
    (rest : List Char) (place : Nat) :
    lineStartsFrom place (line ++ '\n' :: rest) =
      (place + line.length + 1) :: lineStartsFrom (place + line.length + 1) rest := by
  -- The characters of the line are passed, and start nothing.
  induction line generalizing place with
  | nil => simp [lineStartsFrom]
  | cons c line ih =>
    simp only [List.mem_cons, not_or] at free
    rw [List.cons_append, lineStartsFrom, if_neg (Ne.symm free.1), ih free.2, List.length_cons,
      show place + 1 + line.length = place + (line.length + 1) by omega]

/-- The reported starts are those of the lines, in their order. -/
theorem lineStartsFrom_getElem? {text line : List Char} {number : Nat}
    (found : (lines text)[number]? = some line) (place : Nat) :
    (place :: lineStartsFrom place text)[number]? =
      some (place + lineStart (lines text) number) := by
  -- Each line but the last is passed together with its newline.
  induction text using lines_induction generalizing number place with
  | last only free =>
    rw [lines_line free] at found ⊢
    cases number with
    | zero => simp
    | succ number => simp at found
  | more first rest free ih =>
    rw [lines_append_newline free] at found ⊢
    rw [lineStartsFrom_append_newline free]
    cases number with
    | zero => simp
    | succ number =>
      rw [List.getElem?_cons_succ, ih (by simpa using found), lineStart_succ]
      congr 1
      omega

/-- As many newlines precede a place of a line as there are lines before it. -/
theorem count_newline_take {text line : List Char} {number column : Nat}
    (found : (lines text)[number]? = some line) (inside : column ≤ line.length) :
    (text.take (lineStart (lines text) number + column)).count '\n' = number := by
  -- Each line before it ends in one newline, and the line itself holds none.
  induction text using lines_induction generalizing number with
  | last only free =>
    rw [lines_line free] at found
    cases number with
    | zero =>
      refine List.count_eq_zero.2 fun member => free (List.mem_of_mem_take member)
    | succ number => simp at found
  | more first rest free ih =>
    rw [lines_append_newline free] at found ⊢
    cases number with
    | zero =>
      -- The place lies before the first newline.
      obtain rfl : first = line := by simpa using found
      rw [lineStart_zero, Nat.zero_add, List.take_append_of_le_length inside]
      exact List.count_eq_zero.2 fun member => free (List.mem_of_mem_take member)
    | succ number =>
      -- The first line and its newline lie before the place as a whole.
      have tail := ih (by simpa using found)
      rw [lineStart_succ, Nat.add_assoc, Nat.add_assoc, List.take_length_add_append,
        Nat.add_comm 1, List.take_succ_cons, List.count_append, List.count_cons_self, tail,
        List.count_eq_zero.2 free, Nat.zero_add]

namespace TextIndex

/-- The length of an indexed text. -/
@[simp] theorem length_ofText (text : List Char) : (ofText text).length = text.length := by
  -- The table has one entry more than the text has characters.
  simp [length, ofText]

/-- The line of a place is the number of newlines before it. -/
theorem lineOf_ofText (text : List Char) (offset : Nat) :
    (ofText text).lineOf offset = (text.take offset).count '\n' := by
  -- The start of the first line lies at or before every place, and is not counted.
  have starts := length_takeWhile_lineStartsFrom text 0 offset
  rw [Nat.zero_add] at starts
  rw [lineOf, ofText, List.takeWhile_cons_of_pos (by simp), List.length_cons, starts,
    Nat.add_sub_cancel]

/-- The position of a column of a line. -/
theorem position_lineStart {text line : List Char} {number column : Nat}
    (found : (lines text)[number]? = some line) (inside : column ≤ line.length) :
    (ofText text).position (lineStart (lines text) number + column) = ⟨number, column⟩ := by
  -- The place lies within the text, so that it is not moved to the end.
  have room := lineStart_add_length_le found
  have clamped : (ofText text).clamp (lineStart (lines text) number + column) =
      lineStart (lines text) number + column := by
    rw [clamp, length_ofText, Nat.min_eq_left (by omega)]
  have start : (ofText text).startOf number = lineStart (lines text) number := by
    have starts := lineStartsFrom_getElem? found 0
    rw [startOf, ofText, List.getD_eq_getElem?_getD, starts, Option.getD_some, Nat.zero_add]
  simp only [position, clamped, lineOf_ofText, count_newline_take found inside, start,
    Nat.add_sub_cancel_left]

end TextIndex

end TodoMarkers
