import Mathlib.Data.List.DropRight
import TodoMarkers.Proofs.Position

/-! Places of a text and their positions determine each other: lines and columns are what is counted
in the text, in characters or code units, and they increase with the place. -/

namespace TodoMarkers

open Text

namespace Text

/-- What stands before a place on the line of the place. -/
def linePart (text : List Char) (place : Nat) : List Char :=
  (text.take place).rtakeWhile (· != '\n')

/-- The code units of a text. -/
def utf16Width (text : List Char) : Nat :=
  text.foldr (fun c total => utf16Length c + total) 0

/-- The first character has its own code units. -/
@[simp] theorem utf16Width_cons (c : Char) (text : List Char) :
    utf16Width (c :: text) = utf16Length c + utf16Width text :=
  rfl

/-- The code units of two parts add up. -/
@[simp] theorem utf16Width_append (first second : List Char) :
    utf16Width (first ++ second) = utf16Width first + utf16Width second := by
  -- The first part gives its characters one by one.
  induction first with
  | nil => exact (Nat.zero_add _).symm
  | cons c first ih =>
    rw [List.cons_append, utf16Width_cons, ih, utf16Width_cons, Nat.add_assoc]

/-- A text has no fewer code units than characters. -/
theorem length_le_utf16Width (text : List Char) : text.length ≤ utf16Width text := by
  -- Every character has one code unit at least.
  induction text with
  | nil => exact Nat.le_refl 0
  | cons c text ih =>
    have one : 1 ≤ utf16Length c := by
      unfold utf16Length
      split <;> decide
    rw [utf16Width_cons, List.length_cons]
    omega

/-- The end of a text without newlines reaches back as far as what stands before it. -/
theorem rtakeWhile_append_line {line : List Char} (free : '\n' ∉ line) (before : List Char) :
    (before ++ line).rtakeWhile (· != '\n') = before.rtakeWhile (· != '\n') ++ line := by
  -- Seen from the end, no character of the line stops the search.
  have all : ∀ c ∈ line.reverse, (c != '\n') = true := fun c member => by
    simpa using fun same : c = '\n' => free (same ▸ List.mem_reverse.1 member)
  rw [List.rtakeWhile, List.reverse_append, List.takeWhile_append_of_pos all, List.reverse_append,
    List.reverse_reverse, ← List.rtakeWhile]

/-- The end of a text without newlines reaches no further back than to its last newline. -/
theorem rtakeWhile_append_newline (before after : List Char) :
    (before ++ '\n' :: after).rtakeWhile (· != '\n') = after.rtakeWhile (· != '\n') := by
  -- The characters behind the newline are taken one by one from the end.
  induction after using List.reverseRecOn with
  | nil => exact List.rtakeWhile_concat_neg _ _ _ (by simp)
  | append_singleton after c ih =>
    rw [← List.cons_append, ← List.append_assoc, List.rtakeWhile_concat, List.rtakeWhile_concat, ih]

/-- Every place lies on a line, at its end at the latest. -/
theorem exists_line_of_place {text : List Char} {place : Nat} (inside : place ≤ text.length) :
    ∃ number line column, (lines text)[number]? = some line ∧ column ≤ line.length ∧
      place = lineStart (lines text) number + column := by
  -- A place lies on the first line, or behind its newline.
  induction text using lines_induction generalizing place with
  | last only free =>
    rw [lines_line free]
    exact ⟨0, only, place, rfl, inside, by simp⟩
  | more first rest free ih =>
    rw [lines_append_newline free]
    rcases Nat.lt_or_ge first.length place with past | early
    · -- The place lies behind the first newline.
      rw [List.length_append, List.length_cons] at inside
      have behind : place - (first.length + 1) ≤ rest.length := by omega
      obtain ⟨number, line, column, found, short, same⟩ := ih behind
      refine ⟨number + 1, line, column, by simpa using found, short, ?_⟩
      rw [lineStart_succ]
      omega
    · exact ⟨0, first, place, rfl, early, by simp⟩

/-- Before a place stands the head of its line. -/
theorem linePart_lineStart {text line : List Char} {number column : Nat}
    (found : (lines text)[number]? = some line) (inside : column ≤ line.length) :
    linePart text (lineStart (lines text) number + column) = line.take column := by
  -- A line without newlines is taken whole, and no more than it.
  have whole {line : List Char} (free : '\n' ∉ line) (column : Nat) :
      (line.take column).rtakeWhile (· != '\n') = line.take column :=
    rtakeWhile_append_line (fun member => free (List.mem_of_mem_take member)) []
  induction text using lines_induction generalizing number with
  | last only free =>
    rw [lines_line free] at found ⊢
    cases number with
    | zero =>
      obtain rfl : only = line := by simpa using found
      rw [lineStart_zero, Nat.zero_add, linePart, whole free]
    | succ number => simp at found
  | more first rest free ih =>
    rw [lines_append_newline free] at found ⊢
    cases number with
    | zero =>
      obtain rfl : first = line := by simpa using found
      rw [lineStart_zero, Nat.zero_add, linePart, List.take_append_of_le_length inside, whole free]
    | succ number =>
      -- The first line ends in a newline before the place.
      rw [lineStart_succ, Nat.add_assoc, Nat.add_assoc, linePart, List.take_length_add_append,
        Nat.add_comm 1, List.take_succ_cons, rtakeWhile_append_newline]
      exact ih (by simpa using found)

/-- The text before a place is the text before its line and what stands before it on the line. -/
theorem take_lineStart_append_linePart {text line : List Char} {number column : Nat}
    (found : (lines text)[number]? = some line) (inside : column ≤ line.length) :
    text.take (lineStart (lines text) number + column) =
      text.take (lineStart (lines text) number) ++
        linePart text (lineStart (lines text) number + column) := by
  -- What stands between the line's start and the place is a head of the line.
  obtain ⟨tail, dropped, _⟩ := drop_lineStart found
  rw [linePart_lineStart found inside, List.take_add, dropped, List.take_append_of_le_length inside]

/-- Further on in a text there are more newlines, or as many and more of the line. -/
theorem linePart_increasing {text : List Char} {place later : Nat} (order : place < later)
    (inside : later ≤ text.length) :
    (text.take place).count '\n' < (text.take later).count '\n' ∨
      (text.take place).count '\n' = (text.take later).count '\n' ∧
        ∃ between ≠ [], linePart text later = linePart text place ++ between := by
  -- What lies between the places holds a newline, or goes on with the line.
  obtain ⟨more, rfl⟩ : ∃ more, later = place + more := ⟨later - place, by omega⟩
  have whole : text.take (place + more) = text.take place ++ (text.drop place).take more :=
    List.take_add
  by_cases newline : '\n' ∈ (text.drop place).take more
  · have positive := List.count_pos_iff.2 newline
    rw [whole, List.count_append]
    exact .inl (by omega)
  · have none := List.count_eq_zero.2 newline
    refine .inr ⟨by rw [whole, List.count_append, none, Nat.add_zero], _, ?_,
      by rw [linePart, whole, rtakeWhile_append_line newline, ← linePart]⟩
    have room : 0 < ((text.drop place).take more).length := by
      rw [List.length_take, List.length_drop]
      omega
    exact List.length_pos_iff.1 room

end Text

/-- So many elements at the head of a list pass a test, and no element behind them does. -/
structure PartsAt (test : Nat → Bool) (list : List Nat) (bound : Nat) : Prop where
  /-- There are so many elements. -/
  within : bound ≤ list.length
  /-- Those at the head pass. -/
  before : ∀ value ∈ list.take bound, test value = true
  /-- Those behind them do not. -/
  behind : ∀ value ∈ list.drop bound, test value = false

/-- A list is parted at one place only. -/
theorem PartsAt.eq {test : Nat → Bool} {list : List Nat} {bound : Nat}
    (parts : PartsAt test list bound) : bound = (list.takeWhile test).length := by
  -- The elements are taken up to the first one that does not pass.
  have stop : (list.drop bound).takeWhile test = [] := by
    cases rest : list.drop bound with
    | nil => rfl
    | cons value more =>
      exact List.takeWhile_cons_of_neg (by simp [parts.behind value (by simp [rest])])
  have whole : list.takeWhile test = list.take bound := by
    rw [← List.append_nil (list.take bound), ← stop, ← List.takeWhile_append_of_pos parts.before,
      List.take_append_drop]
  rw [whole, List.length_take, Nat.min_eq_left parts.within]

/-- An increasing list is parted by every bound on its elements. -/
theorem partsAt_of_increasing {list : List Nat} (increasing : list.Pairwise (· < ·))
    (bound : Nat) : PartsAt (· ≤ bound) list (list.takeWhile (· ≤ bound)).length := by
  -- The elements are compared from the smallest one on.
  induction list with
  | nil => exact ⟨Nat.le_refl 0, by simp, by simp⟩
  | cons first rest ih =>
    obtain ⟨larger, increasing⟩ := List.pairwise_cons.1 increasing
    by_cases small : first ≤ bound
    · obtain ⟨within, before, behind⟩ := ih increasing
      rw [List.takeWhile_cons_of_pos (by simpa using small), List.length_cons]
      exact ⟨Nat.succ_le_succ within,
        List.forall_mem_cons.2 ⟨by simpa using small, before⟩, behind⟩
    · -- Behind an element that is too large the others are larger still.
      rw [List.takeWhile_cons_of_neg (by simpa using small)]
      refine ⟨Nat.zero_le _, by simp, List.forall_mem_cons.2 ⟨by simpa using small, ?_⟩⟩
      intro value member
      have := larger value member
      simp only [decide_eq_false_iff_not]
      omega

/-- The starts of lines increase. -/
theorem lineStartsFrom_increasing (text : List Char) (place : Nat) :
    (place :: lineStartsFrom place text).Pairwise (· < ·) := by
  -- Every start of a line lies behind the place from which the lines are counted.
  have later : (lineStartsFrom place text).Pairwise (· < ·) := by
    induction text generalizing place with
    | nil => exact .nil
    | cons c rest ih =>
      rw [lineStartsFrom]
      split
      · exact List.pairwise_cons.2 ⟨fun start => lt_of_mem_lineStartsFrom, ih (place + 1)⟩
      · exact ih (place + 1)
  exact List.pairwise_cons.2 ⟨fun start => lt_of_mem_lineStartsFrom, later⟩

/-- The entry for a place counts the code units before it. -/
theorem unitsFrom_getElem? {text : List Char} {place : Nat} (inside : place ≤ text.length)
    (units : Nat) :
    (unitsFrom units text)[place]? = some (units + utf16Width (text.take place)) := by
  -- Each character adds its units to the entries behind it.
  induction text generalizing place units with
  | nil =>
    obtain rfl : place = 0 := Nat.le_zero.1 inside
    rfl
  | cons c rest ih =>
    cases place with
    | zero => rfl
    | succ place =>
      have tail := ih (Nat.le_of_succ_le_succ inside) (units + utf16Length c)
      rw [unitsFrom, List.getElem?_cons_succ, tail, List.take_succ_cons, utf16Width_cons,
        Nat.add_assoc]

/-- A position comes before another one in a text. -/
def Position.Before (position later : Position) : Prop :=
  position.line < later.line ∨
    position.line = later.line ∧ position.character < later.character

namespace TextIndex

variable {text : List Char}

/-- The code units before a place are those of the text before it. -/
theorem unitsAt_ofText {place : Nat} (inside : place ≤ text.length) :
    (ofText text).unitsAt place = utf16Width (text.take place) := by
  -- The table is counted from nothing.
  simp [unitsAt, ofText, unitsFrom_getElem? inside]

/-- An offset counts as the end of the text if it lies behind it. -/
theorem clamp_ofText (text : List Char) (offset : Nat) :
    (ofText text).clamp offset = min offset text.length := by
  -- The length of the index is that of the text.
  rw [clamp, length_ofText]

/-- The line of a place has a start, and between the two stands the head of the line. -/
theorem startOf_lineOf {place : Nat} (inside : place ≤ text.length) :
    (ofText text).lineStarts[(ofText text).lineOf place]? =
        some ((ofText text).startOf ((ofText text).lineOf place)) ∧
      (ofText text).startOf ((ofText text).lineOf place) + (linePart text place).length = place ∧
      text.take ((ofText text).startOf ((ofText text).lineOf place)) ++ linePart text place =
        text.take place := by
  -- The place is a column of one of the lines, and the table has an entry for each line.
  obtain ⟨number, line, column, found, short, same⟩ := exists_line_of_place inside
  have mine : (ofText text).lineOf place = number := by
    rw [lineOf_ofText, same, count_newline_take found short]
  have listed : (ofText text).lineStarts[number]? = some (lineStart (lines text) number) := by
    rw [ofText, lineStartsFrom_getElem? found 0, Nat.zero_add]
  have start : (ofText text).startOf number = lineStart (lines text) number := by
    rw [startOf, List.getD_eq_getElem?_getD, listed, Option.getD_some]
  have part : (linePart text place).length = column := by
    rw [same, linePart_lineStart found short, List.length_take, Nat.min_eq_left short]
  rw [mine, start]
  refine ⟨listed, by omega, ?_⟩
  rw [same, take_lineStart_append_linePart found short]

/-- What is looked up for an offset is there, and no difference falls below zero. -/
structure InRange (index : TextIndex) (offset : Nat) : Prop where
  /-- There is an entry for the end of the document. -/
  closed : 1 ≤ index.unitsBefore.size
  /-- The line has a start. -/
  started : index.lineOf (index.clamp offset) < index.lineStarts.length
  /-- The line starts at the place or before it. -/
  starts : index.startOf (index.lineOf (index.clamp offset)) ≤ index.clamp offset
  /-- The code units before the place are known. -/
  counted : index.clamp offset < index.unitsBefore.size
  /-- The code units before the line are known. -/
  startCounted : index.startOf (index.lineOf (index.clamp offset)) < index.unitsBefore.size
  /-- The line has no more code units before it than the place. -/
  units : index.unitsAt (index.startOf (index.lineOf (index.clamp offset))) ≤
    index.unitsAt (index.clamp offset)

/-- An offset has the line and the column that are counted in the text before it. -/
theorem position_ofText (text : List Char) (offset : Nat) :
    (ofText text).position offset =
      ⟨(text.take (min offset text.length)).count '\n',
        (linePart text (min offset text.length)).length⟩ := by
  -- The line starts where the part of it before the offset starts.
  obtain ⟨_, whole, _⟩ := startOf_lineOf (Nat.min_le_right offset text.length)
  simp only [position, clamp_ofText]
  rw [← lineOf_ofText, Position.mk.injEq]
  exact ⟨rfl, by omega⟩

/-- The column in code units counts those of what stands before the offset on its line. -/
theorem utf16Position_ofText (text : List Char) (offset : Nat) :
    (ofText text).utf16Position offset =
      ⟨(text.take (min offset text.length)).count '\n',
        utf16Width (linePart text (min offset text.length))⟩ := by
  -- The text before the offset is the text before its line and then the part of the line.
  have inside := Nat.min_le_right offset text.length
  obtain ⟨_, whole, parts⟩ := startOf_lineOf inside
  simp only [utf16Position, clamp_ofText]
  -- The code units before the line are counted in both and cancel out.
  rw [← lineOf_ofText, unitsAt_ofText inside, ← parts, unitsAt_ofText (by omega),
    utf16Width_append, Nat.add_sub_cancel_left]

/-- Every offset can be looked up. -/
theorem inRange_ofText (text : List Char) (offset : Nat) : (ofText text).InRange offset := by
  -- The line's start is one of the entries, and neither lies behind the offset.
  have inside := Nat.min_le_right offset text.length
  obtain ⟨listed, whole, parts⟩ := startOf_lineOf inside
  obtain ⟨started, _⟩ := List.getElem?_eq_some_iff.1 listed
  -- The table has an entry for each place of the text, its end included.
  have size : (ofText text).unitsBefore.size = text.length + 1 := by simp [ofText]
  rw [← clamp_ofText] at inside listed whole parts started
  refine ⟨by omega, started, by omega, by omega, by omega, ?_⟩
  rw [unitsAt_ofText inside, unitsAt_ofText (by omega), ← parts, utf16Width_append]
  exact Nat.le_add_right _ _

/-- The starts of lines are parted at an offset behind the start of its line only. -/
theorem partsAt_lineStarts_iff (text : List Char) (offset bound : Nat) :
    PartsAt (· ≤ offset) (ofText text).lineStarts bound ↔
      bound = (ofText text).lineOf offset + 1 := by
  -- The first line starts at or before every offset.
  have first : (ofText text).lineOf offset + 1 =
      ((ofText text).lineStarts.takeWhile (· ≤ offset)).length := by
    rw [lineOf, Nat.sub_add_cancel]
    simp [ofText]
  rw [first]
  refine ⟨PartsAt.eq, ?_⟩
  rintro rfl
  exact partsAt_of_increasing (lineStartsFrom_increasing text 0) offset

/-- Of two places the later one has the later position, in characters and in code units. -/
theorem position_before {place later : Nat} (order : place < later)
    (inside : later ≤ text.length) :
    ((ofText text).position place).Before ((ofText text).position later) ∧
      ((ofText text).utf16Position place).Before ((ofText text).utf16Position later) := by
  simp only [position_ofText, utf16Position_ofText, Nat.min_eq_left inside,
    Nat.min_eq_left (show place ≤ text.length by omega)]
  -- A newline lies between the places, or the later one is further on the same line.
  rcases linePart_increasing order inside with lines | ⟨same, between, some_, more⟩
  · exact ⟨.inl lines, .inl lines⟩
  · have positive := List.length_pos_iff.2 some_
    have wide := length_le_utf16Width between
    refine ⟨.inr ⟨same, ?_⟩, .inr ⟨same, ?_⟩⟩
    · simp only [more, List.length_append]
      omega
    · simp only [more, utf16Width_append]
      omega

/-- Positions tell exactly where each place of a text is.

An offset counts as the end of the text if it lies behind it. The line of its position is the number
of newlines before it, and the column counts what stands before it on that line, in characters or in
code units; the start of the line and the column in characters give the offset back. Everything that
is looked up for it is there, and nothing is taken from a smaller number: the starts of lines can be
parted at an offset, and at one bound only, behind the start of the offset's line. Of two places the
later one has the later position. -/
theorem positions_exact (text : List Char) :
    (∀ offset,
      let place := min offset text.length
      (ofText text).clamp offset = place ∧
        (ofText text).position offset =
          ⟨(text.take place).count '\n', (linePart text place).length⟩ ∧
        (ofText text).utf16Position offset =
          ⟨(text.take place).count '\n', utf16Width (linePart text place)⟩ ∧
        (∃ start, (ofText text).lineStarts[((ofText text).position offset).line]? = some start ∧
          start + ((ofText text).position offset).character = place) ∧
        (ofText text).InRange offset) ∧
    (∀ offset bound, PartsAt (· ≤ offset) (ofText text).lineStarts bound ↔
      bound = (ofText text).lineOf offset + 1) ∧
    ∀ place later, place < later → later ≤ text.length →
      ((ofText text).position place).Before ((ofText text).position later) ∧
        ((ofText text).utf16Position place).Before ((ofText text).utf16Position later) := by
  refine ⟨fun offset => ?_, partsAt_lineStarts_iff text, fun place later => position_before⟩
  obtain ⟨listed, whole, _⟩ := startOf_lineOf (Nat.min_le_right offset text.length)
  refine ⟨clamp_ofText text offset, position_ofText text offset, utf16Position_ofText text offset,
    ?_, inRange_ofText text offset⟩
  rw [position_ofText]
  rw [lineOf_ofText] at listed whole
  exact ⟨_, listed, whole⟩

/-- A place behind a newline and a character of two code units, and one behind the end. -/
theorem positions_exact_surrogates :
    let text := "a\n🔴b\n".toList
    let index := ofText text
    (3 < 5 ∧ 5 ≤ text.length) ∧
      index.position 3 = ⟨1, 1⟩ ∧ index.utf16Position 3 = ⟨1, 2⟩ ∧ index.position 9 = ⟨2, 0⟩ ∧
      PartsAt (· ≤ 3) index.lineStarts 2 ∧
      (index.position 3).Before (index.position 5) ∧
      (index.utf16Position 3).Before (index.utf16Position 5) := by
  -- Everything but the numbers themselves is an instance of the general statement.
  intro text index
  obtain ⟨counted, parted, ordered⟩ := positions_exact text
  have order : 3 < 5 := by decide
  have inside : 5 ≤ text.length := by decide
  obtain ⟨_, first, second, _⟩ := counted 3
  obtain ⟨_, last, _⟩ := counted 9
  exact ⟨⟨order, inside⟩, first, second, last, (parted 3 2).2 (by decide),
    ordered 3 5 order inside⟩

end TextIndex

end TodoMarkers
