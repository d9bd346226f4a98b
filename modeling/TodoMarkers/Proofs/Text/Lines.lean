import TodoMarkers.Text.Occurrence

/-! The lines of a text: what they are made of, and where each of them starts. -/

namespace TodoMarkers.Text

/-- Two texts with one newline between them have the lines of both, if the first is a line. -/
@[simp] theorem lines_append_newline {line : List Char} (free : '\n' ∉ line) (rest : List Char) :
    lines (line ++ '\n' :: rest) = line :: lines rest := by
  -- Each character of the line joins the first piece, and the newline closes it.
  induction line with
  | nil => simp [lines, split]
  | cons c line ih =>
    simp only [List.mem_cons, not_or] at free
    obtain ⟨other, free⟩ := free
    have tail := ih free
    simp only [lines] at tail ⊢
    simp [split, Ne.symm other, tail]

/-- A text without newlines is its own only line. -/
@[simp] theorem lines_line {line : List Char} (free : '\n' ∉ line) : lines line = [line] := by
  -- No character closes the piece that the end of the text opens.
  induction line with
  | nil => rfl
  | cons c line ih =>
    simp only [List.mem_cons, not_or] at free
    obtain ⟨other, free⟩ := free
    have tail := ih free
    simp only [lines] at tail ⊢
    simp [split, Ne.symm other, tail]

/-- A text is either one line, or a line and a newline before another text. -/
theorem line_or_more (text : List Char) :
    '\n' ∉ text ∨ ∃ line rest, '\n' ∉ line ∧ text = line ++ '\n' :: rest := by
  -- The first newline, if there is one, ends the first line.
  by_cases newline : '\n' ∈ text
  · obtain ⟨line, rest, split, first⟩ := List.eq_append_cons_of_mem newline
    exact .inr ⟨line, rest, first, split⟩
  · exact .inl newline

/-- Whatever holds of single lines, and of a line before a text of which it holds, holds of every
text. -/
@[elab_as_elim] theorem lines_induction {motive : List Char → Prop}
    (last : ∀ line, '\n' ∉ line → motive line)
    (more : ∀ line rest, '\n' ∉ line → motive rest → motive (line ++ '\n' :: rest))
    (text : List Char) : motive text := by
  -- The text after a line is shorter than the whole.
  rcases line_or_more text with free | ⟨line, rest, free, whole⟩
  · exact last text free
  · have shorter : rest.length < text.length := by
      rw [whole, List.length_append, List.length_cons]
      omega
    rw [whole]
    exact more line rest free (lines_induction last more rest)
termination_by text.length

/-- Two texts with one newline between them have the lines of both. -/
theorem lines_append (text rest : List Char) :
    lines (text ++ '\n' :: rest) = lines text ++ lines rest := by
  -- The first text goes line by line, and its last line ends before the newline.
  induction text using lines_induction with
  | last only free => rw [lines_append_newline free, lines_line free, List.singleton_append]
  | more first more free ih =>
    rw [List.append_assoc, List.cons_append, lines_append_newline free, ih,
      lines_append_newline free, List.cons_append]

/-- A text has one line more than it has newlines. -/
theorem length_lines (text : List Char) : (lines text).length = text.count '\n' + 1 := by
  -- Each line but the last adds its newline.
  induction text using lines_induction with
  | last only free => rw [lines_line free, List.count_eq_zero.2 free, List.length_singleton]
  | more first rest free ih =>
    rw [lines_append_newline free, List.length_cons, ih, List.count_append,
      List.count_eq_zero.2 free, List.count_cons_self, Nat.zero_add]

/-- No line holds a newline. -/
theorem newline_not_mem_of_mem_lines {text line : List Char} (member : line ∈ lines text) :
    '\n' ∉ line := by
  -- A line is the first one, or it is one of the rest.
  induction text using lines_induction with
  | last only free =>
    rw [lines_line free, List.mem_singleton] at member
    rwa [member]
  | more first rest free ih =>
    rw [lines_append_newline free, List.mem_cons] at member
    rcases member with same | member
    · rwa [same]
    · exact ih member

/-- What may follow a line: nothing, or a newline and whatever comes after it. -/
def FollowsLine (tail : List Char) : Prop :=
  tail = [] ∨ ∃ rest, tail = '\n' :: rest

/-- What follows a line starts with no character but a newline. -/
theorem FollowsLine.head_eq {tail rest : List Char} {c : Char} (follows : FollowsLine tail)
    (starts : tail = c :: rest) : c = '\n' := by
  -- What follows a line is nothing, or it starts with a newline.
  rcases follows with none | ⟨rest, some⟩
  · simp [none] at starts
  · rw [some, List.cons.injEq] at starts
    exact starts.1.symm

/-- A line reaches up to what follows it. -/
theorem takeWhile_line {line tail : List Char} (free : '\n' ∉ line) (follows : FollowsLine tail) :
    (line ++ tail).takeWhile (· != '\n') = line := by
  -- No character of the line stops the search, and the newline behind it does.
  have before : ∀ c ∈ line, (c != '\n') = true := fun c member => by
    simpa using fun same : c = '\n' => free (same ▸ member)
  rw [List.takeWhile_append_of_pos before]
  rcases follows with rfl | ⟨rest, rfl⟩ <;> simp

/-- Behind a line stands what follows it. -/
theorem dropWhile_line {line tail : List Char} (free : '\n' ∉ line) (follows : FollowsLine tail) :
    (line ++ tail).dropWhile (· != '\n') = tail := by
  -- No character of the line stops the search, and the newline behind it does.
  have before : ∀ c ∈ line, (c != '\n') = true := fun c member => by
    simpa using fun same : c = '\n' => free (same ▸ member)
  rw [List.dropWhile_append_of_pos before]
  rcases follows with rfl | ⟨rest, rfl⟩ <;> simp

/-- The place where a line starts in the text that some lines make up. -/
def lineStart : List (List Char) → Nat → Nat
  | _, 0 => 0
  | [], _ + 1 => 0
  | line :: rest, number + 1 => line.length + 1 + lineStart rest number

/-- The first line starts where the text starts. -/
@[simp] theorem lineStart_zero (lines : List (List Char)) : lineStart lines 0 = 0 := by
  -- Nothing stands before the first line.
  cases lines <;> rfl

/-- Every later line starts after the first one and its newline. -/
@[simp] theorem lineStart_succ (line : List Char) (rest : List (List Char)) (number : Nat) :
    lineStart (line :: rest) (number + 1) = line.length + 1 + lineStart rest number :=
  rfl

/-- A line stands at the place where it starts, and nothing but a newline follows it. -/
theorem drop_lineStart {text line : List Char} {number : Nat}
    (found : (lines text)[number]? = some line) :
    ∃ tail, text.drop (lineStart (lines text) number) = line ++ tail ∧ FollowsLine tail := by
  -- The induction drops one line and its newline for each step of the line number.
  induction text using lines_induction generalizing number with
  | last only free =>
    rw [lines_line free] at found ⊢
    obtain ⟨rfl, rfl⟩ : number = 0 ∧ only = line := by
      cases number with
      | zero => simpa using found
      | succ number => simp at found
    exact ⟨[], by simp, .inl rfl⟩
  | more first rest free ih =>
    rw [lines_append_newline free] at found ⊢
    cases number with
    | zero =>
      obtain rfl : first = line := by simpa using found
      exact ⟨'\n' :: rest, by simp, .inr ⟨rest, rfl⟩⟩
    | succ number =>
      obtain ⟨tail, dropped, ending⟩ := ih (by simpa using found)
      refine ⟨tail, ?_, ending⟩
      have past : (first ++ '\n' :: rest).drop (first.length + 1) = rest := by
        rw [← List.drop_drop, List.drop_left, List.drop_one, List.tail_cons]
      rw [lineStart_succ, ← List.drop_drop, past, dropped]

/-- A line ends within the text. -/
theorem lineStart_add_length_le {text line : List Char} {number : Nat}
    (found : (lines text)[number]? = some line) :
    lineStart (lines text) number + line.length ≤ text.length := by
  -- Each line before it takes its length and one newline.
  induction text using lines_induction generalizing number with
  | last only free =>
    rw [lines_line free] at found ⊢
    cases number with
    | zero =>
      obtain rfl : only = line := by simpa using found
      simp
    | succ number => simp at found
  | more first rest free ih =>
    rw [lines_append_newline free] at found ⊢
    cases number with
    | zero =>
      obtain rfl : first = line := by simpa using found
      simp
    | succ number =>
      have tail := ih (by simpa using found)
      rw [lineStart_succ, List.length_append, List.length_cons]
      omega

end TodoMarkers.Text
