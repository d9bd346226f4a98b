import TodoMarkers.Proofs.Marker.Recognition
import TodoMarkers.Proofs.Record

/-! Scanning goes line by line: the records of two texts are put together with those of the second
moved down, and blanks at the ends of lines, such as carriage returns, change no record. -/

namespace TodoMarkers

open Text

namespace Text

/-- A line with blanks behind it that do not end the line. -/
def Padded (line other : List Char) : Prop :=
  ∃ blanks, (∀ b ∈ blanks, isBlank b = true) ∧ '\n' ∉ blanks ∧ other = line ++ blanks

/-- A text with a carriage return in front of every newline. -/
def withReturns (text : List Char) : List Char :=
  text.flatMap fun c => if c = '\n' then ['\r', '\n'] else [c]

/-- A line without newlines stays as it is. -/
theorem withReturns_line {line : List Char} (free : '\n' ∉ line) : withReturns line = line := by
  -- None of its characters is replaced.
  induction line with
  | nil => rfl
  | cons c line ih =>
    simp only [List.mem_cons, not_or] at free
    rw [withReturns, List.flatMap_cons, if_neg (Ne.symm free.1), ← withReturns, ih free.2,
      List.singleton_append]

/-- The newline behind a line gets a carriage return. -/
theorem withReturns_append_newline {line : List Char} (free : '\n' ∉ line) (rest : List Char) :
    withReturns (line ++ '\n' :: rest) = (line ++ ['\r']) ++ '\n' :: withReturns rest := by
  -- The line stays as it is, and the newline is replaced.
  have whole : withReturns (line ++ '\n' :: rest) =
      withReturns line ++ '\r' :: '\n' :: withReturns rest := by
    simp only [withReturns, List.flatMap_append, List.flatMap_cons, if_pos, List.cons_append,
      List.nil_append]
  rw [whole, withReturns_line free, List.append_assoc, List.singleton_append]

/-- The lines of a text with carriage returns are its lines with blanks behind them. -/
theorem lines_withReturns (text : List Char) :
    List.Forall₂ Padded (lines text) (lines (withReturns text)) := by
  -- Every line but the last gets one carriage return.
  induction text using lines_induction with
  | last only free =>
    rw [withReturns_line free, lines_line free]
    exact .cons ⟨[], by simp, by simp, (List.append_nil only).symm⟩ .nil
  | more first rest free ih =>
    have freeReturn : '\n' ∉ first ++ ['\r'] := by simp [free]
    rw [withReturns_append_newline free, lines_append_newline free,
      lines_append_newline freeReturn]
    exact .cons ⟨['\r'], List.forall_mem_singleton.2 (by decide), by decide, rfl⟩ ih

end Text

/-- Blanks behind a line change nothing about its fields. -/
theorem Grammar.parseLine?_of_padded {grammar : Grammar} {line other : List Char}
    (free : '\n' ∉ line) (padded : Padded line other) :
    grammar.parseLine? other = grammar.parseLine? line := by
  -- The marker is found in the same core of both lines.
  obtain ⟨blanks, blank, freeBlanks, rfl⟩ := padded
  rw [parseLine?, parseLine?, Marker.remainder?_eq_map, Marker.remainder?_eq_map,
    Marker.core?_append_blanks free blank freeBlanks]

/-- The same record some lines further down. -/
def MarkerRecord.movedDown (record : MarkerRecord) (count : Nat) : MarkerRecord :=
  { record with lineNumber := record.lineNumber + count }

variable {grammar : Grammar} {path : Path}

/-- Lines with blanks behind them have the same records. -/
theorem scanLines_of_padded {lines others : List (List Char)} (free : ∀ line ∈ lines, '\n' ∉ line)
    (padded : List.Forall₂ Padded lines others) (number : Nat) :
    scanLines grammar path number others = scanLines grammar path number lines := by
  -- The lines are paired one by one, and each pair has the same fields.
  induction padded generalizing number with
  | nil => rfl
  | cons padded _ ih =>
    obtain ⟨here, below⟩ := List.forall_mem_cons.1 free
    rw [scanLines, scanLines, Grammar.parseLine?_of_padded here padded, ih below]

/-- The records of lines that follow other lines come behind those of the other lines. -/
theorem scanLines_append (lines others : List (List Char)) (number : Nat) :
    scanLines grammar path number (lines ++ others) =
      scanLines grammar path number lines ++
        scanLines grammar path (number + lines.length) others := by
  -- The number goes up by one for each line that is left behind.
  induction lines generalizing number with
  | nil => rfl
  | cons line lines ih =>
    rw [List.cons_append, scanLines, scanLines, ih, List.length_cons, Nat.add_right_comm number 1,
      ← Nat.add_assoc]
    cases grammar.parseLine? line <;> rfl

/-- Lines that are counted from a later number have the same records further down. -/
theorem scanLines_add (lines : List (List Char)) (number count : Nat) :
    scanLines grammar path (number + count) lines =
      (scanLines grammar path number lines).map (·.movedDown count) := by
  -- A line keeps its distance to the line before it.
  induction lines generalizing number with
  | nil => rfl
  | cons line lines ih =>
    have below := ih (number + 1)
    rw [Nat.add_right_comm] at below
    rw [scanLines, scanLines, below]
    cases grammar.parseLine? line <;> rfl

/-- The numbers of the records go up, from the number of the first line on. -/
theorem scanLines_increasing (lines : List (List Char)) (number : Nat) :
    (scanLines grammar path number lines).Pairwise fun record later =>
      record.lineNumber < later.lineNumber := by
  -- The record of a line comes before those of the lines behind it.
  induction lines generalizing number with
  | nil => exact .nil
  | cons line lines ih =>
    rw [scanLines]
    cases grammar.parseLine? line with
    | none => exact ih (number + 1)
    | some fields =>
      refine List.pairwise_cons.2 ⟨fun later member => ?_, ih (number + 1)⟩
      -- The other records are on later lines.
      obtain ⟨offset, _, _, _, _, rfl⟩ := mem_scanLines_iff.1 member
      exact Nat.lt_of_lt_of_le (Nat.lt_succ_self number) (Nat.le_add_right _ offset)

/-- Scanning goes line by line, and how lines end is no matter.

The records of two texts with a newline between them are those of the first and then those of the
second, moved down by the lines of the first. No two records of a text share a line, and their lines
go up. A carriage return in front of every newline changes no record. -/
theorem scanText_by_lines (grammar : Grammar) (path : Path) (text more : String) :
    scanText grammar path (text ++ "\n" ++ more) =
        scanText grammar path text ++
          (scanText grammar path more).map (·.movedDown (text.toList.count '\n' + 1)) ∧
      ((scanText grammar path text).Pairwise fun record later =>
        record.lineNumber < later.lineNumber) ∧
      scanText grammar path (String.ofList (withReturns text.toList)) =
        scanText grammar path text := by
  -- Each part is about the lines of the text, which are counted by its newlines.
  refine ⟨?_, scanLines_increasing _ 0, ?_⟩
  · have whole : (text ++ "\n" ++ more).toList = text.toList ++ '\n' :: more.toList := by simp
    rw [scanText, whole, lines_append, scanLines_append, scanLines_add, length_lines]
    rfl
  · rw [scanText, String.toList_ofList]
    exact scanLines_of_padded (fun line => newline_not_mem_of_mem_lines)
      (lines_withReturns text.toList) 0

end TodoMarkers
