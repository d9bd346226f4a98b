import TodoMarkers.Record
import TodoMarkers.Proofs.Marker.Fields
import TodoMarkers.Proofs.Marker.LineSpans

/-! The records of a text are the markers of its lines, each under the number of its line. -/

namespace TodoMarkers

open Text

/-- A line has fields exactly if its first marker has content, from which they are read. -/
theorem Grammar.parseLine?_eq_some_iff {grammar : Grammar} {line : List Char}
    {fields : MarkerFields} :
    grammar.parseLine? line = some fields ↔ ∃ content, Marker.firstContent? line = some content ∧
      trim content ≠ [] ∧
      fields = grammar.extractFields (Marker.stripCloser (trim content)) := by
  -- Only the first marker of the line counts.
  rw [parseLine?, Marker.remainder?]
  cases Marker.firstContent? line with
  | none => simp
  | some content =>
    dsimp only
    by_cases empty : trim content = []
    · simp [empty]
    · rw [if_neg (by simpa using empty), Option.map_some, Option.some.injEq]
      constructor
      · intro read
        exact ⟨content, rfl, empty, read.symm⟩
      · intro given
        obtain ⟨other, same, _, read⟩ := given
        rw [read, Option.some.inj same]

/-- The content of a line with fields opens with the slots that the fields name. -/
theorem Grammar.opensWithSlots_of_parseLine? {grammar : Grammar} {line content : List Char}
    {fields : MarkerFields} (parsed : grammar.parseLine? line = some fields)
    (opens : Marker.firstContent? line = some content) :
    ∃ first second third, Marker.OpensWithSlots content fields first second third := by
  -- The text from which the slots are read is a head of the content.
  obtain ⟨other, again, some_, same⟩ := parseLine?_eq_some_iff.1 parsed
  obtain rfl : content = other := Option.some.inj (opens.symm.trans again)
  have solid : StartsSolid content := by
    rcases Marker.firstContent?_start opens with blank | solid
    · exact absurd (trim_eq_nil_iff.2 blank) some_
    · exact solid
  have head := Marker.stripCloser_stripCloser_prefix_content solid
  cases read : Marker.takeSlots (Marker.stripCloser (Marker.stripCloser (trim content))) with
  | mk slots message =>
    obtain ⟨first, second, third, whole, priority, kind, context⟩ := Marker.takeSlots_split read
    rw [whole] at head
    refine ⟨first, second, third, (List.prefix_append _ message).trans head, ?_, ?_, ?_⟩
    all_goals simp only [same, extractFields, read]
    · exact priority
    · exact kind
    · exact context

/-- The content of a line's marker is what stands from the marker's column on. -/
theorem Marker.markerColumn?_eq_some_iff {line : List Char} (free : '\n' ∉ line) {column : Nat} :
    markerColumn? line = some column ↔ ∃ content, firstContent? line = some content ∧
      trim content ≠ [] ∧ column = line.length - content.length ∧ line.drop column = content := by
  -- The content is the end of the line, and blank exactly if nothing is left of it.
  unfold markerColumn?
  cases found : firstContent? line with
  | none => simp
  | some content =>
    have ending := List.suffix_iff_eq_drop.1 (firstContent?_suffix free found)
    dsimp only
    by_cases blank : content.all isBlank = true
    · have empty : trim content = [] := trim_eq_nil_iff.2 (List.all_eq_true.1 blank)
      rw [if_pos blank]
      constructor
      · intro none
        contradiction
      · intro given
        obtain ⟨other, same, solid, _⟩ := given
        rw [← Option.some.inj same] at solid
        exact absurd empty solid
    · have some_ : trim content ≠ [] := fun empty =>
        blank (List.all_eq_true.2 (trim_eq_nil_iff.1 empty))
      rw [if_neg blank, Option.some.injEq]
      constructor
      · rintro rfl
        exact ⟨content, rfl, some_, rfl, ending.symm⟩
      · intro given
        obtain ⟨other, same, _, rfl, _⟩ := given
        rw [Option.some.inj same]

/-- The records of some lines are those of their markers. -/
theorem mem_scanLines_iff {grammar : Grammar} {path : Path} {first : Nat}
    {lines : List (List Char)} {record : MarkerRecord} :
    record ∈ scanLines grammar path first lines ↔ ∃ number line fields,
      lines[number]? = some line ∧ grammar.parseLine? line = some fields ∧
        record = ⟨fields, path, first + number⟩ := by
  -- A line is the first one, or it is one of the rest with the next number.
  induction lines generalizing first with
  | nil => simp [scanLines]
  | cons line rest ih =>
    -- The records of the rest are those of the lines one number further on.
    have later : record ∈ scanLines grammar path (first + 1) rest ↔ ∃ number other fields,
        (line :: rest)[number + 1]? = some other ∧ grammar.parseLine? other = some fields ∧
          record = ⟨fields, path, first + (number + 1)⟩ := by
      rw [ih]
      simp only [List.getElem?_cons_succ, Nat.add_assoc, Nat.add_comm 1]
    have split : (∃ number other fields, (line :: rest)[number]? = some other ∧
        grammar.parseLine? other = some fields ∧ record = ⟨fields, path, first + number⟩) ↔
        (∃ fields, grammar.parseLine? line = some fields ∧ record = ⟨fields, path, first⟩) ∨
          record ∈ scanLines grammar path (first + 1) rest := by
      rw [later]
      constructor
      · intro given
        obtain ⟨number, other, fields, found, parsed, same⟩ := given
        cases number with
        | zero =>
          obtain rfl : line = other := by simpa using found
          exact .inl ⟨fields, parsed, same⟩
        | succ number => exact .inr ⟨number, other, fields, found, parsed, same⟩
      · intro given
        rcases given with ⟨fields, parsed, same⟩ | ⟨number, other, fields, found, parsed, same⟩
        · exact ⟨0, line, fields, rfl, parsed, same⟩
        · exact ⟨number + 1, other, fields, found, parsed, same⟩
    rw [split, scanLines]
    cases parsed : grammar.parseLine? line with
    | none => simp
    | some fields => simp

/-- The records of a text are those of the markers of its lines. -/
theorem mem_scanText_iff {grammar : Grammar} {path : Path} {text : String}
    {record : MarkerRecord} :
    record ∈ scanText grammar path text ↔ ∃ number line fields,
      (lines text.toList)[number]? = some line ∧ grammar.parseLine? line = some fields ∧
        record = ⟨fields, path, number⟩ := by
  -- The lines of a text are counted from zero.
  rw [scanText, mem_scanLines_iff]
  simp only [Nat.zero_add]

/-- A text of one line with a marker has one record. -/
theorem scanText_line {grammar : Grammar} {text : String} {fields : MarkerFields}
    (free : '\n' ∉ text.toList) (parsed : grammar.parseLine? text.toList = some fields)
    (path : Path) : scanText grammar path text = [⟨fields, path, 0⟩] := by
  -- The text is its only line.
  rw [scanText, lines_line free, scanLines, parsed]
  rfl

/-- A line has a record exactly if it has a marker. -/
theorem exists_record_iff {grammar : Grammar} {path : Path} {text : String} {line : List Char}
    {number : Nat} (found : (lines text.toList)[number]? = some line) :
    (∃ record ∈ scanText grammar path text, record.lineNumber = number) ↔
      Marker.isMarkerLine line = true := by
  -- Both sides ask for a first content that is not blank.
  rw [Marker.isMarkerLine_eq, Option.isSome_iff_exists]
  have free := newline_not_mem_of_mem_lines (List.mem_of_getElem? found)
  constructor
  · intro recorded
    obtain ⟨record, member, numbered⟩ := recorded
    obtain ⟨other, same, fields, there, parsed, rfl⟩ := mem_scanText_iff.1 member
    obtain rfl : other = number := numbered
    rw [found, Option.some.injEq] at there
    obtain rfl := there
    obtain ⟨content, first, solid, _⟩ := Grammar.parseLine?_eq_some_iff.1 parsed
    exact ⟨_, (Marker.markerColumn?_eq_some_iff free).2 ⟨content, first, solid, rfl,
      (List.suffix_iff_eq_drop.1 (Marker.firstContent?_suffix free first)).symm⟩⟩
  · intro marked
    obtain ⟨column, shown⟩ := marked
    obtain ⟨content, first, solid, _⟩ := (Marker.markerColumn?_eq_some_iff free).1 shown
    have parsed : grammar.parseLine? line =
        some (grammar.extractFields (Marker.stripCloser (trim content))) :=
      Grammar.parseLine?_eq_some_iff.2 ⟨content, first, solid, rfl⟩
    exact ⟨_, mem_scanText_iff.2 ⟨number, line, _, found, parsed, rfl⟩, rfl⟩

end TodoMarkers
