import TodoMarkers.Proofs.Decoration.Place
import TodoMarkers.Proofs.Position
import TodoMarkers.Proofs.Record

/-! Decorations and records agree on the lines that hold markers, except behind a keyword that waits
for its content across the end of its own line. -/

namespace TodoMarkers

open Text

/-- An instruction lies on the line of a record, within the content of that line's marker. -/
def Instruction.OnMarkerLine (grammar : Grammar) (path : Path) (text : String)
    (instruction : Instruction) : Prop :=
  -- The position is the one that the index of the text reports for the first character.
  let position := (TextIndex.ofText text.toList).position instruction.start
  ∃ record ∈ scanText grammar path text, position.line = record.lineNumber ∧
    ∃ line content, (lines text.toList)[record.lineNumber]? = some line ∧
      Marker.isMarkerLine line = true ∧ Marker.firstContent? line = some content ∧
      line.length - content.length ≤ position.character

/-- Some line for which a keyword waits holds a token outside of a marker of its own. -/
def StrayToken (lines : List (List Char)) : Prop :=
  -- The keyword ends an earlier line, and nothing but blanks stands between the two lines.
  ∃ number line column, ∃ key : Key, lines[number]? = some line ∧
    Marker.waitsAt lines number = true ∧ OccursAt key.mark.toList line column ∧
    ¬ InMarker line column

/-- An instruction at a column of a line lies on a marker line exactly if the column lies within the
line's own marker. -/
theorem onMarkerLine_iff {grammar : Grammar} {path : Path} {text : String} {line : List Char}
    {number column : Nat} (found : (lines text.toList)[number]? = some line)
    (inside : column ≤ line.length) {instruction : Instruction}
    (start : instruction.start = lineStart (lines text.toList) number + column) :
    instruction.OnMarkerLine grammar path text ↔ InMarker line column := by
  -- The start has one position, so the record of that line is the only one in question.
  have free := newline_not_mem_of_mem_lines (List.mem_of_getElem? found)
  unfold Instruction.OnMarkerLine
  simp only [start, TextIndex.position_lineStart found inside]
  constructor
  · intro placed
    obtain ⟨record, _, numbered, other, content, there, marked, first, past⟩ := placed
    rw [← numbered, found, Option.some.injEq] at there
    obtain rfl := there
    rw [Marker.isMarkerLine_eq, Option.isSome_iff_exists] at marked
    obtain ⟨column, shown⟩ := marked
    -- The column of the marker is where its content starts.
    obtain ⟨same, again, _, rfl, _⟩ := (Marker.markerColumn?_eq_some_iff free).1 shown
    rw [first, Option.some.injEq] at again
    obtain rfl := again
    exact ⟨_, shown, past⟩
  · intro within
    obtain ⟨first, shown, past⟩ := within
    have marked : Marker.isMarkerLine line = true := by
      rw [Marker.isMarkerLine_eq, shown, Option.isSome_some]
    obtain ⟨record, member, numbered⟩ := (exists_record_iff found).2 marked
    obtain ⟨content, opens, _, rfl, _⟩ := (Marker.markerColumn?_eq_some_iff free).1 shown
    exact ⟨record, member, numbered.symm, line, content, numbered ▸ found, marked, opens, past⟩

/-- Every instruction of a document lies on a marker line, unless some token is stray. -/
theorem decorations_onMarkerLine_iff (vocabulary : Vocabulary) (mode : DisplayMode)
    (grammar : Grammar) (path : Path) (text : String) :
    (∀ group ∈ (decorations vocabulary mode text.toList).groups,
      ∀ instruction ∈ group.instructions, instruction.OnMarkerLine grammar path text) ↔
    ¬ StrayToken (lines text.toList) := by
  -- Instructions correspond to tokens within the content of a line, by the description of the
  -- search.
  rw [decorations_groups, List.forall_mem_map]
  constructor
  · -- A stray token would have an instruction of its own.
    intro all stray
    obtain ⟨number, line, column, key, found, waits, occurs, outside⟩ := stray
    have member := (@mem_keyInstructions_iff vocabulary mode key text.toList _).2
      ⟨number, line, column, found, occurs, (inContent_iff occurs).2 (.inl waits), rfl⟩
    have room := occurs.stop_le key.mark_closed.ne_nil
    have placed := all key key.mem_all _ member
    exact outside ((onMarkerLine_iff found (by omega) rfl).1 placed)
  · intro clear key _ instruction member
    obtain ⟨number, line, column, found, occurs, within, rfl⟩ := mem_keyInstructions_iff.1 member
    have room := occurs.stop_le key.mark_closed.ne_nil
    apply (onMarkerLine_iff found (by omega) rfl).2
    rcases (inContent_iff occurs).1 within with waits | own
    · -- What a waiting keyword reaches is within the line's own marker, or else it is stray.
      by_contra outside
      exact clear ⟨number, line, column, key, found, waits, occurs, outside⟩
    · exact own

/-- A keyword that ends its line reaches a token on a line without a marker. -/
theorem decorations_leave_marker_lines :
    ¬ ∀ group ∈ (decorations .standard .emoji "TODO:\n[high] x".toList).groups,
      ∀ instruction ∈ group.instructions,
        instruction.OnMarkerLine .standard "notes.md" "TODO:\n[high] x" := by
  -- The decorated token has no record to lie on the line of.
  intro all
  -- The text has an instruction, and no record.
  have high : (⟨.priority .high, "🔴", [⟨.priority .high, 6, 12, "🔴"⟩]⟩ : KeyDecorations) ∈
      (decorations .standard .emoji "TODO:\n[high] x".toList).groups := by decide
  have none : scanText .standard "notes.md" "TODO:\n[high] x" = [] := by decide
  obtain ⟨record, member, _⟩ := all _ high _ List.mem_cons_self
  rw [none] at member
  contradiction

end TodoMarkers
