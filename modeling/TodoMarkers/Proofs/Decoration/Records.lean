import TodoMarkers.Proofs.Decoration.Place
import TodoMarkers.Proofs.Position
import TodoMarkers.Proofs.Record

/-! Every token in the content of a record's marker has its instruction, whatever stands on the
lines before it. -/

namespace TodoMarkers

open Text

/-- Exactly one instruction of a key starts at a column of a line, where the index of the text finds
it again. -/
def DecoratedAt (vocabulary : Vocabulary) (mode : DisplayMode) (text : List Char) (key : Key)
    (number column : Nat) : Prop :=
  let start := lineStart (lines text) number + column
  ((decorations vocabulary mode text).get key).filter (fun instruction =>
      instruction.start = start) =
    [(DecorationRule.ofKey vocabulary mode key).instructionAt start] ∧
  (TextIndex.ofText text).position start = ⟨number, column⟩

/-- In increasing order there is one instruction for each start. -/
theorem filter_start_eq {instructions : List Instruction} {instruction : Instruction}
    (increasing : instructions.Pairwise fun first later => first.start < later.start)
    (member : instruction ∈ instructions) :
    instructions.filter (fun other => other.start = instruction.start) = [instruction] := by
  -- Induction on the instructions: in strict order no other one shares the start.
  induction instructions with
  | nil => contradiction
  | cons first rest ih =>
    obtain ⟨before, increasing⟩ := List.pairwise_cons.1 increasing
    rcases List.mem_cons.1 member with rfl | later
    · -- All others start later.
      rw [List.filter_cons_of_pos (by simp), List.filter_eq_nil_iff.2]
      intro other there
      have := before other there
      simp only [decide_eq_true_eq]
      omega
    · have := before instruction later
      rw [List.filter_cons_of_neg (by simp only [decide_eq_true_eq]; omega)]
      exact ih increasing later

/-- A token within the content of a line is decorated. -/
theorem decoratedAt_of_inContent (vocabulary : Vocabulary) (mode : DisplayMode) {text : List Char}
    {line : List Char} {key : Key} {number column : Nat}
    (found : (lines text)[number]? = some line) (occurs : OccursAt key.mark.toList line column)
    (within : InContent (lines text) number line column) :
    DecoratedAt vocabulary mode text key number column := by
  -- There is an instruction, and the order of the key's instructions leaves no room for two.
  have room := occurs.stop_le key.mark_closed.ne_nil
  have member := (@mem_keyInstructions_iff vocabulary mode key text _).2
    ⟨number, line, column, found, occurs, within, rfl⟩
  constructor
  · rw [decorations_get]
    exact filter_start_eq (keyInstructions_increasing vocabulary mode key text) member
  · exact TextIndex.position_lineStart found (by omega)

/-- No token of a record is missed.

Every occurrence of a token within the content of the record's marker is decorated. So are the
tokens of the slots with which the content opens, each where the slots before it end. -/
theorem record_tokens_decorated (vocabulary : Vocabulary) (mode : DisplayMode) {grammar : Grammar}
    {path : Path} {text : String} {record : MarkerRecord}
    (member : record ∈ scanText grammar path text) :
    ∃ line content, (lines text.toList)[record.lineNumber]? = some line ∧
      Marker.firstContent? line = some content ∧
      (∀ key place,
        OccursAt (DecorationRule.ofKey vocabulary mode key).token.toList content place →
        DecoratedAt vocabulary mode text.toList key record.lineNumber
          (line.length - content.length + place)) ∧
      ∃ first second third,
        Marker.OpensWithSlots content record.toMarkerFields first second third ∧
        (∀ priority, record.priority = some priority →
          DecoratedAt vocabulary mode text.toList (.priority priority) record.lineNumber
            (line.length - content.length)) ∧
        (∀ kind, record.kind = some kind →
          DecoratedAt vocabulary mode text.toList (.kind kind) record.lineNumber
            (line.length - content.length + first.length)) ∧
        ∀ context, record.context = some context →
          DecoratedAt vocabulary mode text.toList (.context context) record.lineNumber
            (line.length - content.length + (first ++ second).length) := by
  -- The content is the end of its line, so its places are columns of the line.
  obtain ⟨number, line, fields, found, parsed, rfl⟩ := mem_scanText_iff.1 member
  have free := newline_not_mem_of_mem_lines (List.mem_of_getElem? found)
  obtain ⟨content, opens, solid, _⟩ := Grammar.parseLine?_eq_some_iff.1 parsed
  have ending := List.suffix_iff_eq_drop.1 (Marker.firstContent?_suffix free opens)
  have column := (Marker.markerColumn?_eq_some_iff free).2 ⟨content, opens, solid, rfl, ending.symm⟩
  -- Whatever occurs in the content occurs in the line, behind the column of the marker.
  have decorated : ∀ key place, OccursAt key.mark.toList content place →
      DecoratedAt vocabulary mode text.toList key number
        (line.length - content.length + place) := by
    intro key place occurs
    have shifted : OccursAt key.mark.toList line (line.length - content.length + place) :=
      occurs.of_part (ending ▸ List.prefix_rfl)
    apply decoratedAt_of_inContent vocabulary mode found shifted
    exact (inContent_iff shifted).2 (.inr ⟨_, column, Nat.le_add_right _ _⟩)
  obtain ⟨first, second, third, slots⟩ := Grammar.opensWithSlots_of_parseLine? parsed opens
  have upToKind : first ++ second <+: content := (List.prefix_append _ third).trans slots.head
  have upToPriority : [] ++ first <+: content := (List.prefix_append _ second).trans upToKind
  refine ⟨line, content, found, opens, fun key place occurs => decorated key place ?_,
    first, second, third, slots, ?_, ?_, ?_⟩
  · rwa [DecorationRule.ofKey_token] at occurs
  · intro priority filled
    exact decorated (.priority priority) 0 (slots.priority.occursAt filled upToPriority)
  · intro kind filled
    exact decorated (.kind kind) first.length (slots.kind.occursAt filled upToKind)
  · intro context filled
    exact decorated (.context context) (first ++ second).length
      (slots.context.occursAt filled slots.head)

/-- The record behind a line that ends in a bare keyword keeps the instruction of its priority. -/
theorem record_tokens_decorated_behind_keyword :
    (⟨{ text := "[high] x", rawText := "x", priority := some .high }, "notes.md", 1⟩ :
        MarkerRecord) ∈ scanText .standard "notes.md" "TODO:\n// TODO: [high] x" ∧
      DecoratedAt .standard .emoji "TODO:\n// TODO: [high] x".toList (.priority .high) 1 9 := by
  -- The record is found by evaluation, and the law says that its slot is decorated.
  have member : (⟨{ text := "[high] x", rawText := "x", priority := some .high }, "notes.md", 1⟩ :
      MarkerRecord) ∈ scanText .standard "notes.md" "TODO:\n// TODO: [high] x" := by decide
  obtain ⟨line, content, found, opens, _, _, _, _, _, priority, _⟩ :=
    record_tokens_decorated .standard .emoji member
  obtain rfl : "// TODO: [high] x".toList = line := Option.some.inj found
  have first : Marker.firstContent? "// TODO: [high] x".toList = some "[high] x".toList := by decide
  obtain rfl : "[high] x".toList = content := Option.some.inj (first.symm.trans opens)
  exact ⟨member, priority .high rfl⟩

end TodoMarkers
