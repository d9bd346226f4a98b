import TodoMarkers.Proofs.Decoration.Token
import TodoMarkers.Proofs.Marker.LineSpans

/-! Where the instructions of a document stand: at the tokens of its lines, from the column on where
a line's content starts. -/

namespace TodoMarkers

open Text

/-- The instruction that a rule gives at a place. -/
def DecorationRule.instructionAt (rule : DecorationRule) (place : Nat) : Instruction :=
  ⟨rule.key, place, place + rule.token.length, rule.display⟩

/-- A rule gives its instructions in a span relative to where the span starts. -/
theorem DecorationRule.instructionsIn_eq (rule : DecorationRule) (span : Marker.Span) :
    rule.instructionsIn span =
      (occurrences rule.token.toList span.content).map fun place =>
        rule.instructionAt (span.start + place) :=
  rfl

/-- The instructions of one key in a document. -/
def keyInstructions (vocabulary : Vocabulary) (mode : DisplayMode) (key : Key)
    (text : List Char) : List Instruction :=
  (Marker.spans text).flatMap (DecorationRule.ofKey vocabulary mode key).instructionsIn

/-- There is one group for each key, in scan order. -/
theorem decorations_groups (vocabulary : Vocabulary) (mode : DisplayMode) (text : List Char) :
    (decorations vocabulary mode text).groups = Key.all.map fun key =>
      ⟨key, (DecorationRule.ofKey vocabulary mode key).display,
        keyInstructions vocabulary mode key text⟩ := by
  -- A rule is made for each key, and its group is what it computes.
  rw [decorations, DecorationSet.compute, DecorationSet.ofVocabulary, List.map_map]
  refine List.map_congr_left fun key _ => ?_
  rw [Function.comp_apply, DecorationRule.ofKey_key, keyInstructions]

/-- The instructions of a key are those of its group. -/
theorem decorations_get (vocabulary : Vocabulary) (mode : DisplayMode) (text : List Char)
    (key : Key) :
    (decorations vocabulary mode text).get key = keyInstructions vocabulary mode key text := by
  -- The look-up finds the group of the key, because the keys are listed once each.
  have listed : ∀ key ∈ Key.all, Key.all.find? (fun other => other = key) = some key := by decide
  rw [Decorations.get, decorations_groups, List.find?_map]
  have found := listed key key.mem_all
  simp only [Function.comp_def, found, Option.map_some, Option.getD_some]

/-- A span without content but blanks holds no token. -/
theorem keyInstructions_blank {vocabulary : Vocabulary} {mode : DisplayMode} {key : Key}
    {span : Marker.Span} (blank : span.isVisible = false) :
    (DecorationRule.ofKey vocabulary mode key).instructionsIn span = [] := by
  -- A token ends in a character that is no blank, and the span has none.
  rw [DecorationRule.instructionsIn_eq, DecorationRule.ofKey_token, List.map_eq_nil_iff,
    List.eq_nil_iff_forall_not_mem]
  intro place member
  -- The closing character of the token would stand in the span, and it is not a blank.
  obtain ⟨tail, whole⟩ := occursAt_of_mem_occurrences member
  obtain ⟨body, closer, same, closes, _⟩ := key.mark_closed
  have inside : closer ∈ span.content := by
    refine List.mem_of_mem_drop (i := place) ?_
    rw [← whole, same]
    simp
  have solid : isBlank closer = false := by
    rcases Bool.or_eq_true_iff.1 closes with bracket | colon
    · rw [beq_iff_eq.1 bracket]
      decide
    · rw [beq_iff_eq.1 colon]
      decide
  simp only [Marker.Span.isVisible, List.any_eq_false] at blank
  have := blank closer inside
  simp [solid] at this

/-- The instructions of a key come from the contents of the lines. -/
theorem keyInstructions_eq (vocabulary : Vocabulary) (mode : DisplayMode) (key : Key)
    (text : List Char) :
    keyInstructions vocabulary mode key text =
      (Marker.lineSpans 0 false (lines text)).flatMap
        (DecorationRule.ofKey vocabulary mode key).instructionsIn := by
  -- The spans that the lines leave out are blank, and hold no token.
  rw [← Marker.visible_spans, keyInstructions]
  induction Marker.spans text with
  | nil => rfl
  | cons span rest ih =>
    rw [List.flatMap_cons, ih]
    cases shown : span.isVisible with
    | false => simp only [keyInstructions_blank shown, Marker.visible, List.filter_cons, shown,
        List.nil_append, Bool.false_eq_true, if_false]
    | true => simp only [Marker.visible, List.filter_cons, shown, if_true, List.flatMap_cons]

/-- A column of a document's line lies within the content that the search finds there. -/
def InContent (lines : List (List Char)) (number : Nat) (line : List Char) (column : Nat) : Prop :=
  ∃ start, Marker.contentColumn? (Marker.waitsAt lines number) line = some start ∧ start ≤ column

/-- A column of a line lies within the content of the line's own marker. -/
def InMarker (line : List Char) (column : Nat) : Prop :=
  ∃ start, Marker.markerColumn? line = some start ∧ start ≤ column

/-- A token of a line lies within its content if a keyword waits for the line, or if it lies within
the line's own marker. -/
theorem inContent_iff {key : Key} {lines : List (List Char)} {number column : Nat}
    {line : List Char} (occurs : OccursAt key.mark.toList line column) :
    InContent lines number line column ↔
      Marker.waitsAt lines number = true ∨ InMarker line column := by
  -- The token's first character is no blank, so it stands behind the line's leading blanks.
  obtain ⟨c, rest, whole, solid⟩ := key.mark_startsSolid
  obtain ⟨tail, here⟩ := occurs
  rw [whole, List.cons_append] at here
  have past := length_takeWhile_blank_le here.symm solid
  have shown : line.all isBlank = false := by
    rw [List.all_eq_false]
    exact ⟨c, List.mem_of_mem_drop (here ▸ List.mem_cons_self), by simp [solid]⟩
  unfold InContent Marker.contentColumn?
  cases Marker.waitsAt lines number with
  | true => simp [shown, past]
  | false => simp [InMarker]

/-- An instruction stands at each token within the content of a line, and nowhere else. -/
theorem mem_keyInstructions_iff {vocabulary : Vocabulary} {mode : DisplayMode} {key : Key}
    {text : List Char} {instruction : Instruction} :
    instruction ∈ keyInstructions vocabulary mode key text ↔
      ∃ number line column, (lines text)[number]? = some line ∧
        OccursAt key.mark.toList line column ∧ InContent (lines text) number line column ∧
        instruction = (DecorationRule.ofKey vocabulary mode key).instructionAt
          (lineStart (lines text) number + column) := by
  -- The spans are those of the lines, and the search of a span finds each occurrence in it.
  have search := fun content place =>
    @mem_occurrences_iff key.mark.toList content place key.mark_closed.ne_nil
      key.mark_neverOverlapsItself
  simp only [keyInstructions_eq, List.mem_flatMap, DecorationRule.instructionsIn_eq,
    DecorationRule.ofKey_token, List.mem_map, search]
  constructor
  · intro member
    obtain ⟨span, member, place, occurs, rfl⟩ := member
    obtain ⟨number, line, found, shown⟩ := Marker.mem_lineSpans_iff.1 member
    obtain ⟨start, content, rfl⟩ := Option.map_eq_some_iff.1 shown
    -- The span's content is the line without the columns before it.
    refine ⟨number, line, start + place, found, ?_, ⟨start, content, Nat.le_add_right _ _⟩, ?_⟩
    · rwa [OccursAt, ← List.drop_drop]
    · rw [Nat.zero_add, Nat.add_assoc]
  · intro placed
    obtain ⟨number, line, column, found, occurs, ⟨start, content, past⟩, rfl⟩ := placed
    refine ⟨⟨0 + lineStart (lines text) number + start, line.drop start⟩,
      Marker.mem_lineSpans_iff.2 ⟨number, line, found, ?_⟩, column - start, ?_, ?_⟩
    · rw [Marker.lineSpan?]
      exact Option.map_eq_some_iff.2 ⟨start, content, rfl⟩
    · rwa [OccursAt, List.drop_drop, show start + (column - start) = column by omega]
    · rw [show 0 + lineStart (lines text) number + start + (column - start) =
        lineStart (lines text) number + column by omega]

/-- The instructions of a key stand in strictly increasing order. -/
theorem keyInstructions_increasing (vocabulary : Vocabulary) (mode : DisplayMode) (key : Key)
    (text : List Char) :
    (keyInstructions vocabulary mode key text).Pairwise fun instruction later =>
      instruction.start < later.start := by
  -- The order within a span and the order of the spans are shown apart.
  rw [keyInstructions_eq, List.pairwise_flatMap]
  constructor
  · -- Within one span the search reports increasing places.
    intro span _
    rw [DecorationRule.instructionsIn_eq, List.pairwise_map]
    refine (occurrences_increasing _ _).imp fun {place later} order => ?_
    exact Nat.add_lt_add_left order span.start
  · -- Every occurrence ends within its span, and the spans follow one another.
    refine (Marker.lineSpans_ordered _ _ _).imp fun {span other} order => ?_
    intro instruction here later there
    rw [DecorationRule.instructionsIn_eq, List.mem_map, DecorationRule.ofKey_token] at here there
    obtain ⟨place, member, rfl⟩ := here
    obtain ⟨otherPlace, _, rfl⟩ := there
    have room := (occursAt_of_mem_occurrences member).stop_le key.mark_closed.ne_nil
    have positive := List.length_pos_iff.2 key.mark_closed.ne_nil
    dsimp only [DecorationRule.instructionAt]
    omega

end TodoMarkers
