import TodoMarkers.Decoration.Bytes
import TodoMarkers.Proofs.Decoration.Token
import TodoMarkers.Proofs.Marker.Spans
import TodoMarkers.Proofs.Text.Occurrence
import TodoMarkers.Proofs.Text.Utf8

/-! Counting through the bytes of a document gives the same instructions as counting its characters,
and no slice cuts a character. -/

namespace TodoMarkers

open Text

namespace Text

/-- Slices between the bytes of places are the characters between them. -/
theorem slice?_take (text : List Char) (place count : Nat) :
    slice? (byteLength (text.take place)) (byteLength (text.take (place + count))) text =
      some ((text.drop place).take count) := by
  -- The text is split behind the bytes of each of its heads.
  have split (text : List Char) (place : Nat) :
      splitBytes? (byteLength (text.take place)) text =
        some (text.take place, text.drop place) := by
    have parts := splitBytes?_append (text.take place) (text.drop place)
    rwa [List.take_append_drop] at parts
  rw [List.take_add, byteLength_append, slice?, if_pos (Nat.le_add_right _ _), split,
    Nat.add_sub_cancel_left]
  dsimp only
  rw [split, Option.map_some]

/-- The bytes before an occurrence are those of the characters before it. -/
theorem byteOccurrencesFrom_eq (token before text : List Char) (covered : Nat) :
    byteOccurrencesFrom token (byteLength before) covered text =
      (occurrencesFrom token before.length covered text).map fun place =>
        byteLength ((before ++ text).take place) := by
  -- Each step of both searches leaves one character behind.
  induction text generalizing before covered with
  | nil => cases covered <;> rfl
  | cons c rest ih =>
    have next (less : Nat) :
        byteOccurrencesFrom token (byteLength before + c.utf8Size) less rest =
          (occurrencesFrom token (before.length + 1) less rest).map fun place =>
            byteLength ((before ++ c :: rest).take place) := by
      simpa using ih (before ++ [c]) less
    cases covered with
    | succ covered => exact next covered
    | zero =>
      rw [byteOccurrencesFrom, occurrencesFrom]
      split
      · rw [next, List.map_cons, List.take_left]
      · exact next 0

end Text

/-- Where every element has a result, all of them have theirs. -/
theorem mapM_eq_some_map {α β : Type} {list : List α} {result? : α → Option β} {result : α → β}
    (each : ∀ element ∈ list, result? element = some (result element)) :
    list.mapM result? = some (list.map result) := by
  -- Induction on the list: a first element with a result leaves the question to the rest.
  induction list with
  | nil => rfl
  | cons first rest ih =>
    obtain ⟨here, others⟩ := List.forall_mem_cons.1 each
    rw [List.mapM_cons, here, ih others]
    rfl

namespace Marker

/-- A span of a text as its place and the bytes before and behind it. -/
def Span.inBytes (span : Span) (text : List Char) : PlacedMatch where
  start := byteLength (text.take span.start)
  stop := byteLength (text.take (span.start + span.content.length))
  place := span.start

/-- The content of a marker follows what precedes the marker and its lead. -/
theorem append_eq_of_openingAt? (before : List Char) {text : List Char} {opening : Opening}
    (opens : openingAt? text = some opening) :
    ∃ after, before ++ text = (before ++ opening.lead) ++ (opening.content ++ after) := by
  -- The opening splits its text into lead, content and rest, and what precedes stays in front.
  obtain ⟨after, whole, _⟩ := openingAt?_split opens
  exact ⟨after, by rw [whole, List.append_assoc, List.append_assoc]⟩

/-- The search through bytes finds the spans that the search through characters finds. -/
theorem matchesFrom_eq (before text : List Char) (covered : Nat) :
    matchesFrom (byteLength before) covered text =
      (spansFrom before.length covered text).map fun span =>
        (span.inBytes (before ++ text)).toMatch := by
  -- Each step of both searches leaves one character behind.
  induction text generalizing before covered with
  | nil => cases covered <;> rfl
  | cons c rest ih =>
    have next (less : Nat) :
        matchesFrom (byteLength before + c.utf8Size) less rest =
          (spansFrom (before.length + 1) less rest).map fun span =>
            (span.inBytes (before ++ c :: rest)).toMatch := by
      simpa using ih (before ++ [c]) less
    cases covered with
    | succ covered => exact next covered
    | zero =>
      rw [matchesFrom, spansFrom_cons_zero]
      cases opens : openingAt? (c :: rest) with
      | none => exact next 0
      | some opening =>
        obtain ⟨after, split⟩ := append_eq_of_openingAt? before opens
        have start : before.length + opening.lead.length = (before ++ opening.lead).length :=
          List.length_append.symm
        rw [List.map_cons, Span.inBytes]
        dsimp only
        rw [next, split, start, List.take_left, List.take_length_add_append, List.take_left]
        simp only [byteLength_append]

/-- No span of the search starts at a character that is still covered. -/
theorem le_start_of_mem_spansFrom {text : List Char} {place covered : Nat} {span : Span}
    (member : span ∈ spansFrom place covered text) : place + covered ≤ span.start := by
  -- Induction on the text: what is covered is counted down as the place moves on.
  induction text generalizing place covered with
  | nil => cases covered <;> simp [spansFrom] at member
  | cons c rest ih =>
    cases covered with
    | succ covered =>
      have := ih member
      omega
    | zero =>
      rw [spansFrom_cons_zero] at member
      split at member
      · rcases List.mem_cons.1 member with rfl | member
        · exact Nat.le_add_right _ _
        · have := ih member
          omega
      · have := ih member
        omega

/-- The spans of the search stand in the order of their starts. -/
theorem spansFrom_ordered (text : List Char) (place covered : Nat) :
    (spansFrom place covered text).Pairwise fun span later => span.start ≤ later.start := by
  -- Induction on the text, since a span is put before those that the rest of it gives.
  induction text generalizing place covered with
  | nil => cases covered <;> exact .nil
  | cons c rest ih =>
    cases covered with
    | succ covered => exact ih _ _
    | zero =>
      rw [spansFrom_cons_zero]
      split
      · -- The lead and the content of the first span are covered from then on.
        refine List.pairwise_cons.2 ⟨fun later member => ?_, ih _ _⟩
        have := le_start_of_mem_spansFrom member
        dsimp only
        omega
      · exact ih _ _

/-- The content of every span of the search stands at its start. -/
theorem occursAt_of_mem_spansFrom {before text : List Char} {covered : Nat} {span : Span}
    (member : span ∈ spansFrom before.length covered text) :
    span.start ≤ (before ++ text).length ∧ OccursAt span.content (before ++ text) span.start := by
  -- Induction on the text, which carries the characters already passed along in front.
  induction text generalizing before covered with
  | nil => cases covered <;> simp [spansFrom] at member
  | cons c rest ih =>
    have next {less : Nat} (member : span ∈ spansFrom (before.length + 1) less rest) :
        span.start ≤ (before ++ c :: rest).length ∧
          OccursAt span.content (before ++ c :: rest) span.start := by
      simpa using @ih (before ++ [c]) less (by simpa using member)
    cases covered with
    | succ covered => exact next member
    | zero =>
      rw [spansFrom_cons_zero] at member
      cases opens : openingAt? (c :: rest) with
      | none =>
        rw [opens] at member
        exact next member
      | some opening =>
        rw [opens] at member
        rcases List.mem_cons.1 member with rfl | member
        · obtain ⟨after, split⟩ := append_eq_of_openingAt? before opens
          have start : before.length + opening.lead.length = (before ++ opening.lead).length :=
            List.length_append.symm
          rw [split]
          dsimp only
          rw [start]
          exact ⟨by simp, after, List.drop_left.symm⟩
        · exact next member

/-- The content of every span of a text stands at its start. -/
theorem occursAt_of_mem_spans {text : List Char} {span : Span} (member : span ∈ spans text) :
    span.start ≤ text.length ∧ OccursAt span.content text span.start :=
  -- Nothing has been passed at the start of the search.
  @occursAt_of_mem_spansFrom [] text 0 span member

/-- Matches are placed where the spans start that they are the bytes of. -/
theorem placeMatches?_eq {text : List Char} {spans : List Span} {place : Nat}
    (behind : ∀ span ∈ spans, place ≤ span.start)
    (inside : ∀ span ∈ spans, span.start ≤ text.length)
    (ordered : spans.Pairwise fun span later => span.start ≤ later.start) :
    placeMatches? text (byteLength (text.take place)) place
        (spans.map fun span => (span.inBytes text).toMatch) =
      some (spans.map (·.inBytes text)) := by
  -- Each span is behind the one from which its place is counted on.
  induction spans generalizing place with
  | nil => rfl
  | cons span spans ih =>
    rw [List.forall_mem_cons] at behind inside
    obtain ⟨later, ordered⟩ := List.pairwise_cons.1 ordered
    obtain ⟨count, start⟩ : ∃ count, span.start = place + count :=
      ⟨span.start - place, by have := behind.1; omega⟩
    have between : slice? (byteLength (text.take place)) (span.inBytes text).start text =
        some ((text.drop place).take count) := by
      rw [Span.inBytes, start]
      exact slice?_take text place count
    have counted : place + ((text.drop place).take count).length = span.start := by
      have := inside.1
      rw [List.length_take, List.length_drop]
      omega
    rw [List.map_cons, placeMatches?, between]
    dsimp only
    rw [counted, show (span.inBytes text).start = byteLength (text.take span.start) from rfl,
      ih later inside.2 ordered, Option.map_some]
    rfl

/-- The spans of a document are found and placed through its bytes. -/
theorem placeMatches?_matchesFrom (text : List Char) :
    placeMatches? text 0 0 (matchesFrom 0 0 text) = some ((spans text).map (·.inBytes text)) := by
  -- Nothing is covered and nothing is counted before the search begins.
  have matched : matchesFrom 0 0 text =
      (spans text).map fun span => (span.inBytes text).toMatch := matchesFrom_eq [] text 0
  rw [matched]
  exact @placeMatches?_eq text (spans text) 0 (fun span _ => Nat.zero_le span.start)
    (fun _ member => (occursAt_of_mem_spans member).1) (spansFrom_ordered text 0 0)

end Marker

/-- The instructions of a rule in a span are found through the bytes of the span. -/
theorem DecorationRule.instructionsOf?_inBytes {rule : DecorationRule}
    (nonempty : rule.token.toList ≠ []) {text : List Char} {span : Marker.Span}
    (member : span ∈ Marker.spans text) :
    rule.instructionsOf? text (span.inBytes text) = some (rule.instructionsIn span) := by
  -- Slicing by bytes gives the span's own content, and its occurrences are then counted off.
  obtain ⟨_, occurs⟩ := Marker.occursAt_of_mem_spans member
  have content : slice? (span.inBytes text).start (span.inBytes text).stop text =
      some span.content := by
    have slice := slice?_take text span.start span.content.length
    rwa [occurs.extract] at slice
  have found : byteOccurrencesFrom rule.token.toList 0 0 span.content =
      (occurrences rule.token.toList span.content).map fun place =>
        byteLength (span.content.take place) :=
    byteOccurrencesFrom_eq rule.token.toList [] span.content 0
  rw [instructionsOf?, content]
  dsimp only
  rw [found, List.mapM_map]
  refine mapM_eq_some_map fun place member => ?_
  -- Before an occurrence there are as many characters as its place says.
  have before : slice? 0 (byteLength (span.content.take place)) span.content =
      some (span.content.take place) := by
    have slice := slice?_take span.content 0 place
    rwa [Nat.zero_add] at slice
  have room := (occursAt_of_mem_occurrences member).stop_le nonempty
  have counted : (span.content.take place).length = place := by
    rw [List.length_take]
    omega
  rw [Function.comp_apply, before, Option.map_some, counted]
  rfl

/-- The group of a rule is found through the bytes of the spans. -/
theorem DecorationRule.groupOf?_inBytes {rule : DecorationRule}
    (nonempty : rule.token.toList ≠ []) (text : List Char) :
    rule.groupOf? text ((Marker.spans text).map (·.inBytes text)) =
      some ⟨rule.key, rule.display, (Marker.spans text).flatMap rule.instructionsIn⟩ := by
  -- Each span gives its instructions, and the group joins them.
  have each : (Marker.spans text).mapM (rule.instructionsOf? text ∘ (·.inBytes text)) =
      some ((Marker.spans text).map rule.instructionsIn) :=
    mapM_eq_some_map fun span member => instructionsOf?_inBytes nonempty member
  rw [groupOf?, List.mapM_map, each, Option.map_some, List.flatMap_def]

/-- A whole document has the same instructions through its bytes. -/
theorem computeBytes?_ofVocabulary (vocabulary : Vocabulary) (mode : DisplayMode)
    (text : List Char) :
    (DecorationSet.ofVocabulary vocabulary mode).computeBytes? text =
      some (decorations vocabulary mode text) := by
  -- The spans are placed by bytes, and each rule finds its group through them.
  have groups : (DecorationSet.ofVocabulary vocabulary mode).rules.mapM
        (fun rule => rule.groupOf? text ((Marker.spans text).map (·.inBytes text))) =
      some ((DecorationSet.ofVocabulary vocabulary mode).rules.map fun rule =>
        ⟨rule.key, rule.display, (Marker.spans text).flatMap rule.instructionsIn⟩) := by
    refine mapM_eq_some_map fun rule member => ?_
    -- The rule is that of a key, whose token is not empty.
    obtain ⟨key, _, rfl⟩ := List.mem_map.1 member
    refine DecorationRule.groupOf?_inBytes ?_ text
    rw [DecorationRule.ofKey_token]
    exact key.mark_closed.ne_nil
  rw [DecorationSet.computeBytes?, Marker.placeMatches?_matchesFrom]
  dsimp only
  rw [groups, Option.map_some]
  rfl

end TodoMarkers
