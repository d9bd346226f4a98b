import TodoMarkers.Proofs.Marker.Slots

/-! A marker's text is read in one way only: tokens in their slots, blanks, and a message. -/

namespace TodoMarkers

open Text

namespace Marker

/-- A way to read a text: what each slot at its head was filled with, and the message behind them.

The message is trimmed, and it opens with no token of a slot behind the last one that is filled. -/
@[ext] structure Reading where
  /-- The priority slot. -/
  priority : Option (Filled Priority)
  /-- The kind slot. -/
  kind : Option (Filled Kind)
  /-- The context slot. -/
  context : Option (Filled Context)
  /-- The message. -/
  message : List Char
  /-- There are no blanks around the message. -/
  trimmed : trim message = message
  /-- Without any key the message opens with no priority. -/
  noPriority : priority = none → kind = none → context = none → ¬ Opens Priority.token message
  /-- Without a key from the kind on it opens with no kind. -/
  noKind : kind = none → context = none → ¬ Opens Kind.token message
  /-- Without a context it opens with no context. -/
  noContext : context = none → ¬ Opens Context.token message

namespace Reading

/-- The characters that come after the kind slot. -/
def afterKind (reading : Reading) : List Char :=
  written Context.token reading.context ++ reading.message

/-- The characters that come after the priority slot. -/
def afterPriority (reading : Reading) : List Char :=
  written Kind.token reading.kind ++ reading.afterKind

/-- The text that is read. -/
def text (reading : Reading) : List Char :=
  written Priority.token reading.priority ++ reading.afterPriority

/-- The keys in the slots. -/
def slots (reading : Reading) : Slots :=
  ⟨reading.priority.map Filled.key, reading.kind.map Filled.key, reading.context.map Filled.key⟩

/-- No blank starts the message. -/
theorem trimStart_message (reading : Reading) : trimStart reading.message = reading.message := by
  -- The message is trimmed as a whole.
  have head := trimStart_eq_of_head (trim_prefix_trimStart reading.message)
  rwa [reading.trimmed] at head

/-- No blank comes right after the kind slot. -/
theorem trimStart_afterKind (reading : Reading) :
    trimStart reading.afterKind = reading.afterKind :=
  -- A slot starts with no blank, and without one the message does not.
  trimStart_written Context.legible reading.trimStart_message

/-- No blank comes right after the priority slot. -/
theorem trimStart_afterPriority (reading : Reading) :
    trimStart reading.afterPriority = reading.afterPriority :=
  -- The argument is the one for the kind slot, one slot earlier.
  trimStart_written Kind.legible reading.trimStart_afterKind

/-- An empty kind slot is not followed by a kind. -/
theorem not_opens_afterKind {reading : Reading} (empty : reading.kind = none) :
    ¬ Opens Kind.token reading.afterKind := by
  -- A context in the next slot is no kind, and without one the reading excludes it.
  unfold afterKind
  cases filled : reading.context with
  | none => exact reading.noKind empty filled
  | some slot =>
    -- The context opens what follows, and it is no kind.
    exact not_opens_of_mark (.context slot.key) Key.kind (fun _ => rfl) (by simp)
      (mark_prefix_written rfl)

/-- An empty priority slot is not followed by a priority. -/
theorem not_opens_afterPriority {reading : Reading} (empty : reading.priority = none) :
    ¬ Opens Priority.token reading.afterPriority := by
  -- The next filled slot is of another category, and without one the reading excludes it.
  unfold afterPriority afterKind
  -- Either the next filled slot opens what follows, or the message does.
  cases kind : reading.kind with
  | some slot =>
    exact not_opens_of_mark (.kind slot.key) Key.priority (fun _ => rfl) (by simp)
      (mark_prefix_written rfl)
  | none =>
    cases context : reading.context with
    | some slot =>
      exact not_opens_of_mark (.context slot.key) Key.priority (fun _ => rfl) (by simp)
        (mark_prefix_written rfl)
    | none => exact reading.noPriority empty kind context

/-- The slots of a text are those of each of its readings, and the message is left behind blanks. -/
theorem takeSlots_text (reading : Reading) :
    ∃ blanks, (∀ b ∈ blanks, isBlank b = true) ∧
      takeSlots reading.text = (reading.slots, blanks ++ reading.message) := by
  -- The three slots are read in turn, each behind the one before.
  obtain ⟨blanks, blank, context⟩ := takeKey_written Context.legible reading.noContext
  refine ⟨blanks, blank, ?_⟩
  have priority := takeSlot_written Priority.legible reading.trimStart_afterPriority
    not_opens_afterPriority
  have kind := takeSlot_written Kind.legible reading.trimStart_afterKind not_opens_afterKind
  -- Each slot is read off what the one before it leaves.
  rw [takeSlots, text, priority]
  dsimp only
  rw [afterPriority, kind]
  dsimp only
  rw [afterKind, context]
  rfl

/-- A text has one reading at most. -/
theorem text_injective : Function.Injective text := by
  -- Each slot is what the text opens with, so equal texts have equal slots.
  intro reading other same
  -- The slots are told apart one after the other.
  obtain ⟨priority, same⟩ := eq_of_written_append Priority.legible same
    reading.trimStart_afterPriority other.trimStart_afterPriority
    not_opens_afterPriority not_opens_afterPriority
  obtain ⟨kind, same⟩ := eq_of_written_append Kind.legible same
    reading.trimStart_afterKind other.trimStart_afterKind not_opens_afterKind not_opens_afterKind
  obtain ⟨context, message⟩ := eq_of_written_append Context.legible same
    reading.trimStart_message other.trimStart_message reading.noContext other.noContext
  exact Reading.ext priority kind context message

/-- A trimmed text has a reading. -/
theorem exists_text_eq {text : List Char} (trimmed : trim text = text) :
    ∃ reading : Reading, reading.text = text := by
  -- A trimmed text has no blanks at either of its ends.
  have flush : trimStart text = text := by
    have head := trimStart_eq_of_head (trim_prefix_trimStart text)
    rwa [trimmed] at head
  have ending : trimEnd text = text := trimEnd_eq_of_trim_eq trimmed
  -- Each slot is split off what the one before it leaves.
  obtain ⟨priority, afterPriority, rfl, flush, noPriority⟩ := exists_written Priority.token flush
  obtain ⟨kind, afterKind, rfl, flush, noKind⟩ := exists_written Kind.token flush
  obtain ⟨context, message, rfl, flush, noContext⟩ := exists_written Context.token flush
  have tail : message <:+ written Priority.token priority ++
      (written Kind.token kind ++ (written Context.token context ++ message)) :=
    ((List.suffix_append _ message).trans (List.suffix_append _ _)).trans (List.suffix_append _ _)
  refine ⟨⟨priority, kind, context, message, ?_, ?_, ?_, noContext⟩, rfl⟩
  · rw [trim, flush, trimEnd_eq_of_suffix tail ending]
  · -- Where the later slots are empty, the message comes right after the earlier ones.
    rintro rfl rfl rfl
    exact noPriority rfl
  · rintro rfl rfl
    exact noKind rfl

end Reading

/-- Blanks at the end of a text are no matter for its slots. -/
theorem takeSlots_trimEnd (text : List Char) :
    takeSlots (trimEnd text) = ((takeSlots text).1, trimEnd (takeSlots text).2) := by
  -- Each slot is read off the head, which trimming the end leaves alone.
  simp only [takeSlots, takeSlot_trimEnd Priority.legible, takeSlot_trimEnd Kind.legible,
    takeKey_trimEnd Context.legible]

/-- A closer at the end of a reading's text is one at the end of its message. -/
theorem Reading.endsInCloser_text {reading : Reading} (ends : EndsInCloser (trimEnd reading.text)) :
    EndsInCloser reading.message := by
  -- Whatever is kept of the slots has no character of a closer.
  have whole : reading.text = written Priority.token reading.priority ++
      written Kind.token reading.kind ++ written Context.token reading.context ++
        reading.message := by
    simp only [text, afterPriority, afterKind, List.append_assoc]
  obtain ⟨kept, head, trimmed⟩ := exists_trimEnd_append reading.trimmed
    (written Priority.token reading.priority ++ written Kind.token reading.kind ++
      written Context.token reading.context)
  rw [whole, trimmed] at ends
  refine endsInCloser_of_append (fun c member => ?_) ends
  rcases List.mem_append.1 (head.subset member) with earlier | context
  · rcases List.mem_append.1 earlier with priority | kind
    · exact foreign_written Priority.legible c priority
    · exact foreign_written Kind.legible c kind
  · exact foreign_written Context.legible c context

/-- A text whose message ends in no closer loses nothing but blanks. -/
theorem Reading.stripCloser_text {reading : Reading} (plain : ¬ EndsInCloser reading.message) :
    stripCloser reading.text = trimEnd reading.text := by
  -- Nothing but the message could end in a closer.
  have flush : trimStart reading.text = reading.text :=
    trimStart_written Priority.legible reading.trimStart_afterPriority
  rcases stripCloser_cases reading.text with ⟨same, _⟩ | ⟨shorter, closer, known, whole, _⟩
  · rw [same, trim, flush]
  · -- A closer at the end of the text would be one at the end of the message.
    rw [trim, flush] at whole
    exact absurd (endsInCloser_text ⟨closer, known, shorter, whole.symm⟩) plain

/-- The fields that a reading gives: its keys and its message. -/
structure Reading.Gives (reading : Reading) (fields : MarkerFields) : Prop where
  /-- The priority is the key of the first slot. -/
  priority : fields.priority = reading.priority.map Filled.key
  /-- The kind is the key of the second slot. -/
  kind : fields.kind = reading.kind.map Filled.key
  /-- The context is the key of the third slot. -/
  context : fields.context = reading.context.map Filled.key
  /-- The message is what the slots leave. -/
  rawText : fields.rawText = String.ofList reading.message

end Marker

namespace Grammar

open Marker

/-- A text whose slots and message are those of a reading has the fields that the reading gives. -/
theorem gives_of_takeSlots {grammar : Grammar} {remainder message : List Char} {reading : Reading}
    (read : takeSlots (stripCloser remainder) = (reading.slots, message))
    (trimmed : trim message = reading.message) :
    reading.Gives (grammar.extractFields remainder) := by
  -- The slots and the message are the four fields that a reading gives.
  have fields : grammar.extractFields remainder =
      { text := String.ofList (stripCloser remainder)
        rawText := String.ofList (trim message)
        priority := reading.slots.priority
        kind := reading.slots.kind
        context := reading.slots.context
        assignee := blockText? grammar.assigneeNames (stripCloser remainder)
        author := blockText? grammar.authorNames (stripCloser remainder) } := by
    rw [extractFields, read]
  rw [fields, trimmed]
  exact ⟨rfl, rfl, rfl, rfl⟩

/-- The slots and the message of a text make up the only way to read it.

However the slots are written, with any blanks behind their tokens, and whatever message without a
comment closer follows, under every grammar the fields are the ones that were written. Conversely
the text of some fields, blanks and a comment closer apart, has one reading, which the fields give
back: no character of it is lost but those of the tokens at its head and the blanks behind them. -/
theorem extractFields_reading (grammar : Grammar) :
    (∀ reading : Reading, ¬ EndsInCloser reading.message →
      reading.Gives (grammar.extractFields reading.text)) ∧
    ∀ remainder, ∃ reading : Reading,
      reading.text = (grammar.extractFields remainder).text.toList ∧
      reading.Gives (grammar.extractFields remainder) ∧
      ∀ other : Reading, other.text = reading.text → other = reading := by
  -- Writing and reading are inverse, up to what is trimmed at the end.
  constructor
  · intro reading plain
    obtain ⟨blanks, blank, slots⟩ := reading.takeSlots_text
    -- The blanks that are trimmed at the end belong neither to a key nor to the message.
    have read : takeSlots (stripCloser reading.text) =
        (reading.slots, trimEnd (blanks ++ reading.message)) := by
      rw [Reading.stripCloser_text plain, takeSlots_trimEnd, slots]
    refine gives_of_takeSlots read ?_
    rw [trim_trimEnd, trim_blanks_append blank, reading.trimmed]
  · intro remainder
    -- What is left without the closer is trimmed, so it has a reading.
    obtain ⟨reading, whole⟩ := Reading.exists_text_eq (trim_stripCloser remainder)
    obtain ⟨blanks, blank, slots⟩ := reading.takeSlots_text
    refine ⟨reading, ?_, ?_, fun other same => Reading.text_injective same⟩
    · rw [whole]
      exact String.toList_ofList.symm
    · rw [whole] at slots
      refine gives_of_takeSlots slots ?_
      rw [trim_blanks_append blank, reading.trimmed]

/-- A priority and a context around an empty kind slot are read off, but no second priority is. -/
theorem extractFields_reading_skipped_kind :
    let reading : Reading :=
  -- The message ends in no closer, so the law applies as it stands.
      { priority := some ⟨.high, ['\t'], List.all_eq_true.1 (by decide)⟩
        kind := none
        context := some ⟨.doc, [], List.forall_mem_nil _⟩
        message := "[high] x".toList
        trimmed := by decide
        noPriority := fun absent => by contradiction
        noKind := fun _ absent => by contradiction
        noContext := fun absent => by contradiction }
    reading.text = "[high]\t[doc][high] x".toList ∧
      reading.Gives (standard.extractFields reading.text) := by
  intro reading
  exact ⟨by decide, (extractFields_reading standard).1 reading (by decide)⟩

end Grammar

end TodoMarkers
