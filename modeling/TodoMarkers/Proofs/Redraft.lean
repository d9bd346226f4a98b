import TodoMarkers.Proofs.Insertion

/-! A marker line rebuilt from the fields of a marker: it has the same fields, and it stays the same
when it is rebuilt again. -/

namespace TodoMarkers

open Text

namespace Marker

variable {text message : List Char} {slots : Slots}

/-- The slots leave the end of a text. -/
theorem takeSlots_suffix (read : takeSlots text = (slots, message)) : message <:+ text := by
  -- The slots and the blanks between them stand before the message.
  obtain ⟨first, second, third, whole, _⟩ := takeSlots_split read
  exact ⟨first ++ second ++ third, whole.symm⟩

/-- What the slots of a trimmed text leave has blanks at its start alone. -/
theorem trim_message (trimmed : trim text = text) (read : takeSlots text = (slots, message)) :
    trim message = trimStart message := by
  -- The message reaches to the end of a text that has no blank there.
  have ending : trimStart message <:+ text :=
    (List.dropWhile_suffix isBlank).trans (takeSlots_suffix read)
  exact trimEnd_eq_of_suffix ending (trimEnd_eq_of_trim_eq trimmed)

end Marker

namespace Grammar

variable (grammar : Grammar)

/-- The message of some fields is what the slots leave, without blanks around it. -/
theorem toList_rawText {remainder message : List Char} {slots : Marker.Slots}
    (read : Marker.takeSlots (Marker.stripCloser remainder) = (slots, message)) :
    (grammar.extractFields remainder).rawText.toList = trim message := by
  -- The field is made from these very characters.
  simp only [extractFields, read, String.toList_ofList]

/-- The message of some fields is trimmed. -/
theorem trim_rawText (remainder : List Char) :
    trim (grammar.extractFields remainder).rawText.toList =
      (grammar.extractFields remainder).rawText.toList := by
  -- The field is a trimmed text, and trimming twice is trimming once.
  cases read : Marker.takeSlots (Marker.stripCloser remainder) with
  | mk slots message => rw [toList_rawText grammar read, trim_trim]

/-- The message of some fields is on one line if what they are read from is. -/
theorem newline_not_mem_rawText {remainder : List Char}
    (free : '\n' ∉ Marker.stripCloser remainder) :
    '\n' ∉ (grammar.extractFields remainder).rawText.toList := by
  -- The message is a part of the text it is read from.
  cases read : Marker.takeSlots (Marker.stripCloser remainder) with
  | mk slots message =>
    rw [toList_rawText grammar read]
    exact fun member => free ((Marker.takeSlots_suffix read).mem (mem_of_mem_trim member))

/-- The people of some fields are those whom the message names, if no name of a block holds a
closing bracket. -/
theorem blockText?_rawText {names : List String} (free : ∀ name ∈ names, ']' ∉ name.toList)
    (remainder : List Char) :
    Marker.blockText? names (Marker.stripCloser remainder) =
      Marker.blockText? names (grammar.extractFields remainder).rawText.toList := by
  -- The slots and the blanks behind them can hold no block's name, so the search may skip them.
  cases read : Marker.takeSlots (Marker.stripCloser remainder) with
  | mk slots message =>
    have flush := Marker.trim_message (Marker.trim_stripCloser remainder) read
    rw [toList_rawText grammar read, flush, Marker.blockText?, Marker.blockText?,
      Marker.firstBlock?_trimStart, Marker.firstBlock?_takeSlots free read]

/-- The assignee is the one whom the message names. -/
theorem assignee_eq {grammar : Grammar} (free : ∀ name ∈ grammar.assigneeNames, ']' ∉ name.toList)
    (remainder : List Char) :
    (grammar.extractFields remainder).assignee = Marker.blockText? grammar.assigneeNames
      (grammar.extractFields remainder).rawText.toList :=
  -- Assignee and author are the one search under two lists of names.
  grammar.blockText?_rawText free remainder

/-- The author is the one whom the message names. -/
theorem author_eq {grammar : Grammar} (free : ∀ name ∈ grammar.authorNames, ']' ∉ name.toList)
    (remainder : List Char) :
    (grammar.extractFields remainder).author = Marker.blockText? grammar.authorNames
      (grammar.extractFields remainder).rawText.toList :=
  -- It is the same search as for the assignee, under the author's names.
  grammar.blockText?_rawText free remainder

/-- The names of a block hold no closing bracket if the glyph of its key holds none. -/
theorem bracket_not_mem_blockNames {vocabulary : Vocabulary} {key : Metadata}
    (free : ']' ∉ (vocabulary.glyph (.metadata key)).toList) :
    ∀ name ∈ blockNames vocabulary key, ']' ∉ name.toList := by
  -- A name is the slug, the default glyph or the glyph in force, and the first two are fixed.
  have slug : ']' ∉ key.slug.toList := fun member =>
    absurd ((Key.metadata key).slug_plain _ member).2 (by decide)
  have default : ']' ∉ key.defaultGlyph.toList := by cases key <;> decide
  intro name listed
  unfold blockNames at listed
  dsimp only at listed
  split at listed
  · simp only [List.append_nil, List.mem_cons, List.not_mem_nil, or_false] at listed
    rcases listed with rfl | rfl
    · exact slug
    · exact default
  · simp only [List.cons_append, List.nil_append, List.mem_cons, List.not_mem_nil, or_false]
      at listed
    rcases listed with rfl | rfl | rfl
    · exact slug
    · exact default
    · exact free

end Grammar

namespace MarkerDraft

/-- The draft of a marker line from the fields of a marker, absent when a slot is empty.

The message is all that the slots leave, so blocks that were read are part of it. -/
def ofFields? (language : String) (fields : MarkerFields) : Option MarkerDraft :=
  match fields.priority, fields.kind, fields.context with
  | some priority, some kind, some context =>
    some ⟨commentOpener language, priority, kind, context, fields.rawText, []⟩
  | _, _, _ => none

/-- A draft from fields has their keys and their message, and no blocks. -/
theorem ofFields?_eq_some_iff {language : String} {fields : MarkerFields} {draft : MarkerDraft} :
    ofFields? language fields = some draft ↔
      fields.priority = some draft.priority ∧ fields.kind = some draft.kind ∧
        fields.context = some draft.context ∧ draft.opener = commentOpener language ∧
        draft.message = fields.rawText ∧ draft.blocks = [] := by
  -- A draft needs all three slots, and they determine it.
  constructor
  · intro drafted
    unfold ofFields? at drafted
    split at drafted
    · rename_i priority kind context
      obtain rfl := Option.some.inj drafted
      exact ⟨priority, kind, context, rfl, rfl, rfl⟩
    · contradiction
  · rintro ⟨priority, kind, context, opened, message, blocks⟩
    simp only [ofFields?, priority, kind, context, ← opened, ← message, ← blocks]

/-- The message of a marker is on one line, whatever text the marker stands in. -/
theorem newline_not_mem_of_parseLine? {grammar : Grammar} {line : List Char}
    {fields : MarkerFields} (parsed : grammar.parseLine? line = some fields) :
    '\n' ∉ fields.rawText.toList := by
  -- The message is cut out of the content, and the content ends where its line does.
  obtain ⟨content, found, some_, same⟩ := Grammar.parseLine?_eq_some_iff.1 parsed
  have solid : StartsSolid content :=
    (Marker.firstContent?_start found).resolve_left fun blank =>
      some_ (trim_eq_nil_iff.2 blank)
  have head := Marker.stripCloser_stripCloser_prefix_content solid
  rw [same]
  -- It is a part of the content, which ends with its line.
  exact grammar.newline_not_mem_rawText fun member =>
    Marker.newline_not_mem_content found some_ (head.mem member)

/-- A line that is rebuilt from fields is read back with their keys and their message. -/
theorem exists_remainder_of_ofFields? {grammar : Grammar} {line : List Char}
    {fields : MarkerFields} {language : String} {draft : MarkerDraft}
    (parsed : grammar.parseLine? line = some fields)
    (plain : ¬ Marker.EndsInCloser fields.rawText.toList)
    (drafted : ofFields? language fields = some draft) :
    ∃ remainder, grammar.parseLine? draft.render.toList = some (grammar.extractFields remainder) ∧
      (grammar.extractFields remainder).priority = fields.priority ∧
      (grammar.extractFields remainder).kind = fields.kind ∧
      (grammar.extractFields remainder).context = fields.context ∧
      (grammar.extractFields remainder).rawText = fields.rawText := by
  -- The rebuilt line has no blocks, so its message is read back by the general law of drafts.
  obtain ⟨priority, kind, context, opened, message, blocks⟩ := ofFields?_eq_some_iff.1 drafted
  have free : '\n' ∉ draft.body := by
    refine newline_not_mem_body ?_ (by simp [blocks])
    rw [message]
    exact newline_not_mem_of_parseLine? parsed
  -- The message is trimmed already, so it reads as it stands.
  have trimmed : trim fields.rawText.toList = fields.rawText.toList := by
    obtain ⟨_, _, _, same⟩ := Grammar.parseLine?_eq_some_iff.1 parsed
    rw [same, Grammar.trim_rawText]
  obtain ⟨kept, read, _⟩ := Marker.stripCloser_stripCloser_append
    draft.slots_startsSolid draft.getLast?_slots (' ' :: draft.body)
  have again := extractFields_slots read grammar
  refine ⟨_, parseLine?_eq_extractFields opened free grammar, ?_, ?_, ?_, ?_⟩
  · rw [again, priority]
  · rw [again, kind]
  · rw [again, context]
  · rw [rawText_extractFields (.inr (by rwa [message, trimmed])), body_of_no_blocks blocks, message,
      trim_trim, trimmed, String.ofList_toList]

/-- A line that is rebuilt from the fields of a marker has the same fields, text apart, and the line
rebuilt from those is the same.

All three slots are filled, no comment closer ends the message, and the glyphs that name blocks hold
no closing bracket. The marker may stand on any line of any text. -/
theorem parseLine?_ofFields? {vocabulary : Vocabulary} {line : List Char} {fields : MarkerFields}
    {language : String} {draft : MarkerDraft}
    (assignee : ']' ∉ (vocabulary.glyph (.metadata .assignee)).toList)
    (author : ']' ∉ (vocabulary.glyph (.metadata .author)).toList)
    (parsed : (Grammar.ofVocabulary vocabulary).parseLine? line = some fields)
    (plain : ¬ Marker.EndsInCloser fields.rawText.toList)
    (drafted : ofFields? language fields = some draft) :
    ∃ again, (Grammar.ofVocabulary vocabulary).parseLine? draft.render.toList = some again ∧
      again.priority = fields.priority ∧ again.kind = fields.kind ∧
      again.context = fields.context ∧ again.rawText = fields.rawText ∧
      again.assignee = fields.assignee ∧ again.author = fields.author ∧
      ofFields? language again = some draft := by
  -- Both markers have one message, and what no slot holds is read off it.
  obtain ⟨remainder, again, priority, kind, context, rawText⟩ :=
    exists_remainder_of_ofFields? parsed plain drafted
  obtain ⟨content, _, _, same⟩ := Grammar.parseLine?_eq_some_iff.1 parsed
  -- The people of both markers are those whom one and the same message names.
  refine ⟨_, again, priority, kind, context, rawText, ?_, ?_, ?_⟩
  · rw [Grammar.assignee_eq (Grammar.bracket_not_mem_blockNames assignee), rawText, same,
      Grammar.assignee_eq (Grammar.bracket_not_mem_blockNames assignee)]
  · rw [Grammar.author_eq (Grammar.bracket_not_mem_blockNames author), rawText, same,
      Grammar.author_eq (Grammar.bracket_not_mem_blockNames author)]
  · rw [ofFields?_eq_some_iff, priority, kind, context, rawText]
    exact ofFields?_eq_some_iff.1 drafted

/-- A second priority, a bracket in a name and a keyword on another line stay what they are. -/
theorem parseLine?_ofFields?_css :
    let table := GlyphTable.ofEntries [("assignee", "[who")]
    let grammar := Grammar.ofVocabulary (.ofOverrides { metadata := table })
    let line := "x\n/* todo\n [low]\t[fix][doc][high] [[who: Zoe] TODO] */".toList
    ∃ fields, grammar.parseLine? line = some fields ∧ ∃ draft, ofFields? "css" fields = some draft ∧
      draft.render = "/* TODO: [low] [fix] [doc] [high] [[who: Zoe] TODO]" ∧
      ∃ again, grammar.parseLine? draft.render.toList = some again ∧
        again.rawText = "[high] [[who: Zoe] TODO]" ∧ again.assignee = some "Zoe" ∧
        ofFields? "css" again = some draft := by
  -- The marker is read and redrafted by evaluation, and the law says how the draft reads.
  intro table grammar line
  let fields : MarkerFields := ⟨"[low]\t[fix][doc][high] [[who: Zoe] TODO]",
    "[high] [[who: Zoe] TODO]", some .low, some .fix, some .doc, some "Zoe", none⟩
  let draft : MarkerDraft := ⟨"/*", .low, .fix, .doc, "[high] [[who: Zoe] TODO]", []⟩
  have parsed : grammar.parseLine? line = some fields := by decide +kernel
  have drafted : ofFields? "css" fields = some draft := by decide
  obtain ⟨again, read, _, _, _, rawText, assignee, _, rebuilt⟩ :=
    parseLine?_ofFields? (by decide) (by decide) parsed (by decide) drafted
  exact ⟨fields, parsed, draft, drafted, by decide, again, read, rawText, assignee, rebuilt⟩

end MarkerDraft

end TodoMarkers
