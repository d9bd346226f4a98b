import TodoMarkers.Insertion
import TodoMarkers.Proofs.Marker.Blocks
import TodoMarkers.Proofs.Marker.Slots
import TodoMarkers.Proofs.Record

/-! Marker lines read back: their slots, their message and blocks, and the people they name. -/

namespace TodoMarkers

open Text

/-- No token holds a blank. -/
theorem Key.token_solid (key : Key) : ∀ c ∈ key.token.toList, isBlank c = false := by
  -- There are finitely many keys, and the table of their tokens is checked whole.
  have table : ∀ key ∈ Key.all, key.token.toList.all (!isBlank ·) = true := by decide
  intro c member
  simpa using List.all_eq_true.1 (table key key.mem_all) c member

/-- No comment opener holds the first letter of a keyword. -/
theorem commentOpener_toLower_ne (language : String) :
    ∀ c ∈ (commentOpener language).toList, c.toLower ≠ 't' := by
  -- Each opener a language can pick is a closed text without letters.
  have openers : (commentOpener language).toList.all (·.toLower != 't') = true := by
    unfold commentOpener
    split_ifs <;> decide
  intro c member
  simpa using List.all_eq_true.1 openers c member

/-- A comment opener is on one line. -/
theorem newline_not_mem_commentOpener (language : String) :
    '\n' ∉ (commentOpener language).toList := by
  -- Every branch of the choice is a closed text.
  unfold commentOpener
  split_ifs <;> decide

namespace MarkerDraft

/-- The tokens of the three slots, with one space between them. -/
def slots (draft : MarkerDraft) : List Char :=
  draft.priority.token.toList ++
    ' ' :: (draft.kind.token.toList ++ ' ' :: draft.context.token.toList)

/-- The trimmed message and the blocks, each after one space. -/
def body (draft : MarkerDraft) : List Char :=
  trim draft.message.toList ++ draft.blocks.flatMap fun block => ' ' :: block.render.toList

/-- The characters of a marker line. -/
theorem toList_render (draft : MarkerDraft) :
    draft.render.toList = (draft.opener.toList ++ [' ']) ++
      ("TODO:".toList ++ ([' '] ++ (draft.slots ++ ' ' :: draft.body))) := by
  -- Each block is added behind whatever the line is so far.
  have append (line : String) : (draft.blocks.foldl
      (fun line block => line ++ " " ++ block.render) line).toList =
        line.toList ++ draft.blocks.flatMap fun block => ' ' :: block.render.toList := by
    induction draft.blocks generalizing line with
    | nil => simp
    | cons block rest ih => simp [ih]
  rw [render, append]
  simp [slots, body, trimmed]

/-- The slots start with no blank. -/
theorem slots_startsSolid (draft : MarkerDraft) : StartsSolid draft.slots :=
  -- The first slot is written first, and a token starts with its bracket.
  (Key.mark_startsSolid (.priority draft.priority)).append _

/-- The slots end in a bracket. -/
theorem getLast?_slots (draft : MarkerDraft) : draft.slots.getLast? = some ']' := by
  -- The context is written last, and its token ends in a bracket.
  have closed : draft.slots = (draft.priority.token.toList ++ ' ' :: (draft.kind.token.toList ++
      ' ' :: '[' :: draft.context.slug.toList)) ++ [']'] := by
    simp [slots, Context.token, toList_bracketed]
  rw [closed, List.getLast?_concat]

/-- The slots are on one line. -/
theorem newline_not_mem_slots (draft : MarkerDraft) : '\n' ∉ draft.slots := by
  -- A line break is a blank, and the tokens between the single spaces hold none.
  have free (key : Key) : '\n' ∉ key.token.toList := fun member =>
    ne_newline_of_not_blank (key.token_solid _ member) rfl
  have tokens : '\n' ∉ draft.priority.token.toList ∧ '\n' ∉ draft.kind.token.toList ∧
      '\n' ∉ draft.context.token.toList :=
    ⟨free (.priority draft.priority), free (.kind draft.kind), free (.context draft.context)⟩
  simp [slots, tokens]

/-- The slots are read off whatever follows them. -/
theorem takeSlots_slots (draft : MarkerDraft) (rest : List Char) :
    Marker.takeSlots (draft.slots ++ rest) =
      (⟨some draft.priority, some draft.kind, some draft.context⟩, rest) := by
  -- Behind the space after each token the next one starts.
  have kindStarts : StartsSolid
      (draft.kind.token.toList ++ ' ' :: (draft.context.token.toList ++ rest)) :=
    (Key.mark_startsSolid (.kind draft.kind)).append _
  have contextStarts : StartsSolid (draft.context.token.toList ++ rest) :=
    (Key.mark_startsSolid (.context draft.context)).append _
  have priority := Marker.takeSlot_token Priority.legible.apart
    (Priority.legible.listed draft.priority) kindStarts
  have kind := Marker.takeSlot_token Kind.legible.apart
    (Kind.legible.listed draft.kind) contextStarts
  have context := Marker.takeKey_token Context.legible.apart
    (Context.legible.listed draft.context) rest
  simp only [slots, Marker.takeSlots, List.append_assoc, List.cons_append, priority, kind, context]

/-- The content of a marker line's first marker is what was written behind the keyword. -/
theorem firstContent?_render {draft : MarkerDraft} {language : String}
    (opened : draft.opener = commentOpener language) (free : '\n' ∉ draft.body) :
    Marker.firstContent? draft.render.toList = some (draft.slots ++ ' ' :: draft.body) := by
  -- Nothing before the keyword can start another one, so the first marker is the one written.
  have opener : ∀ c ∈ draft.opener.toList ++ [' '], c.toLower ≠ 't' := by
    intro c member
    rcases List.mem_append.1 member with inside | space
    · exact commentOpener_toLower_ne language c (opened ▸ inside)
    · obtain rfl := List.mem_singleton.1 space
      decide
  have line : '\n' ∉ draft.slots ++ ' ' :: draft.body := by
    simp [draft.newline_not_mem_slots, free]
  -- Behind the opener the keyword is split off with its colon, and the slots are its body.
  obtain ⟨c, rest, starts, solid⟩ := draft.slots_startsSolid.append (' ' :: draft.body)
  rw [toList_render, Marker.firstContent?_append opener]
  rw [starts] at line ⊢
  have blank : ∀ b ∈ [' '], isBlank b = true := List.forall_mem_singleton.2 (by decide)
  refine Marker.firstContent?_body ?_ line blank (by decide) solid
  refine Marker.splitKeyword?_eq_some_iff.2 ⟨rfl, ?_, .inl rfl⟩
  exact ⟨"TODO".toList, [':'], rfl, rfl, .inr rfl⟩

/-- The fields of a marker line are read from what was written behind the keyword. -/
theorem parseLine?_eq_extractFields {draft : MarkerDraft} {language : String}
    (opened : draft.opener = commentOpener language) (free : '\n' ∉ draft.body)
    (grammar : Grammar) :
    grammar.parseLine? draft.render.toList = some
      (grammar.extractFields (Marker.stripCloser (trim (draft.slots ++ ' ' :: draft.body)))) := by
  -- The content is known, and it is not blank, so recognition is not withdrawn.
  have starts := draft.slots_startsSolid
  have content := firstContent?_render opened free
  -- The slots stand at the head of the content, so something is left of it.
  have some_ : trim (draft.slots ++ ' ' :: draft.body) ≠ [] := by
    rw [trim_append starts (Marker.endsSolid_of_bracket draft.getLast?_slots)]
    obtain ⟨c, rest, slots, _⟩ := starts
    simp [slots]
  exact Grammar.parseLine?_eq_some_iff.2 ⟨_, content, some_, rfl⟩

/-- A draft's message and blocks are on one line if each of them is. -/
theorem newline_not_mem_body {draft : MarkerDraft} (message : '\n' ∉ draft.message.toList)
    (blocks : ∀ block ∈ draft.blocks, '\n' ∉ block.render.toList) : '\n' ∉ draft.body := by
  -- A line break would be in the message, in the space before a block or in a block.
  intro member
  rcases List.mem_append.1 member with inside | inside
  · exact message (mem_of_mem_trim inside)
  · obtain ⟨block, listed, written⟩ := List.mem_flatMap.1 inside
    rcases List.mem_cons.1 written with space | within
    · contradiction
    · exact blocks block listed within

/-- Without blocks the message is all that follows the slots. -/
theorem body_of_no_blocks {draft : MarkerDraft} (none : draft.blocks = []) :
    draft.body = trim draft.message.toList := by
  -- The blocks render to nothing.
  simp [body, none]

/-- With a block the line ends in a bracket. -/
theorem getLast?_body {draft : MarkerDraft} (some_ : draft.blocks ≠ []) :
    (' ' :: draft.body).getLast? = some ']' := by
  -- The last block ends the line.
  obtain ⟨earlier, last, blocks⟩ := List.eq_nil_or_concat draft.blocks |>.resolve_left some_
  have written : last.render.toList ≠ [] := fun empty => by
    have bracket := last.getLast?_render
    simp [empty] at bracket
  rw [body, blocks, List.concat_eq_append, List.flatMap_append, ← List.append_assoc,
    List.flatMap_singleton, List.append_cons, ← List.cons_append,
    List.getLast?_append_of_ne_nil _ written]
  exact last.getLast?_render

/-- With a block there is nothing to trim at the end of the line. -/
theorem trimEnd_body {draft : MarkerDraft} (some_ : draft.blocks ≠ []) :
    trimEnd (' ' :: draft.body) = ' ' :: draft.body :=
  -- The last block's bracket is solid.
  (Marker.endsSolid_of_bracket (getLast?_body some_)).trimEnd_eq

/-- A line ends in no comment closer if it has a block, or if its message ends in none. -/
theorem not_endsInCloser_body {draft : MarkerDraft}
    (plain : draft.blocks ≠ [] ∨ ¬ Marker.EndsInCloser (trim draft.message.toList)) :
    ¬ Marker.EndsInCloser (trimEnd (' ' :: draft.body)) := by
  -- Without blocks the message ends the line, and otherwise a bracket does.
  by_cases none : draft.blocks = []
  · refine Marker.not_endsInCloser_trimEnd ?_
    rw [body_of_no_blocks none, trim_cons_blank (by decide), trim_trim]
    exact plain.resolve_left (not_not_intro none)
  · rw [trimEnd_body none]
    exact Marker.not_endsInCloser_of_bracket (getLast?_body none)

/-- Whoever is named by a line's blocks is read off what is kept of the line. -/
theorem blockText?_slots {names : List String} {key : Metadata} {draft : MarkerDraft}
    {kept : List Char} (named : Marker.NamesOnly names key) (takes : key.takesValue = true)
    (message : '[' ∉ draft.message.toList)
    (values : ∀ block ∈ draft.blocks, '[' ∉ block.value.toList ∧ ']' ∉ block.value.toList)
    (head : kept <+: ' ' :: draft.body)
    (whole : draft.blocks ≠ [] → kept = ' ' :: draft.body) :
    Marker.blockText? names (draft.slots ++ kept) = draft.blocks.findSome? (·.valueOf? key) := by
  -- No bracket stands before the blocks, so the search for a name starts at the first of them.
  refine Marker.blockText?_of_firstBlock? ?_
  have free : '[' ∉ ' ' :: trim draft.message.toList := by
    simpa using fun member => message (mem_of_mem_trim member)
  rw [Marker.firstBlock?_takeSlots named.bracketFree (draft.takeSlots_slots kept)]
  by_cases none : draft.blocks = []
  · -- What is kept of the message holds no bracket.
    rw [body_of_no_blocks none] at head
    rw [none, Marker.firstBlock?_eq_none fun member => free (head.subset member)]
    rfl
  · rw [whole none, body, ← List.cons_append, Marker.firstBlock?_append free,
      Marker.firstBlock?_blocks named takes values]

/-- The fields of what is kept of a line. -/
theorem extractFields_slots {draft : MarkerDraft} {remainder kept : List Char}
    (read : Marker.stripCloser remainder = draft.slots ++ kept) (grammar : Grammar) :
    grammar.extractFields remainder =
      { text := String.ofList (draft.slots ++ kept)
        rawText := String.ofList (trim kept)
        priority := some draft.priority
        kind := some draft.kind
        context := some draft.context
        assignee := Marker.blockText? grammar.assigneeNames (draft.slots ++ kept)
        author := Marker.blockText? grammar.authorNames (draft.slots ++ kept) } := by
  -- What is read behind the slots is all that the remaining fields depend on.
  simp only [Grammar.extractFields, read, takeSlots_slots]

/-- The message of a line's fields is that of the draft with its blocks, if a block follows it or no
comment closer ends it. -/
theorem rawText_extractFields {draft : MarkerDraft}
    (plain : draft.blocks ≠ [] ∨ ¬ Marker.EndsInCloser (trim draft.message.toList))
    (grammar : Grammar) :
    (grammar.extractFields (Marker.stripCloser (trim (draft.slots ++ ' ' :: draft.body)))).rawText =
      String.ofList (trim draft.body) := by
  -- Without a closer at its end the line loses only blanks to the two strips.
  obtain ⟨kept, read, _, whole⟩ := Marker.stripCloser_stripCloser_append
    draft.slots_startsSolid draft.getLast?_slots (' ' :: draft.body)
  have blank : isBlank ' ' = true := by decide
  -- Only blanks are lost, and those around the message do not count.
  rw [extractFields_slots read, whole (not_endsInCloser_body plain), trim_trimEnd,
    trim_cons_blank blank]

end MarkerDraft

/-- Without overrides an assignee block is read under no other block's name. -/
theorem Grammar.standard_assigneeNames : Marker.NamesOnly standard.assigneeNames .assignee where
  -- Both names are fixed texts without overrides, so the table of the other keys is checked whole.
  slug := by decide
  others other := by cases other <;> decide
  solid := Marker.solid_of_all (by decide)

/-- Without overrides an author block is read under no other block's name. -/
theorem Grammar.standard_authorNames : Marker.NamesOnly standard.authorNames .author where
  -- The check is the one for the assignee, with the author's two names.
  slug := by decide
  others other := by cases other <;> decide
  solid := Marker.solid_of_all (by decide)

/-- A marker line is read back as it was put together.

On one line, under every grammar, the slots give back the chosen keys. The message reads as it was
written, with its blocks and without blanks around it, if a block follows it or no comment closer
ends it. Without overrides, and if no brackets are written in the message or in a value, the first
block of each sort that has a value says who the assignee and the author are. -/
theorem MarkerDraft.parseLine?_render (grammar : Grammar) (language : String) (draft : MarkerDraft)
    (opened : draft.opener = commentOpener language) (message : '\n' ∉ draft.message.toList)
    (blocks : ∀ block ∈ draft.blocks, '\n' ∉ block.render.toList) :
    ∃ fields, grammar.parseLine? draft.render.toList = some fields ∧
      fields.priority = some draft.priority ∧ fields.kind = some draft.kind ∧
      fields.context = some draft.context ∧
      (draft.blocks ≠ [] ∨ ¬ Marker.EndsInCloser (trim draft.message.toList) →
        fields.rawText = String.ofList (trim draft.body)) ∧
      (grammar = .standard → '[' ∉ draft.message.toList →
        (∀ block ∈ draft.blocks, '[' ∉ block.value.toList ∧ ']' ∉ block.value.toList) →
        fields.assignee = draft.blocks.findSome? (·.valueOf? .assignee) ∧
          fields.author = draft.blocks.findSome? (·.valueOf? .author)) := by
  -- What is kept behind the slots is known, and each field is read off it.
  obtain ⟨kept, read, head, whole⟩ := Marker.stripCloser_stripCloser_append
    draft.slots_startsSolid draft.getLast?_slots (' ' :: draft.body)
  have fields := extractFields_slots read grammar
  refine ⟨_, parseLine?_eq_extractFields opened (newline_not_mem_body message blocks) grammar,
    ?_, ?_, ?_, fun plain => rawText_extractFields plain grammar, ?_⟩
  · rw [fields]
  · rw [fields]
  · rw [fields]
  · rintro rfl bracketFree values
    rw [fields]
    -- With a block even the blanks stay, because a bracket ends the line.
    have lossless (some_ : draft.blocks ≠ []) : kept = ' ' :: draft.body := by
      rw [whole (not_endsInCloser_body (.inl some_)), trimEnd_body some_]
    exact ⟨blockText?_slots Grammar.standard_assigneeNames rfl bracketFree values head lossless,
      blockText?_slots Grammar.standard_authorNames rfl bracketFree values head lossless⟩

/-- A message that ends in a comment closer is kept whole before blocks, the first of them blank. -/
theorem MarkerDraft.parseLine?_render_blank_block :
    let blocks : List MetadataBlock := [⟨.assignee, " "⟩, ⟨.author, "Bob"⟩, ⟨.assignee, " Ann"⟩]
    let draft : MarkerDraft := ⟨commentOpener "css", .low, .fix, .doc, "todo */", blocks⟩
    ∃ fields, Grammar.standard.parseLine? draft.render.toList = some fields ∧
      fields.rawText = "todo */ [assignee: ] [author: Bob] [assignee: Ann]" ∧
      fields.assignee = some "Ann" ∧ fields.author = some "Bob" := by
  -- The blank block gives no assignee, so the later one with a value does.
  intro blocks draft
  obtain ⟨fields, parsed, _, _, _, rawText, people⟩ :=
    parseLine?_render .standard "css" draft rfl (by decide) (by decide)
  obtain ⟨assignee, author⟩ := people rfl (by decide) (by decide)
  refine ⟨fields, parsed, ?_, ?_, ?_⟩
  · rw [rawText (.inl (by decide))]
    decide
  · rw [assignee]
    decide
  · rw [author]
    decide

end TodoMarkers
