import TodoMarkers.Proofs.Insertion
import TodoMarkers.Proofs.Ticket.Links

/-! The links of a marker line that was put together: one for each of its ticket blocks whose value
is an identifier, and none elsewhere. -/

namespace TodoMarkers

open Text

namespace Text

/-- A text without leading blanks starts with no blank, if no blank follows it. -/
theorem startsSolid_of_trimStart_eq {text : List Char} (trimmed : trimStart text = text) {c : Char}
    (solid : isBlank c = false) (rest : List Char) : StartsSolid (text ++ c :: rest) := by
  -- Without leading blanks the first character is solid, if there is one.
  cases text with
  | nil => exact ⟨c, rest, rfl, solid⟩
  | cons d text =>
    cases blank : isBlank d with
    | false => exact ⟨d, text ++ c :: rest, rfl, blank⟩
    | true =>
      -- A leading blank would have been trimmed away.
      have shorter := (List.dropWhile_suffix (l := text) isBlank).length_le
      rw [trimStart, List.dropWhile_cons_of_pos blank] at trimmed
      rw [trimmed, List.length_cons] at shorter
      exact absurd shorter (Nat.not_succ_le_self _)

end Text

namespace Ticket

/-- Holds of identifiers: some letters, a hyphen, and some digits. -/
def IsId (text : List Char) : Prop :=
  ∃ letters digits, text = letters ++ '-' :: digits ∧
    (∀ c ∈ letters, isFoldedLetter c = true) ∧ letters ≠ [] ∧
    (∀ d ∈ digits, isDecimalDigit d = true) ∧ digits ≠ []

/-- An identifier can be written in a block, behind one space. -/
theorem IsId.exists_written {id : List Char} (isId : IsId id) :
    ∃ written : Written, written.lead = opener ∧ written.blanks = [' '] ∧ written.id = id := by
  -- The opener and the space are those that a marker line is written with.
  obtain ⟨letters, digits, rfl, lettered, named, digital, numbered⟩ := isId
  exact ⟨⟨opener, [' '], letters, digits, by decide, List.all_eq_true.1 (by decide), lettered,
    named, digital, numbered⟩, rfl, rfl, rfl⟩

/-- What a written block is named by is an identifier. -/
theorem Written.isId (written : Written) : IsId written.id :=
  ⟨_, _, rfl, written.lettered, written.named, written.digital, written.numbered⟩

/-- An identifier is read whole before a bracket. -/
theorem splitId?_eq_self_iff {text : List Char} :
    splitId? (text ++ [']']) = some (text, [']']) ↔ IsId text := by
  -- What is read is an identifier, and an identifier is read up to the bracket.
  constructor
  · intro read
    obtain ⟨letters, digits, _, rest⟩ := exists_of_splitId? read
    exact ⟨letters, digits, rest⟩
  · intro isId
    obtain ⟨written, _, _, rfl⟩ := isId.exists_written
    exact splitId?_written written []

instance : DecidablePred IsId :=
  fun _ => decidable_of_iff _ splitId?_eq_self_iff

/-- An identifier starts with no blank, and has no closing bracket. -/
theorem Written.id_plain (written : Written) (rest : List Char) :
    StartsSolid (written.id ++ rest) ∧ ']' ∉ written.id := by
  -- Letters, the hyphen and digits are neither blanks nor brackets.
  constructor
  · obtain ⟨letter, letters, first⟩ := List.exists_cons_of_ne_nil written.named
    refine ⟨letter, letters ++ ('-' :: written.digits ++ rest), ?_,
      isBlank_of_isFoldedLetter (written.lettered letter (by simp [first]))⟩
    rw [Written.id, first]
    simp
  · have letter : ']' ∉ written.letters := fun member =>
      absurd (written.lettered _ member) (by decide)
    have digit : ']' ∉ written.digits := fun member =>
      absurd (written.digital _ member) (by decide)
    simp [Written.id, letter, digit]

/-- No block is read where another key than the ticket's is written behind the bracket. -/
theorem blockAt?_other {key : Key} (other : key ≠ .metadata .ticket) (rest : List Char) :
    blockAt? ('[' :: (key.slug.toList ++ rest)) = none := by
  -- The slugs differ from the ticket's before they end.
  have table : ∀ key ∈ Key.all, key ≠ .metadata .ticket →
      ¬ (('[' :: key.slug.toList).take opener.length).map foldToAscii <+: opener := by
    decide
  refine if_neg fun opens => table key key.mem_all other ?_
  rw [← List.cons_append, List.take_append, List.map_append] at opens
  exact ⟨_, opens⟩

/-- A ticket's block is read exactly if its value is an identifier. -/
theorem blockAt?_ticket {value : List Char} (trimmed : trimStart value = value) (free : ']' ∉ value)
    (rest : List Char) :
    blockAt? (opener ++ ' ' :: (value ++ ']' :: rest)) =
      if IsId value then some ⟨value, opener.length + value.length + 2⟩ else none := by
  -- An identifier makes a written block, and a block that is read gives an identifier.
  split
  · rename_i isId
    obtain ⟨written, lead, blanks, rfl⟩ := isId.exists_written
    have whole := blockAt?_written written rest
    rw [written.text_append, lead, blanks, Written.block, written.length_text, blanks] at whole
    rw [List.singleton_append] at whole
    rw [whole]
    simp [Nat.add_right_comm]
  · rename_i noId
    rw [Option.eq_none_iff_forall_ne_some]
    intro block read
    obtain ⟨written, ⟨more, whole⟩, _⟩ := blockAt?_eq_some_iff.1 read
    obtain ⟨solid, closed⟩ := written.id_plain (']' :: more)
    -- Behind the blanks stands the value, so that it is what the block is named by.
    rw [written.text_append] at whole
    have behind := congrArg trimStart (List.append_inj whole written.length_lead).2
    have starts := startsSolid_of_trimStart_eq trimmed (c := ']') (by decide) rest
    have blanks : trimStart (written.blanks ++ (written.id ++ ']' :: more)) =
        written.id ++ ']' :: more :=
      (List.dropWhile_append_of_pos written.blank).trans solid.trimStart_eq
    rw [blanks, trimStart, List.dropWhile_cons_of_pos (by decide), ← trimStart,
      starts.trimStart_eq] at behind
    exact noId ((eq_of_first_occurrence closed free behind).1 ▸ written.isId)

/-- Nothing is found in a part of a text that opens no bracket. -/
theorem blocksFrom_append_free {part : List Char} (free : '[' ∉ part) (place : Nat)
    (rest : List Char) :
    blocksFrom place (part ++ rest) = blocksFrom (place + part.length) rest := by
  -- Induction on the part, at no character of which a block can start.
  induction part generalizing place with
  | nil => rfl
  | cons c part ih =>
    have other : c ≠ '[' := (List.ne_of_not_mem_cons free).symm
    rw [List.cons_append, blocksFrom, blockAt?_eq_none_of_ne other]
    dsimp only
    rw [ih (List.not_mem_of_not_mem_cons free), List.length_cons, Nat.add_right_comm, Nat.add_assoc]

/-- At a bracket a block is found if one can be read there, and nothing in the part behind it that
opens no other bracket. -/
theorem blocksFrom_bracket {part : List Char} (free : '[' ∉ part) (place : Nat) (rest : List Char) :
    blocksFrom place ('[' :: (part ++ rest)) =
      ((blockAt? ('[' :: (part ++ rest))).map (place, ·)).toList ++
        blocksFrom (place + part.length + 1) rest := by
  -- The bracket is tried, and the search goes on through the part behind it.
  rw [blocksFrom, blocksFrom_append_free free, Nat.add_right_comm]
  cases blockAt? ('[' :: (part ++ rest)) <;> rfl

/-- Holds of the ticket blocks whose value is an identifier. -/
def Names (block : MetadataBlock) : Prop :=
  block.key = .ticket ∧ IsId (trim block.value.toList)

instance : DecidablePred Names :=
  fun _ => inferInstanceAs (Decidable (_ ∧ _))

/-- Where a block is written one is read if it is a ticket's with an identifier. -/
theorem blockAt?_render {block : MetadataBlock} (free : ']' ∉ block.value.toList)
    (rest : List Char) :
    blockAt? (block.render.toList ++ rest) =
      if Names block then some ⟨trim block.value.toList, block.render.length⟩ else none := by
  -- A ticket's block is written with the opener that the search looks for.
  obtain ⟨key, value⟩ := block
  rw [← String.length_toList, MetadataBlock.toList_render]
  by_cases ticket : key = .ticket
  · subst ticket
    have closed : ']' ∉ trim value.toList := fun member => free (mem_of_mem_trim member)
    have starts := trimStart_eq_of_head (trim_prefix_trimStart value.toList)
    have label : MetadataBlock.label ⟨.ticket, value⟩ =
        "ticket: ".toList ++ trim value.toList := by
      simp [MetadataBlock.label, Metadata.takesValue, Metadata.slug]
    have whole : '[' :: (("ticket: ".toList ++ trim value.toList) ++ [']']) ++ rest =
        opener ++ ' ' :: (trim value.toList ++ ']' :: rest) := by
      simp [opener]
    have length : ('[' :: (("ticket: ".toList ++ trim value.toList) ++ [']'])).length =
        opener.length + (trim value.toList).length + 2 := by
      simp [opener]
      omega
    rw [label, whole, blockAt?_ticket starts closed, length]
    simp only [Names, true_and]
  · -- Its label starts with the slug of another key.
    obtain ⟨behind, label⟩ : ∃ behind,
        MetadataBlock.label ⟨key, value⟩ = (Key.metadata key).slug.toList ++ behind := by
      unfold MetadataBlock.label
      split
      · exact ⟨_, rfl⟩
      · exact ⟨[], (List.append_nil _).symm⟩
    have other : Key.metadata key ≠ .metadata .ticket := fun same => ticket (Key.metadata.inj same)
    rw [if_neg fun names : Names ⟨key, value⟩ => ticket names.1, label, List.append_assoc,
      List.cons_append, List.append_assoc, blockAt?_other other]

/-- No block is found in the token of another key than the ticket's. -/
theorem blocksFrom_token (key : Key) (other : key ≠ .metadata .ticket) (place : Nat)
    (rest : List Char) :
    blocksFrom place (key.token.toList ++ rest) =
      blocksFrom (place + key.token.toList.length) rest := by
  -- A token opens one bracket, and no block is read there.
  have free : '[' ∉ key.slug.toList ++ [']'] := by
    simpa using fun member => (key.slug_plain _ member).1 rfl
  rw [Key.token, toList_bracketed, List.cons_append, blocksFrom_bracket free, List.append_assoc,
    blockAt?_other other]
  rfl

/-- The blocks that are found among those of a line are the tickets with an identifier. -/
theorem blocksFrom_blocks {blocks : List MetadataBlock}
    (free : ∀ block ∈ blocks, '[' ∉ block.value.toList ∧ ']' ∉ block.value.toList) (place : Nat) :
    blocksFrom place (blocks.flatMap fun block => ' ' :: block.render.toList) =
      (blocks.zipIdx.filter fun entry => Names entry.1).map fun entry =>
        (place + ((blocks.take entry.2).flatMap fun block => ' ' :: block.render.toList).length + 1,
          ⟨trim entry.1.value.toList, entry.1.render.length⟩) := by
  -- Induction on the blocks, with the place general, since each block moves the others on.
  induction blocks generalizing place with
  | nil => rfl
  | cons block later ih =>
    obtain ⟨opening, closing⟩ := free block List.mem_cons_self
    have tail := ih (fun other member => free other (List.mem_cons_of_mem _ member))
      (place + (' ' :: block.render.toList).length)
    -- The space before the block and its label open no bracket.
    have label : '[' ∉ block.label ++ [']'] := by
      simpa using MetadataBlock.bracket_not_mem_label opening
    have space : '[' ∉ [' '] := by decide
    have head (rest : List Char) :
        blocksFrom place (' ' :: block.render.toList ++ rest) =
          ((blockAt? (block.render.toList ++ rest)).map (place + 1, ·)).toList ++
            blocksFrom (place + (' ' :: block.render.toList).length) rest := by
      have stop : place + 1 + (block.label ++ [']']).length + 1 =
          place + (' ' :: '[' :: (block.label ++ [']'])).length := by
        simp only [List.length_cons]
        omega
      rw [← List.singleton_append, List.append_assoc, blocksFrom_append_free space,
        MetadataBlock.toList_render, List.cons_append, blocksFrom_bracket label,
        List.length_singleton, List.singleton_append, stop]
    have shift : later.zipIdx 1 = later.zipIdx.map fun entry => (entry.1, entry.2 + 1) :=
      List.zipIdx_succ
    rw [List.flatMap_cons, head, tail, blockAt?_render closing, List.zipIdx_cons, List.filter_cons,
      shift, List.filter_map]
    by_cases names : Names block
    · simp [names, Function.comp_def, Nat.add_assoc]
    · simp [names, Function.comp_def, Nat.add_assoc]

end Ticket

namespace MarkerDraft

/-- The place of the block with a number: behind the line up to the block before it, and one
space. -/
def placeOf (draft : MarkerDraft) (number : Nat) : Nat :=
  { draft with blocks := draft.blocks.take number }.render.length + 1

/-- The blocks stand behind the line without them. -/
theorem toList_render_blocks (draft : MarkerDraft) : draft.render.toList =
    { draft with blocks := [] }.render.toList ++
      draft.blocks.flatMap fun block => ' ' :: block.render.toList := by
  -- The blocks are written last.
  rw [toList_render, toList_render]
  simp [body, slots]

/-- Each block is written at its place. -/
theorem occursAt_placeOf {draft : MarkerDraft} {number : Nat} {block : MetadataBlock}
    (here : draft.blocks[number]? = some block) :
    OccursAt block.render.toList draft.render.toList (draft.placeOf number) := by
  -- The line is split before the block, and the place is the length of the first part.
  obtain ⟨inside, rfl⟩ := List.getElem?_eq_some_iff.1 here
  -- The blocks before it and one space stand between the line without blocks and the block.
  have whole : draft.render.toList =
      ({ draft with blocks := draft.blocks.take number }.render.toList ++ [' ']) ++
        (draft.blocks[number].render.toList ++
          (draft.blocks.drop (number + 1)).flatMap fun block => ' ' :: block.render.toList) := by
    have split := congrArg (List.flatMap fun block => ' ' :: block.render.toList)
      (List.take_append_drop number draft.blocks).symm
    rw [List.drop_eq_getElem_cons inside, List.flatMap_append, List.flatMap_cons] at split
    rw [toList_render_blocks draft, split,
      toList_render_blocks { draft with blocks := draft.blocks.take number }]
    simp only [List.append_assoc, List.cons_append, List.nil_append]
  have place : draft.placeOf number =
      ({ draft with blocks := draft.blocks.take number }.render.toList ++ [' ']).length := by
    rw [List.length_append, String.length_toList]
    rfl
  rw [OccursAt, whole, place, List.drop_left]
  exact List.prefix_append _ _

/-- No ticket block is found in front of the blocks of a line, whose message opens no bracket. -/
theorem blocksFrom_render {draft : MarkerDraft} {language : String}
    (opened : draft.opener = commentOpener language) (message : '[' ∉ draft.message.toList) :
    Ticket.blocksFrom 0 draft.render.toList =
      Ticket.blocksFrom { draft with blocks := [] }.render.length
        (draft.blocks.flatMap fun block => ' ' :: block.render.toList) := by
  -- The search is followed through the parts of the line before its blocks.
  have keyword : '[' ∉ (draft.opener.toList ++ [' ']) ++ ("TODO:".toList ++ [' ']) := by
    rw [opened]
    unfold commentOpener
    split_ifs <;> decide
  have space : '[' ∉ [' '] := by decide
  have text : '[' ∉ ' ' :: trim draft.message.toList := by
    simpa using fun member => message (mem_of_mem_trim member)
  have parts : { draft with blocks := [] }.render.toList =
      ((draft.opener.toList ++ [' ']) ++ ("TODO:".toList ++ [' '])) ++
        ((Key.priority draft.priority).token.toList ++ ([' '] ++
          ((Key.kind draft.kind).token.toList ++ ([' '] ++
            ((Key.context draft.context).token.toList ++ (' ' :: trim draft.message.toList)))))) := by
    rw [toList_render]
    simp [slots, body, Key.token, Key.slug, Priority.token, Kind.token, Context.token]
  rw [toList_render_blocks, ← String.length_toList, parts]
  -- Each token is one bracket, and nothing else on the way is.
  generalize (draft.opener.toList ++ [' ']) ++ ("TODO:".toList ++ [' ']) = lead at keyword
  generalize ' ' :: trim draft.message.toList = message at text
  simp only [List.append_assoc, Ticket.blocksFrom_append_free keyword,
    Ticket.blocksFrom_append_free space, Ticket.blocksFrom_append_free text,
    Ticket.blocksFrom_token (.priority draft.priority) (by simp),
    Ticket.blocksFrom_token (.kind draft.kind) (by simp),
    Ticket.blocksFrom_token (.context draft.context) (by simp), List.length_append,
    Nat.add_assoc, Nat.zero_add]

/-- The links of a marker line are those of its ticket blocks.

Where neither the message nor a value writes a bracket, and there is a base address, there is one
link for each ticket block whose trimmed value is an identifier, in the order of the blocks. The
link has that identifier and the range of the whole block, which is written at its place. Nothing
else in the line makes a link. -/
theorem links_render (language : String) (draft : MarkerDraft)
    (opened : draft.opener = commentOpener language) (message : '[' ∉ draft.message.toList)
    (values : ∀ block ∈ draft.blocks, '[' ∉ block.value.toList ∧ ']' ∉ block.value.toList)
    (url : String) (address : Ticket.baseAddress url ≠ []) :
    Ticket.links draft.render.toList (some url) =
      ((draft.blocks.zipIdx.filter fun entry => Ticket.Names entry.1).map fun entry =>
        { ticketId := trimmed entry.1.value
          start := draft.placeOf entry.2
          stop := draft.placeOf entry.2 + entry.1.render.length
          url := String.ofList
            (Ticket.baseAddress url ++ '/' :: trim entry.1.value.toList) }) ∧
    ∀ number block, draft.blocks[number]? = some block →
      OccursAt block.render.toList draft.render.toList (draft.placeOf number) ∧
      (block.key = .ticket → block.render = "[ticket: " ++ trimmed block.value ++ "]") := by
  -- What the search finds among the blocks is known, and each find is made a link.
  have placed (number : Nat) : draft.placeOf number = { draft with blocks := [] }.render.length +
      ((draft.blocks.take number).flatMap fun block => ' ' :: block.render.toList).length + 1 := by
    rw [placeOf, ← String.length_toList, toList_render_blocks, List.length_append,
      String.length_toList]
  refine ⟨?_, fun number block here => ⟨occursAt_placeOf here, fun ticket => ?_⟩⟩
  · rw [(Ticket.links_eq address _).2, blocksFrom_render opened message,
      Ticket.blocksFrom_blocks values, List.map_map]
    simp only [placed]
    rfl
  · rw [MetadataBlock.render, ticket]
    rfl

/-- Of two ticket blocks with the same identifier, a ticket block without one and another block that
is written the same way, the first two are linked. -/
theorem links_render_repeated :
    let draft : MarkerDraft :=
  -- The law lists the links, and the list is evaluated.
      { opener := commentOpener "html"
        priority := .low
        kind := .fix
        context := .test
        message := " é ticket: AB-1] "
        blocks := [⟨.docs, "AB-1"⟩, ⟨.ticket, " \u212Ab-٣٤ "⟩, ⟨.tbd, "AB-1"⟩, ⟨.ticket, "AB 1"⟩,
          ⟨.ticket, "\u212Ab-٣٤"⟩] }
    Ticket.links draft.render.toList (some "https://t/") =
      [⟨"\u212Ab-٣٤", 59, 74, "https://t/\u212Ab-٣٤"⟩,
        ⟨"\u212Ab-٣٤", 96, 111, "https://t/\u212Ab-٣٤"⟩] := by
  intro draft
  rw [(links_render "html" draft rfl (by decide) (by decide) "https://t/" (by decide)).1]
  decide +kernel

end MarkerDraft

end TodoMarkers
