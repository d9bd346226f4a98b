import Mathlib.Data.List.Infix
import TodoMarkers.Proofs.Insertion
import TodoMarkers.Proofs.Marker.Closers

/-! Marker lines stay on one line and in the comment that they open, as far as their answers do. -/

namespace TodoMarkers

open Text

/-- What ends the comment that is opened: the closer of a block comment, or else the end of the
line. -/
def commentEnd (opener : String) : List Char :=
  if opener = "<!--" then "-->".toList
  else if opener = "/*" then "*/".toList
  else ['\n']

/-- A text that no part of a marker line holds but its answers. -/
structure Foreign (ending : List Char) : Prop where
  /-- It has no space, -/
  space : ' ' ∉ ending
  /-- no colon, -/
  colon : ':' ∉ ending
  /-- no opening bracket -/
  opening : '[' ∉ ending
  /-- and no closing bracket. -/
  closing : ']' ∉ ending
  /-- One of its characters is neither a letter nor a hyphen. -/
  mark : ∃ c ∈ ending, c.isAlpha = false ∧ c ≠ '-'

/-- The end of a comment is foreign to the line that opens the comment. -/
theorem foreign_commentEnd (opener : String) : Foreign (commentEnd opener) := by
  -- Each of the three ends is a closed text with a mark that is neither a letter nor a hyphen.
  unfold commentEnd
  split_ifs
  · exact ⟨by decide, by decide, by decide, by decide, '>', by decide⟩
  · exact ⟨by decide, by decide, by decide, by decide, '*', by decide⟩
  · exact ⟨by decide, by decide, by decide, by decide, '\n', by decide⟩

namespace Foreign

variable {ending : List Char}

/-- A foreign text does not occur among letters and hyphens. -/
theorem not_occurs (foreign : Foreign ending) {text : List Char}
    (letters : ∀ c ∈ text, c.isAlpha = true ∨ c = '-') : ¬ ending <:+: text := by
  -- Whatever occurs brings its mark with it, and the mark is outside the given alphabet.
  intro occurs
  -- The mark would be a letter or a hyphen.
  obtain ⟨c, member, noLetter, noHyphen⟩ := foreign.mark
  rcases letters c (occurs.subset member) with letter | hyphen
  · rw [noLetter] at letter
    contradiction
  · exact noHyphen hyphen

/-- A foreign text has a character. -/
theorem ne_nil (foreign : Foreign ending) : ending ≠ [] := by
  -- The mark is one of its characters.
  obtain ⟨c, member, _⟩ := foreign.mark
  exact List.ne_nil_of_mem member

/-- Brackets around a text add no occurrence. -/
theorem occurs_bracketed_iff (foreign : Foreign ending) {text : List Char} :
    ending <:+: '[' :: (text ++ [']']) ↔ ending <:+: text := by
  -- Nothing stands before the one bracket or behind the other.
  have opened : ending <:+: [] ++ '[' :: (text ++ [']']) ↔ _ :=
    occurs_append_separator_iff foreign.opening
  rw [List.nil_append] at opened
  rw [opened, occurs_append_separator_iff foreign.closing]
  simp [foreign.ne_nil]

/-- A block holds a foreign text exactly if it writes a value that does. -/
theorem occurs_render_iff (foreign : Foreign ending) {block : MetadataBlock} :
    ending <:+: block.render.toList ↔
      block.key.takesValue = true ∧ ending <:+: trim block.value.toList := by
  -- The brackets and the colon separate, so an occurrence lies inside the slug or inside the value.
  have slug : ¬ ending <:+: block.key.slug.toList :=
    foreign.not_occurs (Key.slug_letters (.metadata block.key))
  rw [MetadataBlock.toList_render, foreign.occurs_bracketed_iff, MetadataBlock.label]
  split
  · -- A colon and a space separate the slug from the value.
    rename_i takes
    have value : ending <:+: [] ++ ' ' :: trim block.value.toList ↔ _ :=
      occurs_append_separator_iff foreign.space
    rw [List.nil_append] at value
    rw [occurs_append_separator_iff foreign.colon, value]
    simp [slug, takes, foreign.ne_nil]
  · rename_i bare
    simp [slug, bare]

/-- Behind a text the blocks hold a foreign text exactly if one of them does. -/
theorem occurs_blocks_iff (foreign : Foreign ending) {before : List Char}
    {blocks : List MetadataBlock} :
    ending <:+: before ++ blocks.flatMap (fun block => ' ' :: block.render.toList) ↔
      ending <:+: before ∨ ∃ block ∈ blocks, ending <:+: block.render.toList := by
  -- The space before the first block separates it from what stands before it.
  induction blocks generalizing before with
  | nil => simp
  | cons block rest ih =>
    rw [List.flatMap_cons, List.cons_append,
      occurs_append_separator_iff foreign.space, ih,
      List.exists_mem_cons_iff]

end Foreign

namespace MarkerDraft

/-- The answers that are written as they were given, blanks around them apart: the message and the
values of the blocks that take one. -/
def answers (draft : MarkerDraft) : List (List Char) :=
  trim draft.message.toList ::
    (draft.blocks.filter (·.key.takesValue)).map fun block => trim block.value.toList

/-- The message and the blocks hold a foreign text exactly if an answer does. -/
theorem occurs_body_iff {ending : List Char} (foreign : Foreign ending) (draft : MarkerDraft) :
    ending <:+: draft.body ↔ ∃ answer ∈ draft.answers, ending <:+: answer := by
  -- No separator holds the text, so it occurs in the message or in one value that is written.
  rw [body, foreign.occurs_blocks_iff, answers, List.exists_mem_cons_iff]
  simp only [foreign.occurs_render_iff, List.mem_map, List.mem_filter, exists_exists_and_eq_and]
  simp only [and_assoc]

/-- What is written of a marker line between its comment opener and its message. -/
def lead (draft : MarkerDraft) : List Char :=
  ' ' :: ("TODO:".toList ++ ' ' :: draft.slots)

/-- The characters of a marker line behind its opener. -/
theorem toList_render_eq (draft : MarkerDraft) :
    draft.render.toList = draft.opener.toList ++ (draft.lead ++ ' ' :: draft.body) := by
  -- Only the grouping of the appended parts differs.
  rw [toList_render]
  simp only [lead, List.append_assoc, List.cons_append, List.nil_append]

/-- The keyword and the slots hold no foreign text. -/
theorem not_occurs_lead {ending : List Char} (foreign : Foreign ending) (draft : MarkerDraft) :
    ¬ ending <:+: draft.lead := by
  -- Blanks and colons part the lead into words, each of which is made of letters and hyphens.
  have token (key : Key) : ¬ ending <:+: key.token.toList := by
    rw [Key.token, toList_bracketed, foreign.occurs_bracketed_iff]
    exact foreign.not_occurs key.slug_letters
  have keyword : ¬ ending <:+: "TODO".toList := by
    have letters : "TODO".toList.all Char.isAlpha = true := by decide
    exact foreign.not_occurs fun c member => .inl (List.all_eq_true.1 letters c member)
  -- Separators stand around the keyword and each of the tokens.
  have parts : draft.lead = [] ++ ' ' :: ("TODO".toList ++ ':' :: ([] ++ ' ' ::
      ((Key.priority draft.priority).token.toList ++ ' ' ::
        ((Key.kind draft.kind).token.toList ++ ' ' ::
          (Key.context draft.context).token.toList)))) := rfl
  rw [parts]
  simp only [occurs_append_separator_iff foreign.space,
    occurs_append_separator_iff foreign.colon, List.infix_nil, foreign.ne_nil,
    keyword, token, or_self, not_false_eq_true]

/-- A line goes on behind a foreign text exactly if one of its answers does, or if one holds the
text and there are blocks, whose last bracket is then behind it. -/
theorem goesOnBehind_line_iff {ending : List Char} (foreign : Foreign ending)
    (draft : MarkerDraft) : GoesOnBehind ending (draft.lead ++ ' ' :: draft.body) ↔
      (∃ answer ∈ draft.answers, GoesOnBehind ending answer) ∨
        draft.blocks ≠ [] ∧ ∃ answer ∈ draft.answers, ending <:+: answer := by
  -- The lead holds no such text, so what counts is whether the line ends in a bracket of its own.
  have absent := draft.not_occurs_lead foreign
  by_cases none : draft.blocks = []
  · -- The message is the only answer, and it ends the line.
    rw [goesOnBehind_append_separator_iff foreign.space absent]
    simp [body, answers, none]
  · -- The bracket of the last block stands behind whatever answer holds the text.
    have last : (draft.lead ++ ' ' :: draft.body).getLast? = some ']' := by
      rw [List.getLast?_append_of_ne_nil _ (by simp), getLast?_body none]
    rw [goesOnBehind_iff_occurs foreign.closing last foreign.ne_nil,
      occurs_append_separator_iff foreign.space, or_iff_right absent, occurs_body_iff foreign,
      and_iff_right none]
    refine (or_iff_right_of_imp ?_).symm
    rintro ⟨answer, given, inside, outside, whole, _⟩
    exact ⟨answer, given, inside, outside, whole.symm⟩

/-- A message that ends in one comment closer is read without it, if no block follows. -/
theorem stripCloser_stripCloser_message {draft : MarkerDraft} {shorter closer : List Char}
    (none : draft.blocks = []) (known : closer ∈ Marker.commentClosers)
    (whole : trim draft.message.toList = shorter ++ closer)
    (plain : ¬ Marker.EndsInCloser (trim shorter)) :
    Marker.stripCloser (Marker.stripCloser (trim (draft.slots ++ ' ' :: draft.body))) =
      draft.slots ++ trimEnd (' ' :: shorter) := by
  -- The two steps are followed one by one, since the first alone finds a closer.
  have starts := draft.slots_startsSolid
  have closed := draft.getLast?_slots
  have ends := Marker.endsSolid_of_bracket closed
  have message : trim draft.message.toList ≠ [] := by
    have some_ : ∀ closer ∈ Marker.commentClosers, closer ≠ [] := by decide
    rw [whole]
    exact List.append_ne_nil_of_right_ne_nil shorter (some_ closer known)
  -- The closer ends the line, and the first step takes it away.
  have content : trim (draft.slots ++ ' ' :: draft.body) =
      draft.slots ++ ' ' :: shorter ++ closer := by
    have last : trimEnd (' ' :: trim draft.message.toList) = ' ' :: trim draft.message.toList :=
      ((trim_endsSolid message).behind [' ']).trimEnd_eq
    rw [body_of_no_blocks none, trim_append starts ends, last, whole, List.append_assoc,
      List.cons_append]
  have once : Marker.stripCloser (trim (draft.slots ++ ' ' :: draft.body)) =
      draft.slots ++ trimEnd (' ' :: shorter) := by
    rw [Marker.stripCloser_of_closer known ((trim_trim _).trans content), trim_append starts ends]
  -- The second step finds no other closer.
  have rest : ¬ Marker.EndsInCloser (trimEnd (' ' :: shorter)) := by
    refine Marker.not_endsInCloser_trimEnd ?_
    rwa [trim_cons_blank (by decide)]
  obtain ⟨kept, twice, _, same⟩ :=
    Marker.stripCloser_append starts closed (trimEnd (' ' :: shorter))
  rw [trimEnd_trimEnd] at same
  rw [once, twice, same rest]

end MarkerDraft

/-- Where no answer breaks the line, a marker line is one line with one record.

The message of the record is that of the draft with all blocks, if a block follows it or no comment
closer ends it. A single closer at the end of the line is left out of the record. Something of the
line falls outside the comment that it opens exactly if an answer goes on behind the end of that
comment, or holds it in a line with blocks: a later block, or the bracket of the block whose value
it is, is then outside. -/
theorem MarkerDraft.scanText_render (grammar : Grammar) (path : Path) (language : String)
    (draft : MarkerDraft) (opened : draft.opener = commentOpener language)
    (unbroken : ∀ answer ∈ draft.answers, '\n' ∉ answer) :
    '\n' ∉ draft.render.toList ∧
    (∃ fields, scanText grammar path draft.render = [⟨fields, path, 0⟩] ∧
      (draft.blocks ≠ [] ∨ ¬ Marker.EndsInCloser (trim draft.message.toList) →
        fields.rawText = String.ofList (trim draft.body)) ∧
      (draft.blocks = [] → ∀ shorter, ∀ closer ∈ Marker.commentClosers,
        trim draft.message.toList = shorter ++ closer → ¬ Marker.EndsInCloser (trim shorter) →
        fields.rawText = String.ofList (trim shorter))) ∧
    ∃ behind, draft.render.toList = draft.opener.toList ++ behind ∧
      (GoesOnBehind (commentEnd draft.opener) behind ↔
        (∃ answer ∈ draft.answers, GoesOnBehind (commentEnd draft.opener) answer) ∨
          draft.blocks ≠ [] ∧ ∃ answer ∈ draft.answers, commentEnd draft.opener <:+: answer) := by
  -- A newline is the end of a line comment, and answers alone could hold it.
  have newline : Foreign ['\n'] := foreign_commentEnd "//"
  have body : '\n' ∉ draft.body := by
    rw [← List.singleton_infix_iff, occurs_body_iff newline]
    simpa [List.singleton_infix_iff] using unbroken
  have line : '\n' ∉ draft.render.toList := by
    have opener : '\n' ∉ draft.opener.toList := opened ▸ newline_not_mem_commentOpener language
    have lead : '\n' ∉ draft.lead := by
      rw [← List.singleton_infix_iff]
      exact draft.not_occurs_lead newline
    simp [toList_render_eq, opener, lead, body]
  have recorded := scanText_line line (parseLine?_eq_extractFields opened body grammar) path
  refine ⟨line, ⟨_, recorded, fun plain => ?_, fun none shorter closer known whole plain => ?_⟩,
    draft.lead ++ ' ' :: draft.body, draft.toList_render_eq,
    goesOnBehind_line_iff (foreign_commentEnd draft.opener) draft⟩
  · exact rawText_extractFields plain grammar
  · rw [extractFields_slots (stripCloser_stripCloser_message none known whole plain),
      trim_trimEnd, trim_cons_blank (by decide)]

/-- A message that ends the comment is kept whole before a block, which is outside the comment. -/
theorem MarkerDraft.scanText_render_early_end :
    let draft : MarkerDraft :=
  -- The draft has a block, so both sides of the general theorem's alternative hold by it.
      ⟨commentOpener "css", .low, .fix, .doc, " x */ ", [⟨.assignee, "Ann"⟩]⟩
    (∃ fields, scanText .standard "a.css" draft.render = [⟨fields, "a.css", 0⟩] ∧
      fields.rawText = "x */ [assignee: Ann]") ∧
    ∃ behind, draft.render.toList = draft.opener.toList ++ behind ∧
      GoesOnBehind (commentEnd draft.opener) behind := by
  intro draft
  obtain ⟨_, ⟨fields, recorded, rawText, _⟩, behind, whole, goesOn⟩ :=
    scanText_render .standard "a.css" "css" draft rfl (by decide)
  refine ⟨⟨fields, recorded, ?_⟩, behind, whole, goesOn.2 (.inr ⟨by decide, by decide⟩)⟩
  rw [rawText (.inl (by decide))]
  decide

/-- A message may go on on a second line, lose the comment closer at its end, or end the comment
before its own end. -/
theorem MarkerDraft.answers_leave_line_and_comment :
    let draft (language message : String) : MarkerDraft :=
  -- All three lines are closed texts, so each is rendered and read as it stands.
      ⟨commentOpener language, .low, .fix, .doc, message, []⟩
    '\n' ∈ (draft "rust" "a\nb").render.toList ∧
    (∃ fields, scanText .standard "a.rs" (draft "rust" "x */").render = [⟨fields, "a.rs", 0⟩] ∧
      fields.rawText = "x") ∧
    ∃ behind, (draft "css" "x */ y").render.toList = "/*".toList ++ behind ∧
      GoesOnBehind "*/".toList behind := by
  refine ⟨by decide, ⟨_, rfl, by decide⟩, " TODO: [low] [fix] [doc] x */ y".toList, by decide,
    " TODO: [low] [fix] [doc] x ".toList, " y".toList, by decide, by decide⟩

end TodoMarkers
