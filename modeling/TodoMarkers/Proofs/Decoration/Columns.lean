import TodoMarkers.Proofs.Decoration.Bytes
import TodoMarkers.Proofs.Decoration.Ranges
import TodoMarkers.Proofs.PositionMap

/-! The columns of decorations: both ends of a range stand on one line, as far apart as the token is
long, in characters and in code units. -/

namespace TodoMarkers

open Text

/-- Behind a part without newlines its line goes on, with the part at the end. -/
theorem Text.take_stop_of_occursAt {part text : List Char} {place : Nat}
    (occurs : OccursAt part text place) (free : '\n' ∉ part) :
    (text.take (place + part.length)).count '\n' = (text.take place).count '\n' ∧
      linePart text (place + part.length) = linePart text place ++ part := by
  -- The part is appended to what stands before it, and without newlines it stays on that line.
  have whole : text.take (place + part.length) = text.take place ++ part := by
    rw [List.take_add, occurs.extract]
  rw [linePart, whole]
  refine ⟨?_, rtakeWhile_append_line free _⟩
  rw [List.count_append, List.count_eq_zero.2 free, Nat.add_zero]

/-- The end of a range lies on the line of its start, as far behind it as a token is long. -/
structure Instruction.OnOneLine (instruction : Instruction) (index : TextIndex)
    (token : List Char) : Prop where
  /-- Both ends have the same line, where columns count characters. -/
  line : (index.position instruction.stop).line = (index.position instruction.start).line
  /-- The columns are as many characters apart as the token has. -/
  columns : (index.position instruction.stop).character =
    (index.position instruction.start).character + token.length
  /-- Both ends have the same line, where columns count code units. -/
  utf16Line :
    (index.utf16Position instruction.stop).line = (index.utf16Position instruction.start).line
  /-- The columns are as many code units apart as the token has. -/
  utf16Columns : (index.utf16Position instruction.stop).character =
    (index.utf16Position instruction.start).character + utf16Width token

/-- A range that covers a token without newlines stands on one line. -/
theorem Instruction.Covers.onOneLine {instruction : Instruction} {token : String}
    {text : List Char} (covers : instruction.Covers token text) (free : '\n' ∉ token.toList) :
    instruction.OnOneLine (.ofText text) token.toList := by
  -- The token is the part of the text between the two ends, so what holds behind a part applies.
  have within := covers.within
  have length : token.toList.length = instruction.stop - instruction.start := by
    rw [← covers.characters, List.length_take, List.length_drop]
    omega
  have stop : instruction.stop = instruction.start + token.toList.length := by
    have := covers.nonempty
    omega
  have occurs : OccursAt token.toList text instruction.start := by
    rw [← covers.characters]
    exact List.take_prefix _ _
  -- Neither end is moved to the end of the document.
  have inside : min instruction.start text.length = instruction.start := by omega
  obtain ⟨lines, part⟩ := take_stop_of_occursAt occurs free
  rw [← stop] at lines part
  constructor
  all_goals
    simp only [TextIndex.position_ofText, TextIndex.utf16Position_ofText, inside,
      Nat.min_eq_left within]
  · exact lines
  · rw [part, List.length_append]
  · exact lines
  · rw [part, utf16Width_append]

/-- No token holds a newline, and each of its characters is a single code unit. -/
theorem Key.mark_narrow (key : Key) :
    '\n' ∉ key.mark.toList ∧ utf16Width key.mark.toList = key.mark.length := by
  -- The keys are finitely many, so their tokens are checked in one table.
  have table : ∀ key ∈ Key.all,
      '\n' ∉ key.mark.toList ∧ utf16Width key.mark.toList = key.mark.length := by decide
  exact table key key.mem_all

/-- The positions of every decoration stand on one line, exactly as far apart as its token is long.

The instructions of a document are those that are found and counted through its bytes. For each of
them the line of its end is that of its start. The columns differ by the characters of the token
where they count characters, and by its code units, which are as many, where they count those. What
is looked up for both ends is there, and nothing is taken from a smaller number. -/
theorem decorations_on_one_line (vocabulary : Vocabulary) (mode : DisplayMode)
    (text : List Char) :
    (DecorationSet.ofVocabulary vocabulary mode).computeBytes? text =
        some (decorations vocabulary mode text) ∧
      ∀ group ∈ (decorations vocabulary mode text).groups,
        ∀ instruction ∈ group.instructions,
          let index := TextIndex.ofText text
          let token := (DecorationRule.ofKey vocabulary mode instruction.key).token
          instruction.OnOneLine index token.toList ∧
            utf16Width token.toList = token.length ∧
            index.InRange instruction.start ∧ index.InRange instruction.stop := by
  -- Each instruction covers the token of its key, and every token is narrow and free of newlines.
  refine ⟨computeBytes?_ofVocabulary vocabulary mode text, ?_⟩
  rw [decorations_groups, List.forall_mem_map]
  intro key _ instruction member
  obtain ⟨rfl, _⟩ := occursAt_of_mem_keyInstructions member
  obtain ⟨free, narrow⟩ := instruction.key.mark_narrow
  dsimp only
  rw [DecorationRule.ofKey_token]
  exact ⟨(covers_of_mem_keyInstructions member).onOneLine free, narrow,
    TextIndex.inRange_ofText text _, TextIndex.inRange_ofText text _⟩

/-- A token at the end of the document, behind a character of two code units on its line and others
on the line before. -/
theorem decorations_on_one_line_behind_surrogates :
    let text := "é🔴\r\n# 🔴 todo ü [high]".toList
    let index := TextIndex.ofText text
    let instruction : Instruction := ⟨.priority .high, 15, 21, "🔴"⟩
    (⟨.priority .high, "🔴", [instruction]⟩ : KeyDecorations) ∈
        (decorations .standard .emoji text).groups ∧
      text.length = 21 ∧ instruction.OnOneLine index "[high]".toList ∧
      index.position 15 = ⟨1, 11⟩ ∧ index.utf16Position 15 = ⟨1, 12⟩ := by
  -- The group is found by evaluation, and the law gives the line of its instruction.
  intro text index instruction
  have group : (⟨.priority .high, "🔴", [instruction]⟩ : KeyDecorations) ∈
      (decorations .standard .emoji text).groups := by decide
  obtain ⟨_, all⟩ := decorations_on_one_line .standard .emoji text
  obtain ⟨line, _⟩ := all _ group instruction List.mem_cons_self
  exact ⟨group, by decide, line, by decide, by decide⟩

end TodoMarkers
