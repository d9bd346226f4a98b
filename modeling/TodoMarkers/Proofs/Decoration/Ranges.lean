import TodoMarkers.Proofs.Decoration.Place

/-! The instructions of a document can be applied together: each covers a token of the text, and no
two of them share a character. -/

namespace TodoMarkers

open Text

/-- The range of an instruction is a token of the text. -/
structure Instruction.Covers (instruction : Instruction) (token : String) (text : List Char) :
    Prop where
  /-- Something is covered. -/
  nonempty : instruction.start < instruction.stop
  /-- The range ends within the text. -/
  within : instruction.stop ≤ text.length
  /-- The characters of the range are the token's. -/
  characters :
    (text.drop instruction.start).take (instruction.stop - instruction.start) = token.toList

/-- The ranges of two instructions share no place. -/
def Instruction.Apart (instruction other : Instruction) : Prop :=
  instruction.stop ≤ other.start ∨ other.stop ≤ instruction.start

/-- The range of an instruction is as long as its token, which stands in the text there. -/
theorem occursAt_of_mem_keyInstructions {vocabulary : Vocabulary} {mode : DisplayMode} {key : Key}
    {text : List Char} {instruction : Instruction}
    (member : instruction ∈ keyInstructions vocabulary mode key text) :
    instruction.key = key ∧ instruction.stop = instruction.start + key.mark.toList.length ∧
      OccursAt key.mark.toList text instruction.start := by
  -- An occurrence in a line is one in the text, moved by the start of the line.
  obtain ⟨number, line, column, found, occurs, _, rfl⟩ := mem_keyInstructions_iff.1 member
  obtain ⟨tail, dropped, _⟩ := drop_lineStart found
  refine ⟨DecorationRule.ofKey_key vocabulary mode key, ?_, occurs.of_part ⟨tail, dropped.symm⟩⟩
  rw [DecorationRule.instructionAt, DecorationRule.ofKey_token, String.length_toList]

/-- Every instruction covers the token of its key. -/
theorem covers_of_mem_keyInstructions {vocabulary : Vocabulary} {mode : DisplayMode} {key : Key}
    {text : List Char} {instruction : Instruction}
    (member : instruction ∈ keyInstructions vocabulary mode key text) :
    instruction.Covers key.mark text := by
  -- A token is not empty and ends within the text it occurs in.
  obtain ⟨_, stop, occurs⟩ := occursAt_of_mem_keyInstructions member
  have positive := List.length_pos_iff.2 key.mark_closed.ne_nil
  have room := occurs.stop_le key.mark_closed.ne_nil
  refine ⟨by omega, by omega, ?_⟩
  rw [stop, Nat.add_sub_cancel_left]
  exact occurs.extract

/-- Instructions of different keys, or at different places, are apart. -/
theorem apart_of_mem_keyInstructions {vocabulary : Vocabulary} {mode : DisplayMode}
    {key otherKey : Key} {text : List Char} {instruction other : Instruction}
    (member : instruction ∈ keyInstructions vocabulary mode key text)
    (otherMember : other ∈ keyInstructions vocabulary mode otherKey text)
    (different : key ≠ otherKey ∨ instruction.start < other.start) : instruction.Apart other := by
  -- Overlapping tokens would be the same token at the same place.
  obtain ⟨_, stop, occurs⟩ := occursAt_of_mem_keyInstructions member
  obtain ⟨_, otherStop, otherOccurs⟩ := occursAt_of_mem_keyInstructions otherMember
  unfold Instruction.Apart
  -- Of two tokens that meet, the later one starts within the earlier one.
  rcases Nat.le_total instruction.start other.start with order | order
  · rcases Nat.lt_or_ge other.start instruction.stop with inside | past
    · obtain ⟨place, same⟩ := Key.eq_of_overlap occurs otherOccurs order (by omega)
      rcases different with keys | places
      · contradiction
      · omega
    · exact .inl past
  · rcases Nat.lt_or_ge instruction.start other.stop with inside | past
    · obtain ⟨place, same⟩ := Key.eq_of_overlap otherOccurs occurs order (by omega)
      rcases different with keys | places
      · exact absurd same.symm keys
      · omega
    · exact .inr past

/-- No two instructions of a document meet, of whatever keys they are. -/
theorem decorations_pairwise_apart (vocabulary : Vocabulary) (mode : DisplayMode)
    (text : List Char) :
    ((decorations vocabulary mode text).groups.flatMap (·.instructions)).Pairwise
      Instruction.Apart := by
  -- Within a group the order keeps instructions apart, and between groups the keys do.
  have distinct : Key.all.Pairwise (· ≠ ·) := by decide
  rw [decorations_groups, List.flatMap_map, List.pairwise_flatMap]
  constructor
  · intro key _
    refine List.Pairwise.imp_of_mem (fun {instruction other} member otherMember order => ?_)
      (keyInstructions_increasing vocabulary mode key text)
    exact apart_of_mem_keyInstructions member otherMember (.inr order)
  · refine distinct.imp fun {key otherKey} keys => ?_
    intro instruction member other otherMember
    exact apart_of_mem_keyInstructions member otherMember (.inl keys)

/-- The instructions of a document are safe to apply together.

Every key has its group. The instructions of a group cover the token of its key, and stand in
strictly increasing order. No two instructions of the whole result share a character. -/
theorem decorations_safe (vocabulary : Vocabulary) (mode : DisplayMode) (text : List Char) :
    (decorations vocabulary mode text).groups.map (·.key) = Key.all ∧
      (∀ group ∈ (decorations vocabulary mode text).groups,
        (group.instructions.Pairwise fun instruction later =>
          instruction.start < later.start) ∧
        ∀ instruction ∈ group.instructions, instruction.key = group.key ∧
          instruction.Covers (DecorationRule.ofKey vocabulary mode group.key).token text) ∧
      ((decorations vocabulary mode text).groups.flatMap (·.instructions)).Pairwise
        Instruction.Apart := by
  -- The groups are one for each key, and the instructions of each are known.
  refine ⟨?_, ?_, decorations_pairwise_apart vocabulary mode text⟩
  · rw [decorations_groups, List.map_map]
    exact List.map_id Key.all
  · intro group listed
    rw [decorations_groups, List.mem_map] at listed
    obtain ⟨key, _, rfl⟩ := listed
    refine ⟨keyInstructions_increasing vocabulary mode key text, fun instruction member => ?_⟩
    rw [DecorationRule.ofKey_token]
    exact ⟨(occursAt_of_mem_keyInstructions member).1, covers_of_mem_keyInstructions member⟩

end TodoMarkers
