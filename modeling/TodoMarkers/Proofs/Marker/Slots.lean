import TodoMarkers.Proofs.Decoration.Token
import TodoMarkers.Proofs.Marker.Fields

/-! A slot as it is written, filled or not: how it is read back, and what tells it from the rest. -/

namespace TodoMarkers

open Text

namespace Marker

/-- Keys that can be read off the head of a text by their tokens. -/
structure Legible {α : Type} (keys : List α) (token : α → String) : Prop where
  /-- Every key is tried. -/
  listed : ∀ key, key ∈ keys
  /-- Only one of them fits. -/
  apart : TellsApart keys token
  /-- No blank starts a token. -/
  starts : ∀ key, StartsSolid (token key).toList
  /-- No blank ends a token. -/
  ends : ∀ key, EndsSolid (token key).toList
  /-- No token holds a character of a comment closer. -/
  foreign : ∀ key, ∀ c ∈ (token key).toList, ∀ closer ∈ commentClosers, c ∉ closer

/-- Keys are legible if they are keys of one category whose tokens hold letters and brackets. -/
theorem Legible.of_keys {α : Type} {keys : List α} {token : α → String} (embed : α → Key)
    (injective : Function.Injective embed) (marks : ∀ key, (embed key).mark = token key)
    (listed : ∀ key, key ∈ keys)
    (checked : keys.all (fun key => (token key).toList.all fun c =>
      commentClosers.all fun closer => !closer.contains c) = true) : Legible keys token where
  -- What is asked of the tokens holds of the marks of all keys.
  listed := listed
  apart first _ second _ text opens other := by
    rw [← marks] at opens other
    exact injective (Key.eq_of_mark_prefix opens other)
  starts key := marks key ▸ (embed key).mark_startsSolid
  ends key := by
    -- The last character is a bracket or a colon.
    obtain ⟨body, closer, whole, closes, _⟩ := (embed key).mark_closed
    rw [marks] at whole
    refine ⟨body, closer, whole, ?_⟩
    have either : closer = ']' ∨ closer = ':' := by simpa [isCloser] using closes
    rcases either with rfl | rfl <;> decide
  foreign key c member closer known := by
    have table := List.all_eq_true.1 checked key (listed key)
    simpa using List.all_eq_true.1 (List.all_eq_true.1 table c member) closer known

end Marker

/-- Priorities are legible. -/
theorem Priority.legible : Marker.Legible all token :=
  -- The tokens hold none of the characters of a closer, which is checked in one table.
  .of_keys Key.priority (fun _ _ => Key.priority.inj) (fun _ => rfl)
    (fun key => by cases key <;> decide) (by decide)

/-- Kinds are legible. -/
theorem Kind.legible : Marker.Legible all token :=
  -- The table is that of the kinds.
  .of_keys Key.kind (fun _ _ => Key.kind.inj) (fun _ => rfl)
    (fun key => by cases key <;> decide) (by decide)

/-- Contexts are legible. -/
theorem Context.legible : Marker.Legible all token :=
  -- The table is that of the contexts.
  .of_keys Key.context (fun _ _ => Key.context.inj) (fun _ => rfl)
    (fun key => by cases key <;> decide) (by decide)

namespace Marker

/-- A filled slot as it is written: the token of its key, and the blanks behind the token. -/
@[ext] structure Filled (α : Type) where
  /-- The key of the slot. -/
  key : α
  /-- What stands between the token and whatever follows. -/
  blanks : List Char
  /-- Nothing but blanks stands there. -/
  blank : ∀ b ∈ blanks, isBlank b = true

/-- The characters of a slot; an empty slot has none. -/
def written {α : Type} (token : α → String) : Option (Filled α) → List Char
  | none => []
  | some slot => (token slot.key).toList ++ slot.blanks

/-- A text that opens with the token of some key. -/
def Opens {α : Type} (token : α → String) (text : List Char) : Prop :=
  ∃ key, (token key).toList <+: text

section Slot

variable {α : Type} {keys : List α} {token : α → String} {slot other : Option (Filled α)}
  {text rest more : List Char}

/-- No key is read off a text that opens with no token. -/
theorem takeKey_of_not_opens (absent : ¬ Opens token text) :
    takeKey keys token text = (none, text) := by
  -- A key that fits would have its token at the head of the text.
  unfold takeKey
  split
  · rename_i key after found
    obtain ⟨first, _, fits⟩ := List.exists_of_findSome?_eq_some found
    obtain ⟨remaining, stripped, _⟩ := Option.map_eq_some_iff.1 fits
    -- Whatever is stripped off stands at the head of the text.
    exact absurd ⟨first, remaining, (stripPrefix?_eq_some_iff.1 stripped).symm⟩ absent
  · rfl

/-- What follows some blanks is left when the start of a text is trimmed. -/
theorem trimStart_blanks {blanks : List Char} (blank : ∀ b ∈ blanks, isBlank b = true)
    (flush : trimStart rest = rest) : trimStart (blanks ++ rest) = rest := by
  -- The blanks are dropped, and nothing behind them is.
  rw [trimStart, List.dropWhile_append_of_pos blank]
  exact flush

/-- A key is read off the slot that it fills, and the blanks behind its token are left. -/
theorem takeKey_written (legible : Legible keys token)
    (settled : slot = none → ¬ Opens token rest) :
    ∃ blanks, (∀ b ∈ blanks, isBlank b = true) ∧
      takeKey keys token (written token slot ++ rest) =
        (slot.map Filled.key, blanks ++ rest) := by
  -- A filled slot opens with its token, and an empty one leaves the text as it is.
  cases slot with
  | none => exact ⟨[], by simp, takeKey_of_not_opens (settled rfl)⟩
  | some slot =>
    -- Nothing but the token is taken, so the blanks stay in front of the rest.
    refine ⟨slot.blanks, slot.blank, ?_⟩
    rw [written, List.append_assoc]
    exact takeKey_token legible.apart (legible.listed slot.key) (slot.blanks ++ rest)

/-- A slot is read back as it was written, if it could not have been read differently. -/
theorem takeSlot_written (legible : Legible keys token) (flush : trimStart rest = rest)
    (settled : slot = none → ¬ Opens token rest) :
    takeSlot keys token (written token slot ++ rest) = (slot.map Filled.key, rest) := by
  -- The blanks behind a token go with it, and what follows them starts with none.
  cases slot with
  | none =>
    have read : takeKey keys token (written token none ++ rest) = (none, rest) :=
      takeKey_of_not_opens (settled rfl)
    rw [takeSlot, read, Option.map_none]
  | some slot =>
    rw [takeSlot, written, List.append_assoc, takeKey_token legible.apart (legible.listed slot.key)]
    dsimp only
    rw [trimStart_blanks slot.blank flush, Option.map_some]

/-- Two slots with one key are the same if they are written alike. -/
theorem eq_of_written_eq (same : written token slot = written token other)
    (keys : slot.map Filled.key = other.map Filled.key) : slot = other := by
  -- Alike and with one key, both are empty, or both are filled and differ in their blanks at most.
  cases slot with
  | none => cases other with
    | none => rfl
    | some other => simp at keys
  | some slot => cases other with
    | none => simp at keys
    | some other =>
      have key : slot.key = other.key := by simpa using keys
      rw [written, written, key, List.append_cancel_left_eq] at same
      exact congrArg some (Filled.ext key same)

/-- A slot and what follows it are known from the characters of both. -/
theorem eq_of_written_append (legible : Legible keys token)
    (same : written token slot ++ rest = written token other ++ more)
    (flush : trimStart rest = rest) (flushMore : trimStart more = more)
    (settled : slot = none → ¬ Opens token rest) (settledMore : other = none → ¬ Opens token more) :
    slot = other ∧ rest = more := by
  -- Reading the one text tells both apart.
  have read := takeSlot_written legible flush settled
  rw [same, takeSlot_written legible flushMore settledMore, Prod.mk.injEq] at read
  obtain ⟨keys, rfl⟩ := read
  exact ⟨eq_of_written_eq (List.append_cancel_right same) keys.symm, rfl⟩

/-- Every text starts with a slot, filled or not, behind which no blank is left. -/
theorem exists_written (token : α → String) (flush : trimStart text = text) :
    ∃ slot rest, text = written token slot ++ rest ∧ trimStart rest = rest ∧
      (slot = none → ¬ Opens token rest) := by
  -- The slot is filled exactly if the text opens with some token.
  by_cases opens : Opens token text
  · obtain ⟨key, rest, rfl⟩ := opens
    -- The blanks behind the token go with it.
    refine ⟨some ⟨key, rest.takeWhile isBlank, fun b => List.mem_takeWhile_imp⟩, trimStart rest,
      ?_, trimStart_eq_of_head (List.prefix_refl _), by simp⟩
    rw [written, trimStart, List.append_assoc, List.takeWhile_append_dropWhile]
  · exact ⟨none, text, rfl, flush, fun _ => opens⟩

/-- A slot brings no blank to the start of a text. -/
theorem trimStart_written (legible : Legible keys token) (flush : trimStart rest = rest) :
    trimStart (written token slot ++ rest) = written token slot ++ rest := by
  -- A token starts with no blank.
  cases slot with
  | none => exact flush
  | some slot => exact (((legible.starts slot.key).append slot.blanks).append rest).trimStart_eq

/-- No character of a slot is one of a comment closer. -/
theorem foreign_written (legible : Legible keys token) :
    ∀ c ∈ written token slot, ∀ closer ∈ commentClosers, c ∉ closer := by
  -- A slot is a token and blanks.
  intro c member
  cases slot with
  | none => simp [written] at member
  | some slot =>
    rcases List.mem_append.1 member with letter | space
    · exact legible.foreign slot.key c letter
    · exact not_mem_closer_of_blank (slot.blank c space)

/-- Blanks at the end of a text are no matter for the key that is read off its head. -/
theorem takeKey_trimEnd (legible : Legible keys token) (text : List Char) :
    takeKey keys token (trimEnd text) =
      ((takeKey keys token text).1, trimEnd (takeKey keys token text).2) := by
  -- Whether a token opens the text does not depend on the blanks at its end.
  by_cases opens : Opens token text
  · -- A token ends with no blank, so only what follows it is trimmed.
    obtain ⟨key, rest, rfl⟩ := opens
    rw [(legible.ends key).trimEnd_append, takeKey_token legible.apart (legible.listed key),
      takeKey_token legible.apart (legible.listed key)]
  · -- A head of the text opens with no other token than the text.
    have still : ¬ Opens token (trimEnd text) := fun ⟨key, head⟩ =>
      opens ⟨key, head.trans (trimEnd_prefix_self text)⟩
    rw [takeKey_of_not_opens opens, takeKey_of_not_opens still]

/-- Blanks at the end of a text are no matter for the slot that is read off its head. -/
theorem takeSlot_trimEnd (legible : Legible keys token) (text : List Char) :
    takeSlot keys token (trimEnd text) =
      ((takeSlot keys token text).1, trimEnd (takeSlot keys token text).2) := by
  -- The key is read alike, and trimming at both ends may be done in either order.
  unfold takeSlot
  rw [takeKey_trimEnd legible]
  cases takeKey keys token text with
  | mk key rest =>
    cases key with
    | none => rfl
    | some key => exact congrArg (some key, ·) (trimStart_trimEnd rest)

end Slot

/-- A slot opens with the mark of its key. -/
theorem mark_prefix_written {α : Type} {token : α → String} {slot : Filled α} {first : Key}
    {rest : List Char} (mark : first.mark = token slot.key) :
    first.mark.toList <+: written token (some slot) ++ rest := by
  -- The token is written first.
  rw [mark, written, List.append_assoc]
  exact List.prefix_append _ _

/-- A text that opens with a key of one category opens with none of another. -/
theorem not_opens_of_mark {α : Type} {token : α → String} {text : List Char} (first : Key)
    (embed : α → Key) (marks : ∀ key, (embed key).mark = token key)
    (other : ∀ key, embed key ≠ first) (opens : first.mark.toList <+: text) :
    ¬ Opens token text := by
  -- Two marks at the head of one text are of one key.
  rintro ⟨key, head⟩
  rw [← marks] at head
  exact other key (Key.eq_of_mark_prefix head opens)

end Marker

end TodoMarkers
