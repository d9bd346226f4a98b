import Mathlib.Data.List.Basic
import TodoMarkers.Text.Occurrence

/-! The search for a token finds occurrences only, in order, and all those that cannot overlap. -/

namespace TodoMarkers.Text

/-- What follows a prefix is what has to be appended to it. -/
theorem stripPrefix?_eq_some_iff {lead text rest : List Char} :
    stripPrefix? lead text = some rest ↔ text = lead ++ rest := by
  -- The worker compares one character of both texts at a time.
  induction lead generalizing text with
  | nil => simp [stripPrefix?, eq_comm]
  | cons c lead ih =>
    cases text with
    | nil => simp [stripPrefix?]
    | cons d text =>
      by_cases same : c = d
      · simp [stripPrefix?, same, ih]
      · simp [stripPrefix?, same, Ne.symm same]

/-- What precedes a suffix is what it has to be appended to. -/
theorem stripSuffix?_eq_some_iff {tail text lead : List Char} :
    stripSuffix? tail text = some lead ↔ text = lead ++ tail := by
  -- A suffix is a prefix of the text in reverse.
  rw [stripSuffix?, Option.map_eq_some_iff]
  constructor
  · intro split
    obtain ⟨rest, found, rfl⟩ := split
    have whole := List.reverse_eq_iff.1 (stripPrefix?_eq_some_iff.1 found)
    rw [whole, List.reverse_append, List.reverse_reverse]
  · rintro rfl
    exact ⟨lead.reverse, stripPrefix?_eq_some_iff.2 List.reverse_append, List.reverse_reverse lead⟩

/-- The first separator of a text can be told from what stands before and after it. -/
theorem eq_of_first_separator {separates : Char → Bool} {first second rest more : List Char}
    {c d : Char} (before : ∀ x ∈ first, separates x = false)
    (other : ∀ x ∈ second, separates x = false) (here : separates c = true)
    (there : separates d = true) (same : first ++ c :: rest = second ++ d :: more) :
    first = second ∧ c = d ∧ rest = more := by
  -- Both texts have the same characters up to their first separator.
  have upTo {part tail : List Char} {x : Char} (free : ∀ y ∈ part, separates y = false)
      (stop : separates x = true) : (part ++ x :: tail).takeWhile (!separates ·) = part := by
    rw [List.takeWhile_append_of_pos fun y member => by simp [free y member],
      List.takeWhile_cons_of_neg (by simp [stop]), List.append_nil]
  have parts : first = second := by
    rw [← upTo before here, same, upTo other there]
  rw [parts, List.append_cancel_left_eq, List.cons.injEq] at same
  exact ⟨parts, same⟩

/-- A text is read up to the first occurrence of a character. -/
theorem takeWhile_first_occurrence {part : List Char} {c : Char} (free : c ∉ part)
    (rest : List Char) : (part ++ c :: rest).takeWhile (· != c) = part := by
  -- Every character before the first occurrence is another one.
  rw [List.takeWhile_append_of_pos fun x member => by
    simpa using fun same : x = c => free (same ▸ member)]
  simp

/-- From its first occurrence on a character is left with whatever follows it. -/
theorem dropWhile_first_occurrence {part : List Char} {c : Char} (free : c ∉ part)
    (rest : List Char) : (part ++ c :: rest).dropWhile (· != c) = c :: rest := by
  -- Every character before the first occurrence is another one.
  rw [List.dropWhile_append_of_pos fun x member => by
    simpa using fun same : x = c => free (same ▸ member)]
  simp

/-- The first occurrence of a character can be told from what stands before and after it. -/
theorem eq_of_first_occurrence {first second rest more : List Char} {c : Char} (free : c ∉ first)
    (other : c ∉ second) (same : first ++ c :: rest = second ++ c :: more) :
    first = second ∧ rest = more := by
  -- Both first parts are what is read up to the character.
  have parts : first = second := by
    rw [← takeWhile_first_occurrence free rest, same, takeWhile_first_occurrence other more]
  rw [parts, List.append_cancel_left_eq, List.cons.injEq] at same
  exact ⟨parts, same.2⟩

/-- The token stands in the text at a place. -/
def OccursAt (token text : List Char) (place : Nat) : Prop :=
  token <+: text.drop place

/-- An occurrence of a token that is not empty lies within the text. -/
theorem OccursAt.stop_le {token text : List Char} {place : Nat} (occurs : OccursAt token text place)
    (nonempty : token ≠ []) : place + token.length ≤ text.length := by
  -- The text from the place on is at least as long as the token, hence not empty.
  have room := occurs.length_le
  have positive := List.length_pos_iff.2 nonempty
  rw [List.length_drop] at room
  omega

/-- The characters at an occurrence are the token's. -/
theorem OccursAt.extract {token text : List Char} {place : Nat}
    (occurs : OccursAt token text place) : (text.drop place).take token.length = token := by
  -- A prefix is what as many characters of the text are.
  exact (List.prefix_iff_eq_take.1 occurs).symm

/-- An occurrence in a part of a text is one in the whole text. -/
theorem OccursAt.of_part {token part text : List Char} {start place : Nat}
    (within : part <+: text.drop start) (occurs : OccursAt token part place) :
    OccursAt token text (start + place) := by
  -- Dropping the same number of characters keeps the one text at the head of the other.
  obtain ⟨tail, whole⟩ := within
  unfold OccursAt
  rw [← List.drop_drop, ← whole, List.drop_append]
  exact occurs.trans (List.prefix_append _ _)

/-- Two occurrences of the token at different places never share a character. -/
def NeverOverlapsItself (token : List Char) : Prop :=
  ∀ text first second, OccursAt token text first → OccursAt token text second →
    first < second → first + token.length ≤ second

/-- Every place that the search reports holds the token, past the characters still covered. -/
theorem occurrencesFrom_sound {token text : List Char} {place covered found : Nat}
    (member : found ∈ occurrencesFrom token place covered text) :
    ∃ offset, found = place + offset ∧ covered ≤ offset ∧ OccursAt token text offset := by
  -- Each step of the search leaves one character behind.
  induction text generalizing place covered with
  | nil => cases covered <;> simp [occurrencesFrom] at member
  | cons c rest ih =>
    have later : ∀ {covered}, found ∈ occurrencesFrom token (place + 1) covered rest →
        ∃ offset, found = place + offset ∧ covered + 1 ≤ offset ∧
          OccursAt token (c :: rest) offset := by
      intro covered member
      obtain ⟨offset, same, past, occurs⟩ := ih member
      exact ⟨offset + 1, by omega, by omega, occurs⟩
    cases covered with
    | succ covered => exact later (by simpa only [occurrencesFrom] using member)
    | zero =>
      simp only [occurrencesFrom] at member
      split at member
      · rename_i here
        rcases List.mem_cons.1 member with same | member
        · exact ⟨0, same, Nat.le_refl 0, List.isPrefixOf_iff_prefix.1 here⟩
        · obtain ⟨offset, same, _, occurs⟩ := later member
          exact ⟨offset, same, Nat.zero_le offset, occurs⟩
      · obtain ⟨offset, same, _, occurs⟩ := later member
        exact ⟨offset, same, Nat.zero_le offset, occurs⟩

/-- The search reports every occurrence, if the characters still covered start none. -/
theorem occurrencesFrom_complete {token text : List Char} {place covered offset : Nat}
    (nonempty : token ≠ []) (solid : NeverOverlapsItself token)
    (clear : ∀ start < covered, ¬ OccursAt token text start)
    (occurs : OccursAt token text offset) :
    place + offset ∈ occurrencesFrom token place covered text := by
  -- After an occurrence the covered characters are its own, where no other one can start.
  induction text generalizing place covered offset with
  | nil =>
    have room := occurs.stop_le nonempty
    have positive := List.length_pos_iff.2 nonempty
    simp only [List.length_nil] at room
    omega
  | cons c rest ih =>
    cases covered with
    | succ covered =>
      cases offset with
      | zero => exact absurd occurs (clear 0 (by omega))
      | succ offset =>
        have found := @ih (place + 1) covered offset
          (fun start small => clear (start + 1) (by omega)) occurs
        rw [occurrencesFrom, show place + (offset + 1) = place + 1 + offset by omega]
        exact found
    | zero =>
      rw [occurrencesFrom]
      by_cases here : token.isPrefixOf (c :: rest) = true
      · rw [if_pos here]
        have opening : OccursAt token (c :: rest) 0 := List.isPrefixOf_iff_prefix.1 here
        cases offset with
        | zero => exact List.mem_cons_self
        | succ offset =>
          have found := @ih (place + 1) (token.length - 1) offset
            (fun start small other => by
              have := solid (c :: rest) 0 (start + 1) opening other (by omega)
              omega) occurs
          rw [show place + (offset + 1) = place + 1 + offset by omega]
          exact List.mem_cons_of_mem _ found
      · rw [if_neg here]
        cases offset with
        | zero => exact absurd (List.isPrefixOf_iff_prefix.2 occurs) here
        | succ offset =>
          have found := @ih (place + 1) 0 offset
            (fun start small => absurd small (Nat.not_lt_zero start)) occurs
          rw [show place + (offset + 1) = place + 1 + offset by omega]
          exact found

/-- The search reports places in strictly increasing order. -/
theorem occurrencesFrom_increasing (token text : List Char) (place covered : Nat) :
    (occurrencesFrom token place covered text).Pairwise (· < ·) := by
  -- Whatever the rest of the search reports lies past the current place.
  induction text generalizing place covered with
  | nil => cases covered <;> simp [occurrencesFrom]
  | cons c rest ih =>
    cases covered with
    | succ covered => simpa only [occurrencesFrom] using ih (place + 1) covered
    | zero =>
      rw [occurrencesFrom]
      split
      · refine List.pairwise_cons.2 ⟨fun found member => ?_, ih _ _⟩
        obtain ⟨offset, same, _⟩ := occurrencesFrom_sound member
        omega
      · exact ih _ _

/-- Every reported place holds the token. -/
theorem occursAt_of_mem_occurrences {token text : List Char} {place : Nat}
    (member : place ∈ occurrences token text) : OccursAt token text place := by
  -- The search starts at the place zero, so its places are offsets.
  obtain ⟨offset, same, _, occurs⟩ := occurrencesFrom_sound member
  rwa [same, Nat.zero_add]

/-- The reported places are exactly the occurrences of a token that never overlaps itself. -/
theorem mem_occurrences_iff {token text : List Char} {place : Nat} (nonempty : token ≠ [])
    (solid : NeverOverlapsItself token) :
    place ∈ occurrences token text ↔ OccursAt token text place := by
  -- The search reports no other places, and it misses none of a token that cannot overlap itself.
  refine ⟨occursAt_of_mem_occurrences, fun occurs => ?_⟩
  -- Nothing is covered before the search begins.
  have found : 0 + place ∈ occurrencesFrom token 0 0 text :=
    occurrencesFrom_complete nonempty solid
      (fun start small => absurd small (Nat.not_lt_zero start)) occurs
  rwa [Nat.zero_add] at found

/-- The reported places are in strictly increasing order. -/
theorem occurrences_increasing (token text : List Char) :
    (occurrences token text).Pairwise (· < ·) :=
  -- The search goes from the left to the right.
  occurrencesFrom_increasing token text 0 0

/-- An occurrence of a token lies on one side of a separator that the token does not hold. -/
theorem occurrence_beside_separator {token before after inside outside : List Char} {c : Char}
    (free : c ∉ token) (same : before ++ c :: after = inside ++ token ++ outside) :
    (∃ more, before = inside ++ token ++ more) ∨ ∃ less, after = less ++ token ++ outside := by
  -- The two ways to split the text are compared; one split is at or behind the other.
  rcases List.append_eq_append_iff.1 same with ⟨reach, whole, rest⟩ | ⟨more, whole, _⟩
  · cases reach with
    | nil => exact .inl ⟨[], by simpa using whole.symm⟩
    | cons d reach =>
      obtain ⟨rfl, rfl⟩ := List.cons.inj rest
      -- The separator precedes the token, because it is not one of its characters.
      rcases List.append_eq_append_iff.1 whole with ⟨lead, _, tail⟩ | ⟨lead, _, tail⟩
      · exact absurd (tail ▸ List.mem_append_right lead List.mem_cons_self) free
      · cases lead with
        | nil => exact absurd (List.mem_of_mem_head? (congrArg List.head? tail.symm)) free
        | cons d lead =>
          obtain ⟨rfl, rfl⟩ := List.cons.inj tail
          exact .inr ⟨lead, rfl⟩
  · exact .inl ⟨more, whole⟩

/-- Something of a text stands behind an occurrence of a token. -/
def GoesOnBehind (token text : List Char) : Prop :=
  ∃ inside outside, text = inside ++ token ++ outside ∧ outside ≠ []

/-- A token occurs on one side of a separator that it does not hold, or not at all. -/
theorem occurs_append_separator_iff {token before after : List Char} {c : Char} (free : c ∉ token) :
    token <:+: before ++ c :: after ↔ token <:+: before ∨ token <:+: after := by
  -- An occurrence cannot hold the separator, so one part holds all of it.
  constructor
  · rintro ⟨inside, outside, whole⟩
    rcases occurrence_beside_separator free whole.symm with ⟨more, left⟩ | ⟨less, right⟩
    · exact .inl ⟨inside, more, left.symm⟩
    · exact .inr ⟨less, outside, right.symm⟩
  · rintro (left | right)
    · exact left.trans (List.prefix_append before _).isInfix
    · exact right.trans ((List.suffix_cons c after).trans (List.suffix_append before _)).isInfix

/-- A text that holds the token behind a separator only goes on behind it as what follows does. -/
theorem goesOnBehind_append_separator_iff {token before after : List Char} {c : Char}
    (free : c ∉ token) (absent : ¬ token <:+: before) :
    GoesOnBehind token (before ++ c :: after) ↔ GoesOnBehind token after := by
  -- No occurrence lies in the first part, so it lies in the second one with what follows.
  constructor
  · rintro ⟨inside, outside, whole, some_⟩
    rcases occurrence_beside_separator free whole with ⟨more, left⟩ | ⟨less, right⟩
    · exact absurd ⟨inside, more, left.symm⟩ absent
    · exact ⟨less, outside, right, some_⟩
  · rintro ⟨inside, outside, rfl, some_⟩
    exact ⟨before ++ c :: inside, outside, by simp only [List.append_assoc, List.cons_append],
      some_⟩

/-- A text that ends in another character goes on behind each occurrence of a token. -/
theorem goesOnBehind_iff_occurs {token text : List Char} {c : Char} (free : c ∉ token)
    (ending : text.getLast? = some c) (some_ : token ≠ []) :
    GoesOnBehind token text ↔ token <:+: text := by
  -- Something always follows, because the token does not end the text.
  constructor
  · rintro ⟨inside, outside, whole, _⟩
    exact ⟨inside, outside, whole.symm⟩
  · rintro ⟨inside, outside, whole⟩
    refine ⟨inside, outside, whole.symm, ?_⟩
    rintro rfl
    -- The last character would be one of the token.
    rw [List.append_nil] at whole
    rw [← whole, List.getLast?_append_of_ne_nil _ some_] at ending
    exact free (List.mem_of_getLast? ending)

end TodoMarkers.Text
