import TodoMarkers.Decoration
import TodoMarkers.Proofs.Text.Blank
import TodoMarkers.Proofs.Text.Occurrence

/-! The tokens that collapse: no two of them share a character of any text. -/

namespace TodoMarkers

open Text

/-- The part of a key's written form that collapses. -/
def Key.mark : Key → String
  | .metadata block => if block.takesValue then block.slug ++ ":" else block.token
  | key => key.token

/-- A rule keeps the key that it is made for. -/
@[simp] theorem DecorationRule.ofKey_key (vocabulary : Vocabulary) (mode : DisplayMode)
    (key : Key) : (ofKey vocabulary mode key).key = key := by
  -- Only the keys of blocks are told apart when a rule is made.
  cases key with
  | metadata block => cases block <;> rfl
  | _ => rfl

/-- Neither the glyphs nor the display mode change what collapses. -/
@[simp] theorem DecorationRule.ofKey_token (vocabulary : Vocabulary) (mode : DisplayMode)
    (key : Key) : (ofKey vocabulary mode key).token = key.mark := by
  -- The mode and the glyph choose what is displayed, and no branch touches the token.
  cases key with
  | metadata block => cases block <;> rfl
  | _ => rfl

/-- Every key is listed. -/
theorem Key.mem_all (key : Key) : key ∈ Key.all := by
  -- Every constructor is followed down to the keys it holds.
  cases key with
  | priority key => cases key <;> decide
  | kind key => cases key <;> decide
  | context key => cases key <;> decide
  | metadata key => cases key <;> decide

/-- Whether a character closes a token: a bracket, or the colon before a value. -/
def isCloser (c : Char) : Bool :=
  c == ']' || c == ':'

/-- No slug holds a bracket or a colon. -/
theorem Key.slug_plain (key : Key) :
    ∀ c ∈ key.slug.toList, c ≠ '[' ∧ isCloser c = false := by
  -- The keys are finitely many, so all slugs are checked in one table.
  have table : ∀ key ∈ Key.all,
      key.slug.toList.all (fun c => c != '[' && !isCloser c) = true := by decide
  intro c member
  simpa using List.all_eq_true.1 (table key key.mem_all) c member

/-- A slug holds letters and hyphens only. -/
theorem Key.slug_letters (key : Key) : ∀ c ∈ key.slug.toList, c.isAlpha = true ∨ c = '-' := by
  -- The table of all slugs is checked, as for brackets and colons.
  have table : ∀ key ∈ Key.all, key.slug.toList.all (fun c => c.isAlpha || c == '-') = true := by
    decide
  intro c member
  simpa using List.all_eq_true.1 (table key key.mem_all) c member

/-- A text that ends in the only closing character that it has. -/
def Closed (token : List Char) : Prop :=
  ∃ body closer, token = body ++ [closer] ∧ isCloser closer = true ∧
    ∀ c ∈ body, isCloser c = false

/-- A closed text is not empty. -/
theorem Closed.ne_nil {token : List Char} (closed : Closed token) : token ≠ [] := by
  -- A closed text has its closing character.
  obtain ⟨body, closer, rfl, _⟩ := closed
  simp

/-- What is left of a closed text behind some of its characters is closed. -/
theorem Closed.drop {token : List Char} (closed : Closed token) {count : Nat}
    (within : count < token.length) : Closed (token.drop count) := by
  -- The closing character comes last, so it is left whatever is dropped before it.
  obtain ⟨body, closer, rfl, closes, before⟩ := closed
  rw [List.length_append, List.length_singleton] at within
  refine ⟨body.drop count, closer, ?_, closes,
    fun c member => before c (List.mem_of_mem_drop member)⟩
  rw [List.drop_append_of_le_length (by omega)]

/-- A closed text is no proper head of another. -/
theorem Closed.eq_of_prefix {first second : List Char} (closed : Closed first)
    (other : Closed second) (head : first <+: second) : first = second := by
  -- Each text has its closing character at the end and nowhere else.
  obtain ⟨body, closer, rfl, closes, _⟩ := closed
  obtain ⟨otherBody, otherCloser, rfl, _, before⟩ := other
  obtain ⟨rest, whole⟩ := head
  -- Anything after the first text would leave its closing character inside the second one.
  rcases List.eq_nil_or_concat rest with rfl | ⟨more, last, rfl⟩
  · rw [List.append_nil] at whole
    exact whole
  · rw [List.concat_eq_append, ← List.append_assoc] at whole
    have inside : closer ∈ otherBody := by
      rw [← (List.append_inj' whole rfl).1]
      simp
    rw [before closer inside] at closes
    contradiction

/-- Every token is closed. -/
theorem Key.mark_closed (key : Key) : Closed key.mark.toList := by
  -- The table checks that the last character of a token closes it and that no other does.
  have table : ∀ key ∈ Key.all, key.mark.toList.dropLast.all (fun c => !isCloser c) = true ∧
      key.mark.toList.getLast?.any isCloser = true := by decide
  obtain ⟨before, closes⟩ := table key key.mem_all
  obtain ⟨closer, last, closes⟩ := (Option.any_eq_true _ _).1 closes
  obtain ⟨body, whole⟩ := List.getLast?_eq_some_iff.1 last
  rw [whole, List.dropLast_concat] at before
  exact ⟨body, closer, whole, closes, by simpa using before⟩

/-- No token starts with a blank. -/
theorem Key.mark_startsSolid (key : Key) : StartsSolid key.mark.toList := by
  -- The table checks the first character of every token.
  have table : ∀ key ∈ Key.all, key.mark.toList.head?.any (fun c => !isBlank c) = true := by decide
  obtain ⟨c, head, solid⟩ := (Option.any_eq_true _ _).1 (table key key.mem_all)
  obtain ⟨rest, whole⟩ := List.head?_eq_some_iff.1 head
  exact ⟨c, rest, whole, by simpa using solid⟩

/-- No token is the end of another. -/
theorem Key.eq_of_mark_suffix {first second : Key}
    (ending : first.mark.toList <:+ second.mark.toList) : first = second := by
  -- All pairs of keys are checked, which is what makes the search find one key only.
  have table : ∀ first ∈ Key.all, ∀ second ∈ Key.all,
      first.mark.toList.isSuffixOf second.mark.toList = true → first = second := by
    decide +kernel
  exact table first first.mem_all second second.mem_all (List.isSuffixOf_iff_suffix.2 ending)

/-- Two tokens that share a character of a text are one token at one place. -/
theorem Key.eq_of_overlap {first second : Key} {text : List Char} {place other : Nat}
    (occurs : OccursAt first.mark.toList text place)
    (meets : OccursAt second.mark.toList text other) (order : place ≤ other)
    (inside : other < place + first.mark.toList.length) : place = other ∧ first = second := by
  -- From the later place on, the text starts both with the second token and with the rest of the
  -- first, and both of these are closed.
  have rest : first.mark.toList.drop (other - place) <+: text.drop other := by
    obtain ⟨tail, whole⟩ := occurs
    refine ⟨tail, ?_⟩
    rw [← List.drop_append_of_le_length (by omega), whole, List.drop_drop,
      show place + (other - place) = other by omega]
  have closed := first.mark_closed.drop (show other - place < _ by omega)
  have same : first.mark.toList.drop (other - place) = second.mark.toList := by
    rcases List.prefix_or_prefix_of_prefix rest meets with head | head
    · exact closed.eq_of_prefix second.mark_closed head
    · exact (second.mark_closed.eq_of_prefix closed head).symm
  have equal : second = first :=
    Key.eq_of_mark_suffix (same ▸ List.drop_suffix _ _)
  have sizes := congrArg List.length same
  rw [List.length_drop, equal] at sizes
  exact ⟨by omega, equal.symm⟩

/-- Two tokens that stand at the head of one text are the same. -/
theorem Key.eq_of_mark_prefix {first second : Key} {text : List Char}
    (opens : first.mark.toList <+: text) (other : second.mark.toList <+: text) :
    first = second := by
  -- Two tokens at the head of a text overlap, so one of them is the other.
  have positive := List.length_pos_iff.2 first.mark_closed.ne_nil
  have here : OccursAt first.mark.toList text 0 := opens
  have there : OccursAt second.mark.toList text 0 := other
  exact (Key.eq_of_overlap here there (Nat.le_refl 0) (by omega)).2

/-- A token never overlaps itself. -/
theorem Key.mark_neverOverlapsItself (key : Key) : NeverOverlapsItself key.mark.toList := by
  -- Two overlapping occurrences of a token are at one place.
  intro text first second occurs meets order
  rcases Nat.lt_or_ge second (first + key.mark.toList.length) with inside | apart
  · have same := (Key.eq_of_overlap occurs meets (Nat.le_of_lt order) inside).1
    omega
  · exact apart

end TodoMarkers
