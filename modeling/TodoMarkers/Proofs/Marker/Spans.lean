import TodoMarkers.Proofs.Marker.Line

/-! The search for markers over a whole document: what it passes, what it covers, and how a keyword
waits for content that may stand on a later line. -/

namespace TodoMarkers.Marker

open Text

/-- Whether a span has any content but blanks. -/
def Span.isVisible (span : Span) : Bool :=
  span.content.any fun c => !isBlank c

/-- The spans that have any content but blanks. -/
def visible (spans : List Span) : List Span :=
  spans.filter Span.isVisible

/-- A span that shows nothing is left out. -/
theorem visible_cons_blank {span : Span} (blank : ∀ c ∈ span.content, isBlank c = true)
    (rest : List Span) : visible (span :: rest) = visible rest := by
  -- The filter looks for a character that is no blank.
  refine List.filter_cons_of_neg ?_
  simpa [Span.isVisible] using blank

/-- A span whose content starts with a body stays. -/
theorem visible_cons_body {c : Char} (body : isBlank c = false) (start : Nat)
    (content : List Char) (rest : List Span) :
    visible (⟨start, c :: content⟩ :: rest) = ⟨start, c :: content⟩ :: visible rest := by
  -- The first character of the content is one to show.
  refine List.filter_cons_of_pos ?_
  simp [Span.isVisible, body]

/-- The search passes a character that the last marker covers. -/
theorem spansFrom_cons_succ (place covered : Nat) (c : Char) (rest : List Char) :
    spansFrom place (covered + 1) (c :: rest) = spansFrom (place + 1) covered rest :=
  rfl

/-- At a character that is not covered a marker may open, whose span then comes first. -/
theorem spansFrom_cons_zero (place : Nat) (c : Char) (rest : List Char) :
    spansFrom place 0 (c :: rest) =
      match openingAt? (c :: rest) with
      | some opening =>
        ⟨place + opening.lead.length, opening.content⟩ ::
          spansFrom (place + 1) (opening.lead.length + opening.content.length - 1) rest
      | none => spansFrom (place + 1) 0 rest :=
  rfl

/-- The search passes all characters that the last marker covers. -/
theorem spansFrom_covered (place : Nat) (covered rest : List Char) :
    spansFrom place covered.length (covered ++ rest) =
      spansFrom (place + covered.length) 0 rest := by
  -- Induction on what is covered, one character of which is passed at a time.
  induction covered generalizing place with
  | nil => rfl
  | cons c covered ih =>
    -- One character more is passed, and one less is covered.
    rw [List.length_cons, List.cons_append, spansFrom_cons_succ, ih,
      show place + 1 + covered.length = place + (covered.length + 1) by omega]

/-- The search passes a character where no marker opens. -/
theorem spansFrom_step {c : Char} {rest : List Char} (absent : openingAt? (c :: rest) = none)
    (place : Nat) : spansFrom place 0 (c :: rest) = spansFrom (place + 1) 0 rest := by
  -- Nothing opens, so nothing is covered either.
  rw [spansFrom_cons_zero, absent]

/-- Where a marker opens, the search goes on behind its content. -/
theorem spansFrom_opening {text lead content tail : List Char}
    (found : openingAt? text = some ⟨lead, content⟩) (whole : text = lead ++ content ++ tail)
    (some_ : lead ≠ []) (place : Nat) :
    spansFrom place 0 text =
      ⟨place + lead.length, content⟩ ::
        spansFrom (place + lead.length + content.length) 0 tail := by
  -- The span is reported at once, and the search passes what it covers.
  cases lead with
  | nil => contradiction
  | cons c lead =>
    -- All of the lead and the content but the first character is covered.
    subst whole
    have covered := spansFrom_covered (place + 1) (lead ++ content) tail
    rw [List.length_append] at covered
    rw [List.cons_append, List.cons_append] at found ⊢
    rw [spansFrom_cons_zero, found]
    dsimp only
    rw [List.length_cons, show lead.length + 1 + content.length - 1 =
      lead.length + content.length by omega, covered,
      show place + 1 + (lead.length + content.length) =
        place + (lead.length + 1) + content.length by omega]

/-- A text without the first letter of a keyword has no spans. -/
theorem spansFrom_eq_nil {text : List Char} (other : ∀ c ∈ text, c.toLower ≠ 't')
    (place covered : Nat) : spansFrom place covered text = [] := by
  -- Each character is either covered or passed.
  induction text generalizing place covered with
  | nil => cases covered <;> rfl
  | cons c rest ih =>
    have tail := fun d member => other d (List.mem_cons_of_mem c member)
    cases covered with
    | zero =>
      rw [spansFrom_step (openingAt?_eq_none
        (splitKeyword?_eq_none (other c List.mem_cons_self) rest))]
      exact ih tail _ _
    | succ covered =>
      rw [spansFrom_cons_succ]
      exact ih tail _ _

/-- The spans of a text that starts while a keyword waits for its content: the first line that has
a body gives that content, and the search goes on behind it. -/
def waitingFrom : Nat → List Char → List Span
  | _, [] => []
  | place, c :: rest =>
    if isBlank c then waitingFrom (place + 1) rest
    else
      let content := (c :: rest).takeWhile (· != '\n')
      ⟨place, content⟩ ::
        spansFrom (place + content.length) 0 ((c :: rest).dropWhile (· != '\n'))

/-- Blanks keep a keyword waiting. -/
theorem waitingFrom_blanks {blanks : List Char} (all : ∀ b ∈ blanks, isBlank b = true)
    (place : Nat) (rest : List Char) :
    waitingFrom place (blanks ++ rest) = waitingFrom (place + blanks.length) rest := by
  -- Induction on the blanks, each of which is passed.
  induction blanks generalizing place with
  | nil => rfl
  | cons b blanks ih =>
    obtain ⟨blank, all⟩ := List.forall_mem_cons.1 all
    rw [List.cons_append, waitingFrom, if_pos blank, ih all, List.length_cons,
      show place + 1 + blanks.length = place + (blanks.length + 1) by omega]

/-- A keyword waits for the first body behind it. -/
theorem visible_spansFrom_keyword {text word rest : List Char}
    (found : splitKeyword? text = some (word, rest))
    (start : ∀ c, rest.head? = some c → isBlank c = true) (place : Nat) :
    visible (spansFrom place 0 text) = visible (waitingFrom (place + word.length) rest) := by
  -- Behind the keyword there are blanks alone, or blanks and a body.
  obtain ⟨rfl, named, _⟩ := splitKeyword?_eq_some_iff.1 found
  obtain ⟨first, more, rfl, other⟩ := named.eq_cons
  rcases blank_or_body rest with all | ⟨blanks, c, body, rfl, before, solid⟩
  · -- Whatever blank the keyword finds is left out, and no other keyword follows.
    have waits := waitingFrom_blanks all (place + (first :: more).length) []
    rw [List.append_nil, waitingFrom] at waits
    have quiet := toLower_ne_of_keyword_tail other all
    rw [List.cons_append] at found ⊢
    rw [waits, spansFrom_cons_zero]
    split
    · rename_i opening opens
      rw [spansFrom_eq_nil quiet]
      rw [openingAt?_of_keyword found, Option.map_eq_some_iff] at opens
      obtain ⟨split, content, rfl⟩ := opens
      exact visible_cons_blank (splitContent?_all_blank all content) []
    · rw [spansFrom_eq_nil quiet]
  · cases blanks with
    | nil =>
      -- The body would follow the keyword at once.
      have blank := start c rfl
      rw [solid] at blank
      exact absurd blank Bool.false_ne_true
    | cons b blanks =>
      have opens : openingAt? (first :: more ++ (b :: blanks ++ c :: body)) =
          some ⟨first :: more ++ b :: blanks, (c :: body).takeWhile (· != '\n')⟩ := by
        rw [openingAt?_of_keyword found, splitContent?_body before (by simp) solid,
          Option.map_some]
      have whole : first :: more ++ (b :: blanks ++ c :: body) =
          first :: more ++ b :: blanks ++ (c :: body).takeWhile (· != '\n') ++
            (c :: body).dropWhile (· != '\n') := by
        rw [List.append_assoc, List.takeWhile_append_dropWhile, List.append_assoc]
      rw [spansFrom_opening opens whole (by simp), waitingFrom_blanks before, waitingFrom,
        if_neg (by simp [solid]), List.length_append, ← Nat.add_assoc]

end TodoMarkers.Marker
