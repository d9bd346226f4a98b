import TodoMarkers.Marker.Line
import TodoMarkers.Proofs.Text.Blank
import TodoMarkers.Proofs.Text.Lines

/-! What opens a marker: its keyword, the blanks after it, and the content that these lead to. -/

namespace TodoMarkers.Marker

open Text

/-- A keyword in any case, with or without its colon. -/
def IsKeyword (word : List Char) : Prop :=
  ∃ letters colon, word = letters ++ colon ∧ letters.map Char.toLower = keyword ∧
    (colon = [] ∨ colon = [':'])

/-- No character of a keyword is a blank. -/
theorem IsKeyword.not_blank {word : List Char} (named : IsKeyword word) {c : Char}
    (member : c ∈ word) : isBlank c = false := by
  -- A keyword is letters and perhaps a colon, and neither is a blank.
  obtain ⟨letters, colon, rfl, lower, ending⟩ := named
  rcases List.mem_append.1 member with letter | last
  · -- Blanks have no case, so it is enough to look at the letters in lower case.
    have solid : ∀ d ∈ keyword, isBlank d = false := by simp [keyword, isBlank]
    rw [← isBlank_toLower]
    exact solid _ (lower ▸ List.mem_map_of_mem letter)
  · rcases ending with none | one
    · simp [none] at last
    · obtain rfl : c = ':' := by simpa [one] using last
      rfl

/-- A keyword has a first character, and does not start anew after it. -/
theorem IsKeyword.eq_cons {word : List Char} (named : IsKeyword word) :
    ∃ first more, word = first :: more ∧ ∀ c ∈ more, c.toLower ≠ 't' := by
  -- Behind the first letter come three others and perhaps a colon.
  obtain ⟨letters, colon, rfl, lower, ending⟩ := named
  cases letters with
  | nil => simp [keyword] at lower
  | cons first letters =>
    rw [List.map_cons, keyword, List.cons.injEq] at lower
    refine ⟨first, letters ++ colon, rfl, fun c member => ?_⟩
    rcases List.mem_append.1 member with letter | last
    · have other : ∀ d ∈ ['o', 'd', 'o'], d ≠ 't' := by simp
      exact other _ (lower.2 ▸ List.mem_map_of_mem letter)
    · rcases ending with none | one
      · simp [none] at last
      · obtain rfl : c = ':' := by simpa [one] using last
        decide

/-- A keyword is split off exactly where one stands, together with a colon that follows it. -/
theorem splitKeyword?_eq_some_iff {text word rest : List Char} :
    splitKeyword? text = some (word, rest) ↔ text = word ++ rest ∧ IsKeyword word ∧
      (word.getLast? = some ':' ∨ rest.head? ≠ some ':') := by
  -- The first four characters are compared in lower case, and then a colon is looked for.
  constructor
  · intro found
    unfold splitKeyword? at found
    dsimp only at found
    split at found
    · rename_i lower
      have whole := List.take_append_drop keyword.length text
      split at found
      · -- The colon joins the four letters before it.
        rename_i after colon
        obtain ⟨rfl, rfl⟩ : text.take keyword.length ++ [':'] = word ∧ after = rest := by
          simpa using found
        rw [colon] at whole
        exact ⟨by rw [List.append_assoc]; exact whole.symm, ⟨_, _, rfl, lower, .inr rfl⟩,
          .inl (by simp)⟩
      · rename_i plain
        obtain ⟨rfl, rfl⟩ : text.take keyword.length = word ∧ text.drop keyword.length = rest := by
          simpa using found
        refine ⟨whole.symm, ⟨_, [], (List.append_nil _).symm, lower, .inl rfl⟩, .inr ?_⟩
        intro colon
        obtain ⟨after, same⟩ := List.head?_eq_some_iff.1 colon
        exact plain after same
    · simp at found
  · intro split
    obtain ⟨rfl, ⟨letters, colon, rfl, lower, ending⟩, greedy⟩ := split
    have size : letters.length = keyword.length := by rw [← lower, List.length_map]
    have head : (letters ++ colon ++ rest).take keyword.length = letters := by
      rw [List.append_assoc, ← size, List.take_left]
    have tail : (letters ++ colon ++ rest).drop keyword.length = colon ++ rest := by
      rw [List.append_assoc, ← size, List.drop_left]
    unfold splitKeyword?
    dsimp only
    rw [head, tail, if_pos lower]
    rcases ending with rfl | rfl
    · -- The four letters do not end in a colon, so none follows them.
      have plain : rest.head? ≠ some ':' := by
        rcases greedy with last | plain
        · rw [List.append_nil] at last
          have colon : ':'.toLower ∈ letters.map Char.toLower :=
            List.mem_map_of_mem (List.mem_of_getLast? last)
          rw [lower] at colon
          simp [keyword] at colon
        · exact plain
      rw [List.append_nil, List.nil_append]
      split
      · simp at plain
      · rfl
    · rfl

/-- A keyword on a line stands there whatever follows the line, and no keyword leaves it. -/
theorem splitKeyword?_append (line : List Char) {tail : List Char} (follows : FollowsLine tail) :
    splitKeyword? (line ++ tail) =
      (splitKeyword? line).map fun split => (split.1, split.2 ++ tail) := by
  -- A keyword cannot hold a newline, so it ends on the line on which it starts.
  cases here : splitKeyword? line with
  | some split =>
    obtain ⟨word, rest⟩ := split
    obtain ⟨rfl, named, greedy⟩ := splitKeyword?_eq_some_iff.1 here
    refine splitKeyword?_eq_some_iff.2 ⟨by rw [List.append_assoc], named, ?_⟩
    rcases greedy with last | plain
    · exact .inl last
    · refine .inr fun colon => ?_
      cases rest with
      | nil =>
        -- Only a newline can follow the line.
        obtain ⟨after, starts⟩ := List.head?_eq_some_iff.1 colon
        have newline := follows.head_eq starts
        contradiction
      | cons c rest => exact plain colon
  | none =>
    rw [Option.map_none, Option.eq_none_iff_forall_ne_some]
    intro split found
    obtain ⟨word, rest⟩ := split
    obtain ⟨whole, named, greedy⟩ := splitKeyword?_eq_some_iff.1 found
    rcases List.append_eq_append_iff.1 whole with ⟨beyond, same, starts⟩ | ⟨after, same, starts⟩
    · cases beyond with
      | nil =>
        -- The keyword ends with the line.
        have found : splitKeyword? line = some (word, []) :=
          splitKeyword?_eq_some_iff.2 ⟨by simpa using same.symm, named, .inr (by simp)⟩
        rw [here] at found
        contradiction
      | cons c beyond =>
        -- A keyword that leaves the line would hold a newline.
        have newline := follows.head_eq starts
        have solid := named.not_blank (same ▸ List.mem_append_right line List.mem_cons_self)
        exact absurd newline (ne_newline_of_not_blank solid)
    · have found : splitKeyword? line = some (word, after) := by
        refine splitKeyword?_eq_some_iff.2 ⟨same, named, ?_⟩
        rcases greedy with last | plain
        · exact .inl last
        · refine .inr fun colon => plain ?_
          obtain ⟨more, head⟩ := List.head?_eq_some_iff.1 colon
          rw [starts, head, List.cons_append, List.head?_cons]
      rw [here] at found
      contradiction

/-- Without its first letter there is no keyword. -/
theorem splitKeyword?_eq_none {c : Char} (other : c.toLower ≠ 't') (rest : List Char) :
    splitKeyword? (c :: rest) = none := by
  -- The first letter of a keyword would be the given character.
  rw [Option.eq_none_iff_forall_ne_some]
  intro split found
  obtain ⟨word, after⟩ := split
  obtain ⟨whole, ⟨letters, colon, rfl, lower, _⟩, _⟩ := splitKeyword?_eq_some_iff.1 found
  cases letters with
  | nil => simp [keyword] at lower
  | cons first letters =>
    rw [List.map_cons, keyword, List.cons.injEq] at lower
    rw [List.cons_append, List.cons_append, List.cons.injEq] at whole
    exact other (whole.1 ▸ lower.1)

/-- No content follows where no blank does. -/
theorem splitContent?_solid {c : Char} (solid : isBlank c = false) (rest : List Char) :
    splitContent? (c :: rest) = none := by
  -- At least one blank is needed.
  simp [splitContent?, solid]

/-- Content that is not blank reaches from the blanks to the end of its line. -/
theorem splitContent?_body {blanks rest : List Char} {c : Char}
    (before : ∀ b ∈ blanks, isBlank b = true) (some_ : blanks ≠ []) (body : isBlank c = false) :
    splitContent? (blanks ++ c :: rest) =
      some (blanks, (c :: rest).takeWhile (· != '\n')) := by
  -- The blanks are taken up to the body, and the body up to the newline.
  unfold splitContent?
  rw [takeWhile_blank_body before body, dropWhile_blank_body before body]
  cases blanks with
  | nil => exact absurd rfl some_
  | cons b blanks => rfl

/-- On the last line of a text all that follows the blanks is content. -/
theorem splitContent?_line {blanks rest : List Char} {c : Char}
    (before : ∀ b ∈ blanks, isBlank b = true) (some_ : blanks ≠ []) (body : isBlank c = false)
    (free : '\n' ∉ c :: rest) : splitContent? (blanks ++ c :: rest) = some (blanks, c :: rest) := by
  -- Nothing on the line ends the content before the line does.
  have whole := takeWhile_line free (.inl rfl)
  rw [List.append_nil] at whole
  rw [splitContent?_body before some_ body, whole]

/-- Where nothing but blanks follows, the content is one of them, and newlines alone come after. -/
theorem splitContent?_blank {text lead content : List Char}
    (all : ∀ c ∈ text, isBlank c = true) (found : splitContent? text = some (lead, content)) :
    ∃ last after, content = [last] ∧ text = lead ++ last :: after ∧ ∀ c ∈ after, c = '\n' := by
  -- All of the text is passed as blanks, so the last one before the newlines is given back.
  have blanks : text.takeWhile isBlank = text := List.takeWhile_eq_self_iff.2 all
  have body : text.dropWhile isBlank = [] := List.dropWhile_eq_nil_iff.2 all
  cases text with
  | nil => simp [splitContent?] at found
  | cons c rest =>
    simp only [splitContent?, blanks, body] at found
    split at found
    · -- The newlines that were passed from the end come after the content.
      rename_i last before earlier reversed
      obtain ⟨rfl, rfl⟩ : (before :: earlier).reverse = lead ∧ [last] = content := by
        simpa using found
      refine ⟨last, ((c :: rest).reverse.takeWhile (· == '\n')).reverse, rfl, ?_,
        fun d member => ?_⟩
      · have whole := congrArg List.reverse (List.takeWhile_append_dropWhile
          (p := (· == '\n')) (l := (c :: rest).reverse))
        rw [reversed, List.reverse_append, List.reverse_reverse, List.reverse_cons,
          List.append_assoc] at whole
        exact whole.symm
      · have newline := List.mem_takeWhile_imp (List.mem_reverse.1 member)
        simpa using newline
    · simp at found

/-- Where nothing but blanks follows, the content is blank as well. -/
theorem splitContent?_all_blank {text lead content : List Char}
    (all : ∀ c ∈ text, isBlank c = true) (found : splitContent? text = some (lead, content)) :
    ∀ c ∈ content, isBlank c = true := by
  -- Its only character is one of the text.
  obtain ⟨last, after, rfl, whole, _⟩ := splitContent?_blank all found
  intro c member
  obtain rfl := List.mem_singleton.1 member
  exact all c (by rw [whole]; simp)

/-- The blanks and the content are read off the text, up to the end of a line. -/
theorem splitContent?_split {text lead content : List Char}
    (found : splitContent? text = some (lead, content)) :
    ∃ after, text = lead ++ content ++ after ∧ FollowsLine after := by
  -- Either there is a body, or nothing but blanks and newlines follows.
  rcases blank_or_body text with all | ⟨blanks, c, rest, rfl, before, solid⟩
  · obtain ⟨last, after, rfl, whole, newlines⟩ := splitContent?_blank all found
    refine ⟨after, by rw [whole]; simp, ?_⟩
    cases after with
    | nil => exact .inl rfl
    | cons d after => exact .inr ⟨after, by rw [newlines d List.mem_cons_self]⟩
  · cases blanks with
    | nil =>
      rw [List.nil_append, splitContent?_solid solid] at found
      contradiction
    | cons b blanks =>
      rw [splitContent?_body before (by simp) solid, Option.some.injEq, Prod.mk.injEq] at found
      obtain ⟨rfl, rfl⟩ := found
      refine ⟨(c :: rest).dropWhile (· != '\n'), ?_, ?_⟩
      · rw [List.append_assoc, List.takeWhile_append_dropWhile]
      · -- The content ends where the first newline stands.
        have stop := List.head?_dropWhile_not (· != '\n') (c :: rest)
        cases ending : (c :: rest).dropWhile (· != '\n') with
        | nil => exact .inl rfl
        | cons d after =>
          rw [ending] at stop
          exact .inr ⟨after, by rw [show d = '\n' by simpa using stop]⟩

/-- Content is blank as a whole, or it starts with a character that is not. -/
theorem splitContent?_start {text lead content : List Char}
    (found : splitContent? text = some (lead, content)) :
    (∀ c ∈ content, isBlank c = true) ∨ StartsSolid content := by
  -- The content starts with the body behind the blanks, if there is one.
  rcases blank_or_body text with all | ⟨blanks, c, rest, rfl, before, solid⟩
  · exact .inl (splitContent?_all_blank all found)
  · cases blanks with
    | nil =>
      rw [List.nil_append, splitContent?_solid solid] at found
      contradiction
    | cons b blanks =>
      rw [splitContent?_body before (by simp) solid, Option.some.injEq, Prod.mk.injEq] at found
      obtain ⟨_, rfl⟩ := found
      have other := ne_newline_of_not_blank solid
      exact .inr ⟨c, _, List.takeWhile_cons_of_pos (by simpa using other), solid⟩

/-- Without a keyword at its head a text opens no marker there. -/
theorem openingAt?_eq_none {text : List Char} (absent : splitKeyword? text = none) :
    openingAt? text = none := by
  -- The keyword is looked for first.
  rw [openingAt?, absent]

/-- Behind a keyword the blanks and the content decide. -/
theorem openingAt?_of_keyword {text word rest : List Char}
    (found : splitKeyword? text = some (word, rest)) :
    openingAt? text =
      (splitContent? rest).map fun split => ⟨word ++ split.1, split.2⟩ := by
  -- The keyword is found, so the content is all that may be missing.
  rw [openingAt?, found]
  cases content : splitContent? rest with
  | none => simp [content]
  | some split => simp [content]

/-- A marker opens with a keyword, and with content behind it. -/
theorem exists_keyword_of_openingAt? {text lead content : List Char}
    (found : openingAt? text = some ⟨lead, content⟩) :
    ∃ word rest blanks, splitKeyword? text = some (word, rest) ∧
      splitContent? rest = some (blanks, content) ∧ lead = word ++ blanks := by
  -- Without a keyword there would be no marker.
  cases keyword : splitKeyword? text with
  | none =>
    rw [openingAt?_eq_none keyword] at found
    contradiction
  | some split =>
    obtain ⟨word, rest⟩ := split
    rw [openingAt?_of_keyword keyword, Option.map_eq_some_iff] at found
    obtain ⟨⟨blanks, body⟩, followed, same⟩ := found
    rw [Opening.mk.injEq] at same
    obtain ⟨rfl, rfl⟩ := same
    exact ⟨word, rest, blanks, rfl, followed, rfl⟩

/-- The lead and the content of a marker are read off the text, up to the end of a line. -/
theorem openingAt?_split {text lead content : List Char}
    (found : openingAt? text = some ⟨lead, content⟩) :
    ∃ after, text = lead ++ content ++ after ∧ FollowsLine after := by
  -- The keyword is split off first, and the blanks and the content behind it.
  obtain ⟨word, rest, blanks, keyword, followed, rfl⟩ := exists_keyword_of_openingAt? found
  obtain ⟨rfl, _⟩ := splitKeyword?_eq_some_iff.1 keyword
  obtain ⟨after, rfl, follows⟩ := splitContent?_split followed
  exact ⟨after, by simp only [List.append_assoc], follows⟩

/-- Where a marker opens at the head of a text, its content is the first. -/
theorem firstContent?_of_openingAt? {text : List Char} {opening : Opening}
    (opens : openingAt? text = some opening) : firstContent? text = some opening.content := by
  -- The search looks at the head of the text first.
  cases text with
  | nil => simp [openingAt?, splitKeyword?, keyword] at opens
  | cons c rest => rw [firstContent?, opens]

/-- The first content of a line that opens with a keyword and blanks is the body behind them. -/
theorem firstContent?_body {word blanks body : List Char} {c : Char}
    (found : splitKeyword? (word ++ (blanks ++ c :: body)) = some (word, blanks ++ c :: body))
    (free : '\n' ∉ c :: body) (before : ∀ b ∈ blanks, isBlank b = true) (some_ : blanks ≠ [])
    (solid : isBlank c = false) :
    firstContent? (word ++ (blanks ++ c :: body)) = some (c :: body) := by
  -- The keyword and the blanks open the marker, and the body is on one line.
  have opens : openingAt? (word ++ (blanks ++ c :: body)) = some ⟨word ++ blanks, c :: body⟩ := by
    rw [openingAt?_of_keyword found, splitContent?_line before some_ solid free, Option.map_some]
  exact firstContent?_of_openingAt? opens

/-- The content of a first marker opens somewhere in the text. -/
theorem exists_opening_of_firstContent? {text content : List Char}
    (found : firstContent? text = some content) :
    ∃ before rest lead, text = before ++ rest ∧ openingAt? rest = some ⟨lead, content⟩ := by
  -- The search passes the characters before it one by one.
  induction text with
  | nil => simp [firstContent?] at found
  | cons c rest ih =>
    rw [firstContent?] at found
    split at found
    · rename_i opening opens
      obtain rfl : opening.content = content := by simpa using found
      exact ⟨[], c :: rest, opening.lead, rfl, opens⟩
    · obtain ⟨before, more, lead, whole, opens⟩ := ih found
      exact ⟨c :: before, more, lead, by rw [whole, List.cons_append], opens⟩

/-- The content of a line's first marker is the end of the line. -/
theorem firstContent?_suffix {line content : List Char} (free : '\n' ∉ line)
    (found : firstContent? line = some content) : content <:+ line := by
  -- What follows the content of an opening is a newline or nothing.
  obtain ⟨before, rest, lead, rfl, opens⟩ := exists_opening_of_firstContent? found
  obtain ⟨after, rfl, follows⟩ := openingAt?_split opens
  -- A newline after the content would be one of the line.
  rcases follows with rfl | ⟨beyond, rfl⟩
  · exact ⟨before ++ lead, by simp⟩
  · exact absurd (by simp) free

/-- Content that is not blank is on one line, whatever the text. -/
theorem newline_not_mem_content {text content : List Char}
    (found : firstContent? text = some content) (some_ : trim content ≠ []) : '\n' ∉ content := by
  -- Content that is not blank has a body, and a body is cut at the first newline.
  obtain ⟨_, _, _, _, opens⟩ := exists_opening_of_firstContent? found
  obtain ⟨_, rest, _, _, followed, _⟩ := exists_keyword_of_openingAt? opens
  rcases blank_or_body rest with all | ⟨blanks, c, body, rfl, before, solid⟩
  · exact absurd (trim_eq_nil_iff.2 (splitContent?_all_blank all followed)) some_
  · cases blanks with
    | nil =>
      rw [List.nil_append, splitContent?_solid solid] at followed
      contradiction
    | cons b blanks =>
      -- The content ends before the first newline of the body.
      rw [splitContent?_body before (by simp) solid, Option.some.injEq, Prod.mk.injEq] at followed
      obtain ⟨_, rfl⟩ := followed
      intro member
      simpa using List.mem_takeWhile_imp member

/-- The content of a marker is blank as a whole, or it starts with a character that is not. -/
theorem firstContent?_start {text content : List Char}
    (found : firstContent? text = some content) :
    (∀ c ∈ content, isBlank c = true) ∨ StartsSolid content := by
  -- The content is what an opening found, and it starts as that does.
  obtain ⟨_, _, _, _, opens⟩ := exists_opening_of_firstContent? found
  obtain ⟨_, _, _, _, followed, _⟩ := exists_keyword_of_openingAt? opens
  exact splitContent?_start followed

/-- The search for a marker passes whatever cannot start a keyword. -/
theorem firstContent?_append {before : List Char} (other : ∀ c ∈ before, c.toLower ≠ 't')
    (rest : List Char) : firstContent? (before ++ rest) = firstContent? rest := by
  -- Induction on what is passed, since each character fails to start a keyword.
  induction before with
  | nil => rfl
  | cons c before ih =>
    rw [List.forall_mem_cons] at other
    rw [List.cons_append, firstContent?, openingAt?_eq_none (splitKeyword?_eq_none other.1 _)]
    exact ih other.2

/-- Without a first letter there is no marker. -/
theorem firstContent?_eq_none {text : List Char} (other : ∀ c ∈ text, c.toLower ≠ 't') :
    firstContent? text = none := by
  -- Nothing is left when the whole text has been passed.
  have passed := firstContent?_append other []
  rw [List.append_nil] at passed
  exact passed

/-- A blank is not the first letter of a keyword. -/
theorem toLower_ne_of_blank {c : Char} (blank : isBlank c = true) : c.toLower ≠ 't' := by
  -- A blank stays one in lower case.
  intro same
  rw [← isBlank_toLower, same] at blank
  contradiction

/-- Neither the rest of a keyword nor blanks behind it hold a first letter. -/
theorem toLower_ne_of_keyword_tail {more blanks : List Char}
    (other : ∀ c ∈ more, c.toLower ≠ 't') (all : ∀ b ∈ blanks, isBlank b = true) :
    ∀ c ∈ more ++ blanks, c.toLower ≠ 't' := by
  -- The characters come from the keyword or from the blanks.
  intro c member
  rcases List.mem_append.1 member with letter | blank
  · exact other c letter
  · exact toLower_ne_of_blank (all c blank)

end TodoMarkers.Marker
