import TodoMarkers.Proofs.Marker.Spans

/-! The markers of a document, found in one search over the whole text, are found line by line as
well, once it is known which lines a keyword at the end of an earlier line still waits for. -/

namespace TodoMarkers.Marker

open Text

/-- The column where the content of a line's own marker starts, absent without a marker. -/
def markerColumn? (line : List Char) : Option Nat :=
  match firstContent? line with
  | some content => if content.all isBlank then none else some (line.length - content.length)
  | none => none

/-- Whether nothing but blanks follows the last keyword of a line. -/
def endsInKeyword : List Char → Bool
  | [] => false
  | c :: rest =>
    (match splitKeyword? (c :: rest) with
      | some (_, after) => after.all isBlank
      | none => false) || endsInKeyword rest

/-- A line holds a marker exactly if its marker has a column. -/
theorem isMarkerLine_eq (line : List Char) : isMarkerLine line = (markerColumn? line).isSome := by
  -- Both ask whether the first content is blank.
  unfold isMarkerLine markerColumn?
  cases firstContent? line with
  | none => rfl
  | some content =>
    have empty : (trim content).isEmpty = content.all isBlank := by
      rw [Bool.eq_iff_iff, List.isEmpty_iff, trim_eq_nil_iff, List.all_eq_true]
    dsimp only
    rw [empty]
    cases content.all isBlank <;> rfl

/-- Where no marker opens, the column of a line's marker is found further on. -/
theorem markerColumn?_step {c : Char} {rest : List Char} (free : '\n' ∉ c :: rest)
    (absent : openingAt? (c :: rest) = none) :
    markerColumn? (c :: rest) = (markerColumn? rest).map (· + 1) := by
  -- The content ends where the line ends, so one character more stands before it.
  unfold markerColumn?
  rw [firstContent?, absent]
  dsimp only
  cases found : firstContent? rest with
  | none => rfl
  | some content =>
    have room := (firstContent?_suffix (fun member => free (List.mem_cons_of_mem c member))
      found).length_le
    dsimp only
    split
    · rfl
    · rw [Option.map_some, List.length_cons, Nat.sub_add_comm room]

/-- A line that opens with a keyword and blanks before a body has its marker's content there. -/
theorem markerColumn?_body {word blanks body : List Char} {c : Char}
    (found : splitKeyword? (word ++ (blanks ++ c :: body)) = some (word, blanks ++ c :: body))
    (free : '\n' ∉ c :: body) (before : ∀ b ∈ blanks, isBlank b = true) (some_ : blanks ≠ [])
    (solid : isBlank c = false) :
    markerColumn? (word ++ (blanks ++ c :: body)) = some (word.length + blanks.length) := by
  -- The column is the length of the line without the body.
  have content := firstContent?_body found free before some_ solid
  have shown : (c :: body).all isBlank = false := by simp [solid]
  unfold markerColumn?
  rw [content]
  simp only [shown, Bool.false_eq_true, if_false, List.length_append, List.length_cons]
  congr 1
  omega

/-- A keyword with nothing but blanks behind it opens no marker of its line. -/
theorem markerColumn?_blank {word blanks : List Char}
    (found : splitKeyword? (word ++ blanks) = some (word, blanks))
    (all : ∀ b ∈ blanks, isBlank b = true) : markerColumn? (word ++ blanks) = none := by
  -- If a blank is taken for content, then the content is blank; no other keyword follows.
  obtain ⟨_, named, _⟩ := splitKeyword?_eq_some_iff.1 found
  obtain ⟨first, more, rfl, other⟩ := named.eq_cons
  unfold markerColumn?
  rw [List.cons_append] at found ⊢
  rw [firstContent?]
  cases opens : openingAt? (first :: (more ++ blanks)) with
  | none =>
    dsimp only
    rw [firstContent?_eq_none (toLower_ne_of_keyword_tail other all)]
  | some opening =>
    rw [openingAt?_of_keyword found, Option.map_eq_some_iff] at opens
    obtain ⟨split, content, rfl⟩ := opens
    have blank := List.all_eq_true.2 (splitContent?_all_blank all content)
    dsimp only
    rw [if_pos blank]

/-- Whether a keyword waits for content after a line, given whether one waits before it. -/
def waitsAfter (waiting : Bool) (line : List Char) : Bool :=
  if waiting then line.all isBlank else !isMarkerLine line && endsInKeyword line

/-- The column from which a line is content: its body if a keyword waits for it, or else that of
its own marker. -/
def contentColumn? (waiting : Bool) (line : List Char) : Option Nat :=
  if waiting then
    if line.all isBlank then none else some (line.takeWhile isBlank).length
  else markerColumn? line

/-- The content of one line of a document. -/
def lineSpan? (place : Nat) (waiting : Bool) (line : List Char) : Option Span :=
  (contentColumn? waiting line).map fun column => ⟨place + column, line.drop column⟩

/-- The contents of the lines of a document that starts at a place. -/
def lineSpans : Nat → Bool → List (List Char) → List Span
  | _, _, [] => []
  | place, waiting, line :: rest =>
    (lineSpan? place waiting line).toList ++
      lineSpans (place + line.length + 1) (waitsAfter waiting line) rest

/-- The search over the rest of a document, whether a keyword waits or not. -/
def searchFrom (waiting : Bool) (place : Nat) (text : List Char) : List Span :=
  if waiting then waitingFrom place text else spansFrom place 0 text

/-- The search over one line finds its content, and goes on behind the line. -/
theorem visible_waitingFrom_line {line tail : List Char} (free : '\n' ∉ line)
    (follows : FollowsLine tail) (place : Nat) :
    visible (waitingFrom place (line ++ tail)) =
      (lineSpan? place true line).toList ++
        visible (searchFrom (waitsAfter true line) (place + line.length) tail) := by
  -- A blank line keeps the keyword waiting, and any other line gives its body.
  rcases blank_or_body line with all | ⟨blanks, c, body, rfl, before, solid⟩
  · have blank : line.all isBlank = true := List.all_eq_true.2 all
    simp [waitingFrom_blanks all, lineSpan?, contentColumn?, waitsAfter, searchFrom, blank]
  · have some_ : (blanks ++ c :: body).all isBlank = false := by simp [solid]
    have free : '\n' ∉ c :: body := fun member => free (List.mem_append_right blanks member)
    have content := takeWhile_line free follows
    have ending := dropWhile_line free follows
    rw [List.append_assoc, waitingFrom_blanks before, List.cons_append, waitingFrom,
      if_neg (by simp [solid])]
    rw [List.cons_append] at content ending
    simp only [content, ending, lineSpan?, contentColumn?, waitsAfter, some_, searchFrom,
      takeWhile_blank_body before solid, if_true, Bool.false_eq_true, if_false, Option.map_some,
      Option.toList_some, List.drop_left, visible_cons_body solid, List.length_append,
      List.cons_append, List.nil_append, Nat.add_assoc]

/-- A keyword with nothing but blanks behind it on its line waits from there on. -/
theorem visible_spansFrom_blank {word blanks tail : List Char}
    (found : splitKeyword? (word ++ blanks) = some (word, blanks))
    (all : ∀ b ∈ blanks, isBlank b = true) (follows : FollowsLine tail) (place : Nat) :
    visible (spansFrom place 0 (word ++ blanks ++ tail)) =
      visible (waitingFrom (place + (word ++ blanks).length) tail) := by
  -- What follows the keyword is a blank of its line, or the newline behind it.
  have extended := splitKeyword?_append (word ++ blanks) follows
  rw [found, Option.map_some] at extended
  have start : ∀ c, (blanks ++ tail).head? = some c → isBlank c = true := by
    intro c head
    obtain ⟨rest, starts⟩ := List.head?_eq_some_iff.1 head
    cases blanks with
    | nil =>
      obtain rfl := follows.head_eq starts
      exact isBlank_newline
    | cons b blanks =>
      rw [List.cons_append, List.cons.injEq] at starts
      exact starts.1 ▸ all b List.mem_cons_self
  rw [visible_spansFrom_keyword extended start, waitingFrom_blanks all, List.length_append,
    Nat.add_assoc]

/-- A keyword with blanks and a body behind it on its line has the body as its content. -/
theorem visible_spansFrom_body {word blanks body tail : List Char} {c : Char}
    (found : splitKeyword? (word ++ (blanks ++ c :: body)) = some (word, blanks ++ c :: body))
    (free : '\n' ∉ c :: body) (before : ∀ b ∈ blanks, isBlank b = true) (some_ : blanks ≠ [])
    (solid : isBlank c = false) (follows : FollowsLine tail) (place : Nat) :
    visible (spansFrom place 0 (word ++ (blanks ++ c :: body) ++ tail)) =
      ⟨place + (word.length + blanks.length), c :: body⟩ ::
        visible (spansFrom (place + (word ++ (blanks ++ c :: body)).length) 0 tail) := by
  -- A keyword with a blank behind it waits for the first body.
  have extended := splitKeyword?_append (word ++ (blanks ++ c :: body)) follows
  rw [found, Option.map_some] at extended
  have start : ∀ d, (blanks ++ c :: body ++ tail).head? = some d → isBlank d = true := by
    intro d head
    cases blanks with
    | nil => exact absurd rfl some_
    | cons b blanks =>
      obtain rfl : b = d := by simpa using head
      exact before b List.mem_cons_self
  -- The waiting keyword finds the line's body, which ends where the line does.
  rw [visible_spansFrom_keyword extended start, List.append_assoc, waitingFrom_blanks before]
  have content := takeWhile_line free follows
  have ending := dropWhile_line free follows
  rw [List.cons_append] at content ending ⊢
  rw [waitingFrom, if_neg (by simp [solid]), content, ending]
  simp only [visible_cons_body solid, List.length_append, Nat.add_assoc]

/-- The search over one line for which no keyword waits: it finds the content of the line's own
marker, and a keyword at its end waits from there on. -/
theorem visible_spansFrom_line {line tail : List Char} (free : '\n' ∉ line)
    (follows : FollowsLine tail) (place : Nat) :
    visible (spansFrom place 0 (line ++ tail)) =
      (lineSpan? place false line).toList ++
        visible (searchFrom (waitsAfter false line) (place + line.length) tail) := by
  -- Induction on the line: at each character a keyword stands there or none does.
  induction line generalizing place with
  | nil => simp [lineSpan?, contentColumn?, markerColumn?, firstContent?, waitsAfter,
      isMarkerLine_eq, endsInKeyword, searchFrom]
  | cons c rest ih =>
    have tailFree : '\n' ∉ rest := fun member => free (List.mem_cons_of_mem c member)
    -- A character that opens nothing is passed on both sides.
    have pass : openingAt? (c :: rest) = none → openingAt? (c :: (rest ++ tail)) = none →
        endsInKeyword (c :: rest) = endsInKeyword rest →
        visible (spansFrom place 0 (c :: rest ++ tail)) =
          (lineSpan? place false (c :: rest)).toList ++
            visible (searchFrom (waitsAfter false (c :: rest)) (place + (c :: rest).length)
              tail) := by
      intro absent still same
      rw [List.cons_append, spansFrom_step still, ih tailFree]
      simp only [lineSpan?, contentColumn?, waitsAfter, isMarkerLine_eq,
        markerColumn?_step free absent, same, Bool.false_eq_true, if_false, List.length_cons,
        Option.isSome_map]
      rw [show place + 1 + rest.length = place + (rest.length + 1) by omega]
      cases markerColumn? rest with
      | none => rfl
      | some column =>
        simp only [Option.map_some, List.drop_succ_cons]
        rw [show place + 1 + column = place + (column + 1) by omega]
    have extended := splitKeyword?_append (c :: rest) follows
    cases keyword : splitKeyword? (c :: rest) with
    | none =>
      rw [keyword, Option.map_none] at extended
      exact pass (openingAt?_eq_none keyword) (openingAt?_eq_none extended)
        (by rw [endsInKeyword, keyword, Bool.false_or])
    | some split =>
      obtain ⟨word, after⟩ := split
      rw [keyword, Option.map_some] at extended
      dsimp only at extended
      obtain ⟨whole, named, _⟩ := splitKeyword?_eq_some_iff.1 keyword
      rcases blank_or_body after with all | ⟨blanks, d, body, rfl, before, solid⟩
      · have blank : after.all isBlank = true := List.all_eq_true.2 all
        have waits : endsInKeyword (c :: rest) = true := by
          rw [endsInKeyword, keyword, Bool.or_eq_true]
          exact .inl blank
        rw [whole] at keyword waits ⊢
        rw [visible_spansFrom_blank keyword all follows]
        simp [lineSpan?, contentColumn?, waitsAfter, isMarkerLine_eq,
          markerColumn?_blank keyword all, waits, searchFrom]
      · cases blanks with
        | nil =>
          -- No blank follows the keyword, whether the line is followed or not.
          rw [List.nil_append] at keyword extended
          rw [List.cons_append] at extended
          refine pass ?_ ?_ ?_
          · rw [openingAt?_of_keyword keyword, splitContent?_solid solid, Option.map_none]
          · rw [openingAt?_of_keyword extended, List.cons_append, splitContent?_solid solid,
              Option.map_none]
          · rw [endsInKeyword, keyword]
            simp [solid]
        | cons b blanks =>
          rw [whole] at keyword free ⊢
          have bodyFree : '\n' ∉ d :: body := fun member =>
            free (List.mem_append_right _ (List.mem_append_right _ member))
          rw [visible_spansFrom_body keyword bodyFree before (by simp) solid follows]
          have column := markerColumn?_body keyword bodyFree before (by simp) solid
          have dropped : (word ++ (b :: blanks ++ d :: body)).drop
              (word.length + (b :: blanks).length) = d :: body := by
            rw [← List.append_assoc, ← List.length_append, List.drop_left]
          simp only [lineSpan?, contentColumn?, waitsAfter, isMarkerLine_eq, column, dropped,
            searchFrom, Bool.false_eq_true, if_false, Option.map_some, Option.toList_some,
            Option.isSome_some, Bool.not_true, Bool.false_and]
          rfl

/-- The search over one line, whether a keyword waits for it or not. -/
theorem visible_searchFrom_line {line tail : List Char} (free : '\n' ∉ line)
    (follows : FollowsLine tail) (waiting : Bool) (place : Nat) :
    visible (searchFrom waiting place (line ++ tail)) =
      (lineSpan? place waiting line).toList ++
        visible (searchFrom (waitsAfter waiting line) (place + line.length) tail) := by
  -- Both cases are settled above.
  cases waiting with
  | false => exact visible_spansFrom_line free follows place
  | true => exact visible_waitingFrom_line free follows place

/-- A newline opens nothing, and keeps a keyword waiting. -/
theorem searchFrom_newline (waiting : Bool) (place : Nat) (rest : List Char) :
    searchFrom waiting place ('\n' :: rest) = searchFrom waiting (place + 1) rest := by
  -- No keyword starts with a newline, which is a blank.
  cases waiting with
  | false =>
    have absent : openingAt? ('\n' :: rest) = none := by
      refine openingAt?_eq_none (Option.eq_none_iff_forall_ne_some.2 ?_)
      intro split found
      obtain ⟨word, after⟩ := split
      obtain ⟨whole, named, _⟩ := splitKeyword?_eq_some_iff.1 found
      obtain ⟨first, more, rfl, _⟩ := named.eq_cons
      rw [List.cons_append, List.cons.injEq] at whole
      have solid := named.not_blank (List.mem_cons_self (a := first))
      rw [← whole.1] at solid
      contradiction
    exact spansFrom_step absent place
  | true => rfl

/-- The search over a document finds, blanks apart, what its lines contribute one by one. -/
theorem visible_searchFrom (waiting : Bool) (place : Nat) (text : List Char) :
    visible (searchFrom waiting place text) = lineSpans place waiting (lines text) := by
  -- The induction is on the lines; the state carries over each newline.
  induction text using lines_induction generalizing waiting place with
  | last line free =>
    have search := visible_searchFrom_line free (.inl rfl) waiting place
    rw [List.append_nil] at search
    rw [search, lines_line free, lineSpans, lineSpans]
    cases waitsAfter waiting line <;> rfl
  | more line rest free ih =>
    rw [visible_searchFrom_line free (.inr ⟨rest, rfl⟩), searchFrom_newline, ih,
      lines_append_newline free, lineSpans]

/-- The spans of a document are, blanks apart, the contents of its lines. -/
theorem visible_spans (text : List Char) :
    visible (spans text) = lineSpans 0 false (lines text) :=
  -- The search starts with no keyword waiting.
  visible_searchFrom false 0 text

/-- Whether a keyword waits at the start of a line of a document. -/
def waitsAt (lines : List (List Char)) (number : Nat) : Bool :=
  (lines.take number).foldl waitsAfter false

/-- The contents of the lines are those of each line at its place and in its state. -/
theorem mem_lineSpans_iff {place : Nat} {waiting : Bool} {lines : List (List Char)}
    {span : Span} :
    span ∈ lineSpans place waiting lines ↔ ∃ number line, lines[number]? = some line ∧
      lineSpan? (place + lineStart lines number) ((lines.take number).foldl waitsAfter waiting)
        line = some span := by
  -- The first line comes at number zero, the others one number further on.
  induction lines generalizing place waiting with
  | nil => simp [lineSpans]
  | cons first rest ih =>
    rw [lineSpans, List.mem_append, Option.mem_toList, ih]
    constructor
    · intro member
      rcases member with here | ⟨number, line, found, later⟩
      · exact ⟨0, first, rfl, here⟩
      · refine ⟨number + 1, line, found, ?_⟩
        rwa [lineStart_succ, Nat.add_assoc, Nat.add_assoc, ← Nat.add_assoc first.length,
          ← Nat.add_assoc place] at *
    · intro shows
      obtain ⟨number, line, found, shown⟩ := shows
      cases number with
      | zero =>
        obtain rfl : first = line := by simpa using found
        exact .inl shown
      | succ number =>
        refine .inr ⟨number, line, found, ?_⟩
        rwa [lineStart_succ, ← Nat.add_assoc, ← Nat.add_assoc] at shown

/-- The content of a line starts on the line. -/
theorem contentColumn?_le {waiting : Bool} {line : List Char} {column : Nat}
    (found : contentColumn? waiting line = some column) : column ≤ line.length := by
  -- The column counts blanks of the line, or what its content leaves of it.
  unfold contentColumn? markerColumn? at found
  split at found
  · split at found
    · contradiction
    · rw [Option.some.injEq] at found
      rw [← found]
      exact (List.takeWhile_prefix isBlank).length_le
  · split at found
    · split at found
      · contradiction
      · rw [Option.some.injEq] at found
        omega
    · contradiction

/-- The content of a line ends where the line ends. -/
theorem lineSpan?_stop {place : Nat} {waiting : Bool} {line : List Char} {span : Span}
    (found : lineSpan? place waiting line = some span) :
    place ≤ span.start ∧ span.start + span.content.length = place + line.length := by
  -- The content is the line from a column on.
  obtain ⟨column, content, rfl⟩ := Option.map_eq_some_iff.1 found
  have room := contentColumn?_le content
  dsimp only
  rw [List.length_drop]
  omega

/-- The contents of the lines follow one another. -/
theorem lineSpans_ordered (place : Nat) (waiting : Bool) (lines : List (List Char)) :
    (lineSpans place waiting lines).Pairwise fun span later =>
      span.start + span.content.length ≤ later.start := by
  -- The content of a line ends on it, and those of the lines behind it start behind it.
  induction lines generalizing place waiting with
  | nil => exact List.Pairwise.nil
  | cons line rest ih =>
    rw [lineSpans]
    refine List.pairwise_append.2 ⟨?_, ih _ _, ?_⟩
    · cases lineSpan? place waiting line <;> simp
    · intro span here later member
      obtain ⟨number, other, _, found⟩ := mem_lineSpans_iff.1 member
      have stop := (lineSpan?_stop (Option.mem_toList.1 here)).2
      have start := (lineSpan?_stop found).1
      omega

end TodoMarkers.Marker
