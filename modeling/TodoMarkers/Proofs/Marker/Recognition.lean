import TodoMarkers.Marker.Fields
import TodoMarkers.Proofs.Marker.Line

/-! A line holds a marker exactly if it can be split at one, and the leftmost split is the one that
counts. -/

namespace TodoMarkers

open Text

namespace Marker

/-- A way to split a line at a marker whose content is not blank. -/
@[ext] structure Split where
  /-- What stands before the marker. -/
  before : List Char
  /-- The letters of the keyword. -/
  letters : List Char
  /-- The colon behind them, or nothing. -/
  colon : List Char
  /-- The blanks that separate the keyword from the content. -/
  blanks : List Char
  /-- The rest of the line. -/
  content : List Char
  /-- The letters spell the keyword in any case. -/
  named : letters.map Char.toLower = keyword
  /-- There is one colon at most. -/
  ending : colon = [] ∨ colon = [':']
  /-- The blanks are nothing else. -/
  blank : ∀ b ∈ blanks, isBlank b = true
  /-- There is a blank. -/
  spaced : blanks ≠ []
  /-- The content has a character that is no blank. -/
  body : ∃ c ∈ content, isBlank c = false

namespace Split

/-- What stands from the keyword on. -/
def marker (split : Split) : List Char :=
  split.letters ++ split.colon ++ (split.blanks ++ split.content)

/-- The line that is split. -/
def line (split : Split) : List Char :=
  split.before ++ split.marker

/-- No split of the same line starts further left. -/
def Leftmost (split : Split) : Prop :=
  ∀ other : Split, other.line = split.line → split.before.length ≤ other.before.length

/-- The same marker behind something else. -/
def behind (split : Split) (before : List Char) : Split :=
  { split with before }

/-- Something is left of the content when it is trimmed. -/
theorem trim_content_ne_nil (split : Split) : trim split.content ≠ [] := by
  -- A text that trims to nothing is made of blanks.
  intro empty
  -- The body of the content would be a blank.
  obtain ⟨c, member, solid⟩ := split.body
  rw [trim_eq_nil_iff.1 empty c member] at solid
  contradiction

/-- The keyword of a split is read off its marker together with the colon. -/
theorem splitKeyword?_marker (split : Split) :
    splitKeyword? split.marker =
      some (split.letters ++ split.colon, split.blanks ++ split.content) := by
  -- The letters and the colon make up a keyword, and no second colon follows.
  refine splitKeyword?_eq_some_iff.2
    ⟨rfl, ⟨split.letters, split.colon, rfl, split.named, split.ending⟩, ?_⟩
  rcases split.ending with none | one
  · -- A blank comes next, and it is no colon.
    obtain ⟨b, more, blanks⟩ := List.exists_cons_of_ne_nil split.spaced
    have blank : isBlank b = true := split.blank b (by simp [blanks])
    refine .inr fun colon => ?_
    rw [blanks, List.cons_append, List.head?_cons, Option.some.injEq] at colon
    rw [colon] at blank
    contradiction
  · exact .inl (by rw [one, List.getLast?_concat])

/-- A marker opens where a split has its keyword, with the content of the split. -/
theorem exists_opening (split : Split) (free : '\n' ∉ split.line) :
    ∃ lead content, openingAt? split.marker = some ⟨lead, content⟩ ∧
      trim content = trim split.content := by
  -- The content may start with further blanks, which come before its body.
  rcases blank_or_body (split.blanks ++ split.content) with
    all | ⟨lead, c, rest, whole, before, solid⟩
  · exact absurd (trim_eq_nil_iff.2 fun c member => all c (List.mem_append_right _ member))
      split.trim_content_ne_nil
  · have some_ : lead ≠ [] := by
      rintro rfl
      -- The body would be the first of the blanks.
      obtain ⟨b, more, blanks⟩ := List.exists_cons_of_ne_nil split.spaced
      rw [blanks, List.cons_append, List.nil_append, List.cons.injEq] at whole
      rw [← whole.1, split.blank b (by simp [blanks])] at solid
      exact absurd solid.symm Bool.false_ne_true
    have tail : '\n' ∉ c :: rest := fun member => free (by
      rw [line, marker, whole]
      simp only [List.mem_append]
      exact .inr (.inr (.inr member)))
    refine ⟨split.letters ++ split.colon ++ lead, c :: rest, ?_, ?_⟩
    · rw [openingAt?_of_keyword split.splitKeyword?_marker, whole,
        splitContent?_line before some_ solid tail, Option.map_some]
    · rw [← trim_blanks_append before, ← whole, trim_blanks_append split.blank]

/-- Splits of one line at one place have the same content, blanks around it apart. -/
theorem trim_content_eq {split other : Split} (free : '\n' ∉ split.line)
    (same : other.line = split.line) (place : other.before.length = split.before.length) :
    trim other.content = trim split.content := by
  -- What stands behind the same number of characters is the same marker.
  have marker := List.append_inj_right same place
  obtain ⟨lead, content, opens, trimmed⟩ := split.exists_opening free
  obtain ⟨otherLead, otherContent, otherOpens, otherTrimmed⟩ := other.exists_opening (same ▸ free)
  -- Only one marker opens there.
  rw [marker, opens, Option.some.injEq, Opening.mk.injEq] at otherOpens
  rw [← trimmed, ← otherTrimmed, otherOpens.2]

end Split

/-- Blank content leaves nothing but blanks behind a keyword. -/
theorem all_blank_of_splitContent? {text lead content : List Char}
    (found : splitContent? text = some (lead, content)) (blank : trim content = []) :
    ∀ c ∈ text, isBlank c = true := by
  -- A body would be part of the content.
  rcases blank_or_body text with all | ⟨blanks, c, rest, rfl, before, solid⟩
  · exact all
  · cases blanks with
    | nil =>
      rw [List.nil_append, splitContent?_solid solid] at found
      contradiction
    | cons b blanks =>
      -- The content would start with the body.
      rw [splitContent?_body before (by simp) solid, Option.some.injEq, Prod.mk.injEq] at found
      obtain ⟨_, rfl⟩ := found
      have starts : c ∈ (c :: rest).takeWhile (· != '\n') := by
        have other := ne_newline_of_not_blank solid
        simp [other]
      rw [trim_eq_nil_iff.1 blank c starts] at solid
      contradiction

/-- Where a marker opens with content that is not blank, the line can be split. -/
theorem exists_split_of_openingAt? {text lead content : List Char} (free : '\n' ∉ text)
    (opens : openingAt? text = some ⟨lead, content⟩) (some_ : trim content ≠ []) :
    ∃ split : Split, split.before = [] ∧ split.line = text ∧ split.content = content := by
  -- The keyword, its colon, the blanks and the content are the parts of the split.
  obtain ⟨word, rest, blanks, keyword, followed, rfl⟩ := exists_keyword_of_openingAt? opens
  obtain ⟨rfl, ⟨letters, colon, rfl, named, ending⟩, _⟩ := splitKeyword?_eq_some_iff.1 keyword
  rcases blank_or_body rest with all | ⟨gap, c, body, rfl, before, solid⟩
  · exact absurd (trim_eq_nil_iff.2 (splitContent?_all_blank all followed)) some_
  · cases gap with
    | nil =>
      rw [List.nil_append, splitContent?_solid solid] at followed
      contradiction
    | cons b gap =>
      have tail : '\n' ∉ c :: body := fun member =>
        free (List.mem_append_right _ (List.mem_append_right _ member))
      rw [splitContent?_line before (by simp) solid tail, Option.some.injEq, Prod.mk.injEq]
        at followed
      obtain ⟨rfl, rfl⟩ := followed
      exact ⟨⟨[], letters, colon, b :: gap, c :: body, named, ending, before, by simp,
        c, List.mem_cons_self, solid⟩, rfl, rfl, rfl⟩

/-- The content that is found first is that of a leftmost split, if it is not blank. -/
theorem exists_leftmost_of_firstContent? {line content : List Char} (free : '\n' ∉ line)
    (found : firstContent? line = some content) (some_ : trim content ≠ []) :
    ∃ split : Split, split.line = line ∧ split.Leftmost ∧ split.content = content := by
  -- The search passes the characters at which no split starts.
  induction line with
  | nil => simp [firstContent?] at found
  | cons c rest ih =>
    rw [firstContent?] at found
    split at found
    · rename_i opening opens
      obtain rfl : opening.content = content := by simpa using found
      -- No split starts further left than one that starts the line.
      obtain ⟨split, start, whole, same⟩ := exists_split_of_openingAt? free opens some_
      refine ⟨split, whole, fun other _ => ?_, same⟩
      rw [start]
      exact Nat.zero_le _
    · rename_i absent
      obtain ⟨split, whole, leftmost, same⟩ :=
        ih (fun member => free (List.mem_cons_of_mem c member)) found
      have line : (split.behind (c :: split.before)).line = c :: rest := congrArg (c :: ·) whole
      refine ⟨split.behind (c :: split.before), line, fun other shared => ?_, same⟩
      rw [line] at shared
      cases start : other.before with
      | nil =>
        -- A marker would open right here.
        obtain ⟨lead, content, opens, _⟩ := other.exists_opening (shared ▸ free)
        rw [Split.line, start, List.nil_append] at shared
        rw [shared, absent] at opens
        contradiction
      | cons d before =>
        rw [Split.line, start, List.cons_append, List.cons.injEq] at shared
        exact Nat.succ_le_succ (leftmost (other.behind before) (shared.2.trans whole.symm))

/-- Behind whatever stands before it, a marker leaves content that is not blank. -/
theorem exists_firstContent?_behind (split : Split) (before : List Char)
    (free : '\n' ∉ before ++ split.marker) :
    ∃ content, firstContent? (before ++ split.marker) = some content ∧ trim content ≠ [] := by
  -- The search ends at the marker, if it does not end before.
  induction before with
  | nil =>
    obtain ⟨lead, content, opens, trimmed⟩ := (split.behind []).exists_opening free
    exact ⟨content, firstContent?_of_openingAt? opens, trimmed ▸ split.trim_content_ne_nil⟩
  | cons c before ih =>
    rw [List.cons_append, firstContent?]
    split
    · rename_i opening opens
      refine ⟨opening.content, rfl, fun blank => ?_⟩
      -- Behind this keyword nothing but blanks would follow, and no other keyword among them.
      obtain ⟨word, rest, blanks, keyword, followed, _⟩ := exists_keyword_of_openingAt? opens
      obtain ⟨whole, named, _⟩ := splitKeyword?_eq_some_iff.1 keyword
      obtain ⟨first, more, rfl, other⟩ := named.eq_cons
      have quiet := toLower_ne_of_keyword_tail other (all_blank_of_splitContent? followed blank)
      rw [List.cons_append, List.cons.injEq] at whole
      rw [← whole.2] at quiet
      have letters := split.named
      cases spelled : split.letters with
      | nil => simp [spelled, Marker.keyword] at letters
      | cons letter letters' =>
        rw [spelled, List.map_cons, Marker.keyword, List.cons.injEq] at letters
        exact quiet letter (by simp [Split.marker, spelled]) letters.1
    · exact ih fun member => free (List.mem_cons_of_mem c member)

/-- Where a line can be split, one of its splits is leftmost. -/
theorem Split.exists_leftmost (split : Split) (free : '\n' ∉ split.line) :
    ∃ other : Split, other.line = split.line ∧ other.Leftmost := by
  -- It is the one whose content is found first.
  obtain ⟨content, found, some_⟩ := exists_firstContent?_behind split split.before free
  obtain ⟨other, same, leftmost, _⟩ := exists_leftmost_of_firstContent? free found some_
  exact ⟨other, same, leftmost⟩

/-- The content that is found first is that of every leftmost split, blanks around it apart. -/
theorem exists_firstContent?_of_leftmost {split : Split} (leftmost : split.Leftmost)
    (free : '\n' ∉ split.line) :
    ∃ content, firstContent? split.line = some content ∧ trim content = trim split.content := by
  -- The search finds some split's content, and no split starts further left.
  obtain ⟨content, found, some_⟩ := exists_firstContent?_behind split split.before free
  obtain ⟨other, same, first, rfl⟩ := exists_leftmost_of_firstContent? free found some_
  -- Two leftmost splits start at one place.
  have place : other.before.length = split.before.length :=
    Nat.le_antisymm (first split same.symm) (leftmost other same)
  exact ⟨other.content, found, Split.trim_content_eq free same place⟩

/-- The trimmed content of a line's marker, absent when the line holds none. -/
def core? (line : List Char) : Option (List Char) :=
  (firstContent? line).bind fun content =>
    if trim content = [] then none else some (trim content)

/-- A line holds a marker if something is left of the content. -/
theorem isMarkerLine_eq_isSome (line : List Char) : isMarkerLine line = (core? line).isSome := by
  -- Both ask for content that is left when it is trimmed.
  unfold isMarkerLine core?
  cases firstContent? line with
  | none => rfl
  | some content => by_cases empty : trim content = [] <;> simp [empty]

/-- What follows the keyword is the trimmed content without its closer. -/
theorem remainder?_eq_map (line : List Char) : remainder? line = (core? line).map stripCloser := by
  -- Both look at the trimmed first content.
  unfold remainder? core?
  cases firstContent? line with
  | none => rfl
  | some content => by_cases empty : trim content = [] <;> simp [empty]

/-- The trimmed content of a line's marker is that of the leftmost split. -/
theorem core?_eq_some_iff {line core : List Char} (free : '\n' ∉ line) :
    core? line = some core ↔
      ∃ split : Split, split.line = line ∧ split.Leftmost ∧ trim split.content = core := by
  -- The search reports the leftmost split, and every line with a split has one.
  rw [core?, Option.bind_eq_some_iff]
  constructor
  · rintro ⟨content, found, read⟩
    by_cases empty : trim content = []
    · simp [empty] at read
    · obtain ⟨split, whole, leftmost, rfl⟩ := exists_leftmost_of_firstContent? free found empty
      exact ⟨split, whole, leftmost, by simpa [empty] using read⟩
  · rintro ⟨split, rfl, leftmost, rfl⟩
    obtain ⟨content, found, trimmed⟩ := exists_firstContent?_of_leftmost leftmost free
    refine ⟨content, found, ?_⟩
    rw [trimmed, if_neg split.trim_content_ne_nil]

/-- A line holds a marker exactly if one of its splits is leftmost. -/
theorem isMarkerLine_iff_leftmost {line : List Char} (free : '\n' ∉ line) :
    isMarkerLine line = true ↔ ∃ split : Split, split.line = line ∧ split.Leftmost := by
  -- A line holds a marker if its content has a core, and cores are those of leftmost splits.
  rw [isMarkerLine_eq_isSome, Option.isSome_iff_exists]
  constructor
  · rintro ⟨core, found⟩
    obtain ⟨split, whole, leftmost, _⟩ := (core?_eq_some_iff free).1 found
    exact ⟨split, whole, leftmost⟩
  · rintro ⟨split, whole, leftmost⟩
    exact ⟨_, (core?_eq_some_iff free).2 ⟨split, whole, leftmost, rfl⟩⟩

/-- The same marker with blanks at the end of its line. -/
def Split.extend (split : Split) (blanks : List Char) : Split :=
  { split with
    content := split.content ++ blanks
    body := by
      obtain ⟨c, member, solid⟩ := split.body
      exact ⟨c, List.mem_append_left blanks member, solid⟩ }

/-- The blanks are at the end of the line. -/
theorem Split.line_extend (split : Split) (blanks : List Char) :
    (split.extend blanks).line = split.line ++ blanks := by
  -- The content is the last part of the line.
  simp only [line, marker, extend, List.append_assoc]

/-- Blanks at the end of a line belong to the content of each of its splits. -/
theorem Split.exists_extend {line blanks : List Char} (all : ∀ b ∈ blanks, isBlank b = true)
    {split : Split} (whole : split.line = line ++ blanks) :
    ∃ other : Split, other.line = line ∧ other.extend blanks = split := by
  -- The appended blanks end the content, since its body is before them.
  have parts : split.before ++ (split.letters ++ split.colon ++ split.blanks) ++ split.content =
      line ++ blanks := by
    rw [← whole, Split.line, marker]
    simp only [List.append_assoc]
  obtain ⟨c, member, solid⟩ := split.body
  -- The body of the content is none of the blanks.
  have outside : c ∉ blanks := fun inside => by
    rw [all c inside] at solid
    contradiction
  rcases List.append_eq_append_iff.1 parts with ⟨content, shorter, same⟩ | ⟨more, _, same⟩
  · have body : c ∈ content := by
      rw [same, List.mem_append] at member
      exact member.resolve_right outside
    refine ⟨{ split with content, body := ⟨c, body, solid⟩ }, ?_,
      Split.ext rfl rfl rfl rfl same.symm⟩
    rw [shorter]
    simp only [Split.line, marker, List.append_assoc]
  · exact absurd (by rw [same]; exact List.mem_append_right more member) outside

/-- Blanks at the end of a line change neither whether it holds a marker nor what is left of the
marker's content when it is trimmed. -/
theorem core?_append_blanks {line blanks : List Char} (free : '\n' ∉ line)
    (all : ∀ b ∈ blanks, isBlank b = true) (freeBlanks : '\n' ∉ blanks) :
    core? (line ++ blanks) = core? line := by
  -- Leftmost splits of the one line extend to leftmost splits of the other.
  have whole : '\n' ∉ line ++ blanks := by simp [free, freeBlanks]
  -- The splits of both lines are the same, but for the blanks at the end of their contents.
  ext core
  rw [core?_eq_some_iff whole, core?_eq_some_iff free]
  constructor
  · rintro ⟨split, same, leftmost, rfl⟩
    obtain ⟨other, rfl, rfl⟩ := Split.exists_extend all same
    refine ⟨other, rfl, fun third shared => leftmost (third.extend blanks) ?_, ?_⟩
    · rw [Split.line_extend, Split.line_extend, shared]
    · exact (trim_append_blanks all other.content).symm
  · rintro ⟨split, rfl, leftmost, rfl⟩
    refine ⟨split.extend blanks, split.line_extend blanks, fun third shared => ?_,
      trim_append_blanks all split.content⟩
    rw [Split.line_extend] at shared
    obtain ⟨other, same, rfl⟩ := Split.exists_extend all shared
    exact leftmost other same

end Marker

open Marker

/-- A line holds a marker exactly if it can be split at a keyword, a colon or none, blanks, and
content that is not blank.

The leftmost split gives the content from which the remainder and the fields are read. A line that
cannot be split has neither, and blanks at the end of a line change nothing. -/
theorem Grammar.marker_iff_split (grammar : Grammar) {line : List Char} (free : '\n' ∉ line) :
    (isMarkerLine line = true ↔ ∃ split : Split, split.line = line) ∧
    (isMarkerLine line = true →
      (∃ split : Split, split.line = line ∧ split.Leftmost) ∧
      ∀ split : Split, split.line = line → split.Leftmost →
        (firstContent? line).map trim = some (trim split.content) ∧
        remainder? line = some (stripCloser (trim split.content)) ∧
        grammar.parseLine? line =
          some (grammar.extractFields (stripCloser (trim split.content)))) ∧
    (isMarkerLine line = false → remainder? line = none ∧ grammar.parseLine? line = none) ∧
    ∀ blanks, (∀ b ∈ blanks, isBlank b = true) → '\n' ∉ blanks →
      isMarkerLine (line ++ blanks) = isMarkerLine line ∧
      remainder? (line ++ blanks) = remainder? line ∧
      grammar.parseLine? (line ++ blanks) = grammar.parseLine? line := by
  -- Whatever is computed from a line depends on its core alone.
  have recognised := isMarkerLine_iff_leftmost free
  refine ⟨⟨fun marked => ?_, ?_⟩, fun marked => ⟨recognised.1 marked, ?_⟩, fun plain => ?_, ?_⟩
  · obtain ⟨split, whole, _⟩ := recognised.1 marked
    exact ⟨split, whole⟩
  · rintro ⟨split, rfl⟩
    exact recognised.2 (split.exists_leftmost free)
  · rintro split rfl leftmost
    obtain ⟨content, found, trimmed⟩ := exists_firstContent?_of_leftmost leftmost free
    have remainder : remainder? split.line = some (stripCloser (trim split.content)) := by
      rw [remainder?_eq_map, (core?_eq_some_iff free).2 ⟨split, rfl, leftmost, rfl⟩,
        Option.map_some]
    refine ⟨?_, remainder, ?_⟩
    · rw [found, Option.map_some, trimmed]
    · rw [parseLine?, remainder, Option.map_some]
  · rw [isMarkerLine_eq_isSome, Option.isSome_eq_false_iff, Option.isNone_iff_eq_none] at plain
    have remainder : remainder? line = none := by rw [remainder?_eq_map, plain, Option.map_none]
    exact ⟨remainder, by rw [parseLine?, remainder, Option.map_none]⟩
  · intro blanks all freeBlanks
    have same := core?_append_blanks free all freeBlanks
    have remainder : remainder? (line ++ blanks) = remainder? line := by
      rw [remainder?_eq_map, remainder?_eq_map, same]
    refine ⟨?_, remainder, ?_⟩
    · rw [isMarkerLine_eq_isSome, isMarkerLine_eq_isSome, same]
    · rw [parseLine?, parseLine?, remainder]

/-- A marker whose content starts with the keyword again, behind blanks of two kinds. -/
def Marker.Split.repeatedKeyword : Split where
  before := []
  letters := "Todo".toList
  colon := [':']
  blanks := ['\u3000', ' ']
  content := "TODO b */ ".toList
  named := by decide
  ending := .inr rfl
  blank := List.all_eq_true.1 (by decide)
  spaced := by decide
  body := ⟨'b', by decide, by decide⟩

/-- The second keyword belongs to the content of the first, also with a tab behind the line. -/
theorem Grammar.marker_iff_split_repeated_keyword :
    isMarkerLine Split.repeatedKeyword.line = true ∧
    remainder? Split.repeatedKeyword.line = some "TODO b".toList ∧
    Grammar.standard.parseLine? (Split.repeatedKeyword.line ++ ['\t']) =
      some { text := "TODO b", rawText := "TODO b" } := by
  -- No other split starts further left than one at the start of the line.
  obtain ⟨recognised, marked, _, appended⟩ :=
    Grammar.standard.marker_iff_split
      (show '\n' ∉ Split.repeatedKeyword.line by decide)
  have marker := recognised.2 ⟨Split.repeatedKeyword, rfl⟩
  have leftmost : Split.repeatedKeyword.Leftmost := fun _ _ => Nat.zero_le _
  obtain ⟨_, remainder, parsed⟩ := (marked marker).2 Split.repeatedKeyword rfl leftmost
  refine ⟨marker, remainder.trans (by decide), ?_⟩
  rw [(appended ['\t'] (List.all_eq_true.1 (by decide)) (by decide)).2.2, parsed]
  decide

end TodoMarkers
