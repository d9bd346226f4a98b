import Mathlib.Data.List.DropRight
import Mathlib.Data.List.TakeWhile
import TodoMarkers.Text.Blank

/-! Blanks: they end lines, have no case, and are all that trimming takes away. -/

namespace TodoMarkers.Text

/-- A newline is a blank. -/
@[simp] theorem isBlank_newline : isBlank '\n' = true := by
  -- The code of a newline lies in the first range of the property.
  decide

/-- A character that is not a blank is no newline either. -/
theorem ne_newline_of_not_blank {c : Char} (solid : isBlank c = false) : c ≠ '\n' := by
  -- A newline is a blank itself.
  rintro rfl
  simp at solid

/-- A character is a blank in either case or in none. -/
@[simp] theorem isBlank_toLower (c : Char) : isBlank c.toLower = isBlank c := by
  -- Only the capitals have another lower case, and neither they nor their lower case are blanks.
  unfold Char.toLower
  split
  · rename_i capital
    have low : 65 ≤ c.toNat := capital.1
    have high : c.toNat ≤ 90 := capital.2
    have small : (c.val + ('a'.val - 'A'.val)).toNat = c.toNat + 32 := by
      rw [UInt32.toNat_add]
      exact Nat.mod_eq_of_lt (show c.toNat + 32 < 4294967296 by omega)
    simp only [isBlank, Char.toNat, small] at low high ⊢
    grind
  · rfl

/-- A text holds blanks alone, or some character stands behind its leading blanks. -/
theorem blank_or_body (text : List Char) :
    (∀ c ∈ text, isBlank c = true) ∨ ∃ blanks c rest, text = blanks ++ c :: rest ∧
      (∀ b ∈ blanks, isBlank b = true) ∧ isBlank c = false := by
  -- The first character is the body, or one more blank before what the rest starts with.
  induction text with
  | nil => exact .inl (by simp)
  | cons c rest ih =>
    cases blank : isBlank c with
    | false => exact .inr ⟨[], c, rest, rfl, by simp, blank⟩
    | true =>
      rcases ih with all | ⟨blanks, d, more, whole, before, body⟩
      · exact .inl (List.forall_mem_cons.2 ⟨blank, all⟩)
      · exact .inr ⟨c :: blanks, d, more, by rw [whole, List.cons_append],
          List.forall_mem_cons.2 ⟨blank, before⟩, body⟩

/-- The leading blanks of a text end where its body starts. -/
theorem takeWhile_blank_body {blanks rest : List Char} {c : Char}
    (before : ∀ b ∈ blanks, isBlank b = true) (body : isBlank c = false) :
    (blanks ++ c :: rest).takeWhile isBlank = blanks := by
  -- All of the blanks are taken, and the first character behind them stops the search.
  rw [List.takeWhile_append_of_pos before, List.takeWhile_cons_of_neg (by simp [body]),
    List.append_nil]

/-- Behind the leading blanks of a text its body is left. -/
theorem dropWhile_blank_body {blanks rest : List Char} {c : Char}
    (before : ∀ b ∈ blanks, isBlank b = true) (body : isBlank c = false) :
    (blanks ++ c :: rest).dropWhile isBlank = c :: rest := by
  -- All of the blanks are dropped, and the first character behind them stays.
  rw [List.dropWhile_append_of_pos before, List.dropWhile_cons_of_neg (by simp [body])]

/-- A character that is not a blank stands behind the leading blanks. -/
theorem length_takeWhile_blank_le {text rest : List Char} {place : Nat} {c : Char}
    (here : text.drop place = c :: rest) (solid : isBlank c = false) :
    (text.takeWhile isBlank).length ≤ place := by
  -- Otherwise it would be one of them.
  rcases Nat.lt_or_ge place (text.takeWhile isBlank).length with inside | past
  · have whole := List.takeWhile_append_dropWhile (p := isBlank) (l := text)
    rw [← whole, List.drop_append_of_le_length (Nat.le_of_lt inside),
      List.drop_eq_getElem_cons inside, List.cons_append, List.cons.injEq] at here
    have blank := List.mem_takeWhile_imp (List.getElem_mem inside)
    rw [here.1, solid] at blank
    contradiction
  · exact past

/-- Nothing is left of a text exactly if it holds blanks alone. -/
theorem trim_eq_nil_iff {text : List Char} : trim text = [] ↔ ∀ c ∈ text, isBlank c = true := by
  -- A text either holds blanks alone or has a first character that is none.
  constructor
  · intro empty
    rcases blank_or_body text with all | ⟨blanks, c, rest, whole, before, body⟩
    · exact all
    · -- The first character of the body survives at both ends.
      rw [trim, trimStart, whole, dropWhile_blank_body before body, trimEnd,
        List.reverse_eq_nil_iff, List.dropWhile_eq_nil_iff] at empty
      have blank := empty c (by simp)
      rw [body] at blank
      contradiction
  · intro all
    rw [trim, trimStart, List.dropWhile_eq_nil_iff.2 all]
    rfl

/-- Trimming the end of a text keeps a head of it. -/
theorem trimEnd_prefix_self (text : List Char) : trimEnd text <+: text :=
  -- Only characters at the end are dropped.
  List.rdropWhile_prefix isBlank text

/-- A blank at the end of a text is trimmed away. -/
theorem trimEnd_concat_blank {c : Char} (blank : isBlank c = true) (text : List Char) :
    trimEnd (text ++ [c]) = trimEnd text :=
  -- Seen from the end, the blank is the first character to be dropped.
  List.rdropWhile_concat_pos isBlank text c blank

/-- Nothing is trimmed behind a character that is not a blank. -/
theorem trimEnd_concat_solid {c : Char} (solid : isBlank c = false) (text : List Char) :
    trimEnd (text ++ [c]) = text ++ [c] :=
  -- Seen from the end, the very first character stops the search.
  List.rdropWhile_concat_neg isBlank text c (by simp [solid])

/-- Nothing is left to trim at an end that has been trimmed. -/
@[simp] theorem trimEnd_trimEnd (text : List Char) : trimEnd (trimEnd text) = trimEnd text :=
  -- The last character that is left stops a second search at once.
  List.rdropWhile_idempotent isBlank text

/-- A text that starts with a character that is not a blank. -/
def StartsSolid (text : List Char) : Prop :=
  ∃ c rest, text = c :: rest ∧ isBlank c = false

/-- A text starts with no blank if it starts with such a text. -/
theorem StartsSolid.append {text : List Char} (solid : StartsSolid text) (tail : List Char) :
    StartsSolid (text ++ tail) := by
  -- The first character of the whole is that of the first part.
  obtain ⟨c, rest, rfl, solid⟩ := solid
  exact ⟨c, rest ++ tail, rfl, solid⟩

/-- A text that starts with no blank has none to trim at its start. -/
theorem StartsSolid.trimStart_eq {text : List Char} (solid : StartsSolid text) :
    trimStart text = text := by
  -- The first character stops the search at once.
  obtain ⟨c, rest, rfl, solid⟩ := solid
  exact List.dropWhile_cons_of_neg (by simp [solid])

/-- Trimming both ends of a text keeps a head of the text trimmed at its start. -/
theorem trim_prefix_trimStart (text : List Char) : trim text <+: trimStart text :=
  -- The end is trimmed after the start.
  trimEnd_prefix_self (trimStart text)

/-- A head of a text trimmed at its start has no blanks to trim there. -/
theorem trimStart_eq_of_head {lead text : List Char} (head : lead <+: trimStart text) :
    trimStart lead = lead := by
  -- An empty head has no blanks, and any other starts as the trimmed text does.
  cases lead with
  | nil => rfl
  | cons c lead =>
    -- The head starts where the trimmed text starts.
    obtain ⟨rest, whole⟩ := head
    have stop := List.head?_dropWhile_not isBlank text
    rw [← trimStart, ← whole] at stop
    exact StartsSolid.trimStart_eq ⟨c, lead, rfl, by simpa using stop⟩

/-- A text that ends with a character that is not a blank. -/
def EndsSolid (text : List Char) : Prop :=
  ∃ rest c, text = rest ++ [c] ∧ isBlank c = false

/-- A text ends with no blank if it ends with such a text. -/
theorem EndsSolid.behind {text : List Char} (solid : EndsSolid text) (before : List Char) :
    EndsSolid (before ++ text) := by
  -- The last character of the whole is that of the last part.
  obtain ⟨rest, c, rfl, solid⟩ := solid
  exact ⟨before ++ rest, c, by rw [List.append_assoc], solid⟩

/-- A text that ends with no blank stays whole when whatever follows it is trimmed. -/
theorem EndsSolid.trimEnd_append {text : List Char} (solid : EndsSolid text) (tail : List Char) :
    trimEnd (text ++ tail) = text ++ trimEnd tail := by
  -- The blanks come off the tail one by one, and the last of them stands behind the text.
  obtain ⟨rest, last, rfl, solid⟩ := solid
  induction tail using List.reverseRecOn with
  | nil =>
    rw [List.append_nil, trimEnd_concat_solid solid]
    exact (List.append_nil _).symm
  | append_singleton tail c ih =>
    rw [← List.append_assoc]
    cases blank : isBlank c with
    | true => rw [trimEnd_concat_blank blank, trimEnd_concat_blank blank, ih]
    | false => rw [trimEnd_concat_solid blank, trimEnd_concat_solid blank, List.append_assoc]

/-- A text that ends with no blank has none to trim at its end. -/
theorem EndsSolid.trimEnd_eq {text : List Char} (solid : EndsSolid text) : trimEnd text = text := by
  -- The last character stops the search at once.
  obtain ⟨rest, last, rfl, solid⟩ := solid
  exact trimEnd_concat_solid solid rest

/-- Only what follows a text without blanks at its ends is trimmed. -/
theorem trim_append {text : List Char} (starts : StartsSolid text) (ends : EndsSolid text)
    (tail : List Char) : trim (text ++ tail) = text ++ trimEnd tail := by
  -- The start has nothing to trim, and the search at the end stops in front of the tail at the
  -- latest.
  rw [trim, (starts.append tail).trimStart_eq, ends.trimEnd_append]

/-- Blanks in front of a text are trimmed away. -/
theorem trim_blanks_append {blanks : List Char} (blank : ∀ b ∈ blanks, isBlank b = true)
    (text : List Char) : trim (blanks ++ text) = trim text := by
  -- The blanks in front are dropped before the search comes to the text.
  rw [trim, trimStart, List.dropWhile_append_of_pos blank, ← trimStart, ← trim]

/-- A blank in front of a text is trimmed away. -/
theorem trim_cons_blank {c : Char} (blank : isBlank c = true) (text : List Char) :
    trim (c :: text) = trim text :=
  -- A single blank is a list of blanks.
  trim_blanks_append (List.forall_mem_singleton.2 blank) text

/-- Trimming both ends takes away what trimming the end alone does. -/
theorem trim_trimEnd (text : List Char) : trim (trimEnd text) = trim text := by
  -- Of blanks nothing is left either way; otherwise both start with the same body.
  rcases blank_or_body text with all | ⟨blanks, c, rest, rfl, before, body⟩
  · have nothing : trimEnd text = [] := List.rdropWhile_eq_nil_iff.2 all
    rw [nothing, trim_eq_nil_iff.2 all]
    rfl
  · -- The body keeps its place, so only its own end is trimmed, once or twice.
    have kept (tail : List Char) : trim (blanks ++ c :: tail) = c :: trimEnd tail := by
      rw [trim, trimStart, dropWhile_blank_body before body]
      exact EndsSolid.trimEnd_append ⟨[], c, rfl, body⟩ tail
    have ends : trimEnd (blanks ++ c :: rest) = blanks ++ c :: trimEnd rest := by
      have whole := EndsSolid.trimEnd_append ⟨blanks, c, rfl, body⟩ rest
      rwa [List.append_assoc, List.append_assoc] at whole
    rw [ends, kept, kept, trimEnd_trimEnd]

/-- What is left of a trimmed text ends with no blank. -/
theorem trim_endsSolid {text : List Char} (some_ : trim text ≠ []) : EndsSolid (trim text) := by
  -- The last character that is left is the one at which the search stopped.
  refine ⟨_, _, (List.dropLast_append_getLast some_).symm, ?_⟩
  have solid : ¬ isBlank ((trim text).getLast some_) = true :=
    List.rdropWhile_last_not isBlank (trimStart text) some_
  simpa using solid

/-- A trimmed text has no characters that the text does not have. -/
theorem mem_of_mem_trim {text : List Char} {c : Char} (member : c ∈ trim text) : c ∈ text :=
  -- A trimmed text is a head of a tail of the text.
  (List.dropWhile_suffix isBlank).mem ((trim_prefix_trimStart text).mem member)

/-- Nothing is left to trim in a text that has been trimmed. -/
@[simp] theorem trim_trim (text : List Char) : trim (trim text) = trim text := by
  -- The start is trimmed already, and so is the end.
  rw [trim, trimStart_eq_of_head (trim_prefix_trimStart text), trim, trimEnd_trimEnd]

/-- A trimmed text has no blanks to trim at its end. -/
theorem trimEnd_eq_of_trim_eq {text : List Char} (trimmed : trim text = text) :
    trimEnd text = text :=
  -- The text can be written as one that has been trimmed.
  calc trimEnd text = trimEnd (trim text) := by rw [trimmed]
    _ = trim text := trimEnd_trimEnd (trimStart text)
    _ = text := trimmed

/-- The end of a text has no blanks to trim if the text has none there. -/
theorem trimEnd_eq_of_suffix {tail text : List Char} (ending : tail <:+ text)
    (trimmed : trimEnd text = text) : trimEnd tail = tail := by
  -- Only the last character of a text decides.
  refine List.rdropWhile_eq_self_iff.2 fun some_ => ?_
  -- Both end in the same character.
  rw [ending.getLast some_]
  exact List.rdropWhile_eq_self_iff.1 trimmed (ending.ne_nil some_)

/-- It makes no difference which end of a text is trimmed first. -/
theorem trimStart_trimEnd (text : List Char) :
    trimStart (trimEnd text) = trimEnd (trimStart text) := by
  -- Trimming the start of a trimmed end leaves that end trimmed.
  have kept : trimEnd (trimStart (trimEnd text)) = trimStart (trimEnd text) :=
    trimEnd_eq_of_suffix (List.dropWhile_suffix isBlank) (trimEnd_trimEnd text)
  rw [← kept]
  exact trim_trimEnd text

/-- Blanks at the end of a text are trimmed away with the end. -/
theorem trimEnd_append_blanks {blanks : List Char} (blank : ∀ b ∈ blanks, isBlank b = true)
    (text : List Char) : trimEnd (text ++ blanks) = trimEnd text := by
  -- The blanks are taken from the end one by one.
  induction blanks using List.reverseRecOn with
  | nil => rw [List.append_nil]
  | append_singleton blanks b ih =>
    rw [← List.append_assoc, trimEnd_concat_blank (blank b (by simp))]
    exact ih fun other member => blank other (List.mem_append_left _ member)

/-- Blanks at the end of a text are trimmed away. -/
theorem trim_append_blanks {blanks : List Char} (blank : ∀ b ∈ blanks, isBlank b = true)
    (text : List Char) : trim (text ++ blanks) = trim text := by
  -- Both ends are trimmed, whether or not the end has been trimmed before.
  rw [← trim_trimEnd, trimEnd_append_blanks blank, trim_trimEnd]

/-- Where a trimmed text ends a longer one, only what precedes it is trimmed, if anything is. -/
theorem exists_trimEnd_append {text : List Char} (trimmed : trim text = text) (before : List Char) :
    ∃ kept, kept <+: before ∧ trimEnd (before ++ text) = kept ++ text := by
  -- Trimming reaches what precedes the text only if the text is empty.
  by_cases empty : text = []
  · rw [empty, List.append_nil]
    exact ⟨trimEnd before, trimEnd_prefix_self before, (List.append_nil _).symm⟩
  · -- The last character is the text's own, and no blank.
    have solid : EndsSolid text := trimmed ▸ trim_endsSolid (trimmed.symm ▸ empty)
    exact ⟨before, List.prefix_refl before, (solid.behind before).trimEnd_eq⟩

/-- What is left of a trimmed string, if anything is. -/
theorem nonBlank?_eq_some_iff {text core : String} :
    nonBlank? text = some core ↔ core.toList = trim text.toList ∧ core.toList ≠ [] := by
  -- Strings are equal as soon as their characters are.
  unfold nonBlank?
  by_cases empty : trim text.toList = []
  · simp [empty]
  · rw [if_neg (by simpa using empty), Option.some.injEq, ← String.toList_inj, String.toList_ofList]
    constructor
    · intro same
      exact ⟨same.symm, same ▸ empty⟩
    · rintro ⟨same, _⟩
      exact same.symm

end TodoMarkers.Text
