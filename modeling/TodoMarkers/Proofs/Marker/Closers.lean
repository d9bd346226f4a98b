import Mathlib.Logic.Function.Iterate
import TodoMarkers.Proofs.Record

/-! Comment closers at the end of a marker's line: the last is left out of the remainder and of the
fields' text, the one before it of the text alone, and those before it of neither. -/

namespace TodoMarkers

open Text

namespace Marker

/-- A text that ends in so many comment closers at least, with or without blanks around each. -/
def EndsInClosers : Nat → List Char → Prop
  | 0, _ => True
  | count + 1, text => ∃ before, ∃ closer ∈ commentClosers,
      trim text = before ++ closer ∧ EndsInClosers count before

/-- Blanks around a text are no matter for the closers at its end. -/
theorem endsInClosers_trim (count : Nat) (text : List Char) :
    EndsInClosers count (trim text) ↔ EndsInClosers count text := by
  -- The text is trimmed first in any case.
  cases count with
  | zero => exact Iff.rfl
  | succ count => rw [EndsInClosers, trim_trim, EndsInClosers]

/-- A text ends in one closer at most. -/
theorem closer_eq_of_suffix {first second text : List Char} (known : first ∈ commentClosers)
    (other : second ∈ commentClosers) (ends : first <:+ text) (too : second <:+ text) :
    first = second := by
  -- The shorter of two ends of one text is an end of the longer one.
  have apart : ∀ first ∈ commentClosers, ∀ second ∈ commentClosers,
      first <:+ second → first = second := by decide
  rcases List.suffix_or_suffix_of_suffix ends too with shorter | longer
  · exact apart first known second other shorter
  · exact (apart second other first known longer).symm

/-- The closer at the end of a trimmed text is taken away with the blanks in front of it. -/
theorem stripCloser_of_closer {text before closer : List Char} (known : closer ∈ commentClosers)
    (whole : trim text = before ++ closer) : stripCloser text = trim before := by
  -- The text ends in a closer, so one is taken away, and it can only be this one.
  rcases stripCloser_cases text with ⟨_, plain⟩ | ⟨shorter, other, listed, same, stripped⟩
  · exact absurd ⟨closer, known, before, whole.symm⟩ plain
  · -- No other closer ends the text, so what stands before the closer is the same.
    obtain rfl := closer_eq_of_suffix known listed ⟨before, whole.symm⟩ ⟨shorter, same.symm⟩
    rw [stripped, List.append_cancel_right (whole.symm.trans same)]

/-- The last of several closers is the one that is taken away. -/
theorem endsInClosers_succ_iff {count : Nat} {text : List Char} :
    EndsInClosers (count + 1) text ↔
      EndsInCloser (trim text) ∧ EndsInClosers count (stripCloser text) := by
  -- The last closer is settled by the text, so what is before it is what the step leaves.
  constructor
  · rintro ⟨before, closer, known, whole, more⟩
    refine ⟨⟨closer, known, before, whole.symm⟩, ?_⟩
    rwa [stripCloser_of_closer known whole, endsInClosers_trim]
  · rintro ⟨⟨closer, known, before, whole⟩, more⟩
    rw [stripCloser_of_closer known whole.symm, endsInClosers_trim] at more
    exact ⟨before, closer, known, whole.symm, more⟩

instance decidableEndsInClosers : (count : Nat) → (text : List Char) →
    Decidable (EndsInClosers count text)
  | 0, _ => isTrue trivial
  | count + 1, text =>
    have := decidableEndsInClosers count (stripCloser text)
    decidable_of_iff _ endsInClosers_succ_iff.symm

/-- A trimmed text stays as it is exactly if it ends in no closer. -/
theorem stripCloser_eq_self_iff {text : List Char} (trimmed : trim text = text) :
    stripCloser text = text ↔ ¬ EndsInCloser text := by
  -- Without a closer only trimming is left to do, and with one the text gets shorter.
  rcases stripCloser_cases text with ⟨same, plain⟩ | ⟨shorter, closer, known, whole, stripped⟩
  · rw [trimmed] at same plain
    exact iff_of_true same plain
  · rw [trimmed] at whole
    refine iff_of_false (fun same => ?_) (not_not_intro ⟨closer, known, shorter, whole.symm⟩)
    -- Without its closer the text is shorter.
    have some_ : ∀ closer ∈ commentClosers, 0 < closer.length := by decide
    have positive := some_ closer known
    have short : (trim shorter).length ≤ shorter.length :=
      (trim_prefix_trimStart shorter).length_le.trans (List.dropWhile_suffix isBlank).length_le
    have lengths := congrArg List.length whole
    rw [← stripped, same] at short
    rw [List.length_append] at lengths
    omega

/-- A text ends in more closers than are taken away exactly if one is left. -/
theorem endsInClosers_succ_iff_iterate (count : Nat) (text : List Char) :
    EndsInClosers (count + 1) text ↔ EndsInCloser (stripCloser^[count] (trim text)) := by
  -- Each step takes the last closer, and from a text without closers no step takes anything.
  induction count generalizing text with
  | zero =>
    rw [endsInClosers_succ_iff]
    exact and_iff_left trivial
  | succ count ih =>
    have again : stripCloser (trim text) = stripCloser text := by
      rw [stripCloser, trim_trim, ← stripCloser]
    rw [endsInClosers_succ_iff, ih, trim_stripCloser, Function.iterate_succ_apply, again]
    refine and_iff_right_of_imp fun left => ?_
    -- Without a closer at its end the text would be left as it is by every step.
    by_contra plain
    have fixed := (stripCloser_eq_self_iff (trim_trim text)).2 plain
    rw [← again, fixed, Function.iterate_fixed fixed] at left
    exact plain left

end Marker

namespace Grammar

open Marker

/-- The fields of two texts are the same if the texts differ in what is taken away at first only. -/
theorem extractFields_eq_iff {grammar : Grammar} {text other : List Char} :
    grammar.extractFields text = grammar.extractFields other ↔
      stripCloser text = stripCloser other := by
  -- The text without its closer is itself one of the fields.
  constructor
  · intro same
    exact String.ofList_injective (congrArg MarkerFields.text same)
  · intro same
    rw [extractFields, extractFields, same]

/-- How many comment closers end a marker's content decides what its two computations agree on.

The remainder is the text of the fields exactly if no two closers end the content. No closer ends
the text, and reading the text again gives the same fields, exactly if no three do. -/
theorem remainder_agrees_iff (grammar : Grammar) {line : List Char} {fields : MarkerFields}
    (parsed : grammar.parseLine? line = some fields) :
    ∃ content, firstContent? line = some content ∧
      (remainder? line = some fields.text.toList ↔ ¬ EndsInClosers 2 content) ∧
      (¬ EndsInCloser fields.text.toList ↔ ¬ EndsInClosers 3 content) ∧
      (grammar.extractFields fields.text.toList = fields ↔ ¬ EndsInClosers 3 content) := by
  -- The remainder is one step away from the content, and the text of the fields is two.
  obtain ⟨content, found, some_, read⟩ := parseLine?_eq_some_iff.1 parsed
  have remainder : remainder? line = some (stripCloser (trim content)) := by
    simp [remainder?, found, some_]
  have text : fields.text.toList = stripCloser (stripCloser (trim content)) := by
    rw [read, extractFields]
    exact String.toList_ofList
  -- Each part asks whether a closer is left after one step or after two.
  have twice : EndsInClosers 2 content ↔ EndsInCloser (stripCloser (trim content)) := by
    rw [endsInClosers_succ_iff_iterate, Function.iterate_one]
  have thrice : EndsInClosers 3 content ↔
      EndsInCloser (stripCloser (stripCloser (trim content))) := by
    rw [endsInClosers_succ_iff_iterate, Function.iterate_succ_apply, Function.iterate_one]
  refine ⟨content, found, ?_, ?_, ?_⟩
  · rw [remainder, text, Option.some.injEq, eq_comm, stripCloser_eq_self_iff (trim_stripCloser _),
      twice]
  · rw [text, thrice]
  · rw [text, read, extractFields_eq_iff, stripCloser_eq_self_iff (trim_stripCloser _), thrice]

/-- Two closers of different sorts are taken away one by one, so only the remainder keeps one. -/
theorem remainder_agrees_iff_two_closers :
    ∃ fields, standard.parseLine? "<!-- TODO: x */ -->".toList = some fields ∧
      remainder? "<!-- TODO: x */ -->".toList ≠ some fields.text.toList ∧
      ¬ EndsInCloser fields.text.toList ∧
      standard.extractFields fields.text.toList = fields := by
  -- The content ends in two closers but not in three, which settles every part.
  refine ⟨{ text := "x", rawText := "x" }, by decide, ?_⟩
  obtain ⟨content, found, agrees, complete, stable⟩ :=
    standard.remainder_agrees_iff
      (show standard.parseLine? "<!-- TODO: x */ -->".toList =
        some { text := "x", rawText := "x" } by decide)
  obtain rfl : "x */ -->".toList = content := by
    rw [← Option.some.injEq, ← found]
    decide
  exact ⟨fun same => agrees.1 same (by decide), complete.2 (by decide), stable.2 (by decide)⟩

/-- Of three closers one is left in the text of the fields, which reads differently again. -/
theorem remainder_disagrees_three_closers :
    ∃ fields, standard.parseLine? "TODO: x */ */ */".toList = some fields ∧
      remainder? "TODO: x */ */ */".toList ≠ some fields.text.toList ∧
      EndsInCloser fields.text.toList ∧
      standard.extractFields fields.text.toList ≠ fields :=
  -- The line is a closed text, and each part is evaluated on it.
  ⟨{ text := "x */", rawText := "x */" }, by decide, by decide, by decide, by decide⟩

end Grammar

end TodoMarkers
