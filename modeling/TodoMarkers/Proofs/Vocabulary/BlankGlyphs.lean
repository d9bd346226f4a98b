import TodoMarkers.Proofs.Text.Blank
import TodoMarkers.Vocabulary.Glyph

/-! Blank overrides: tables without them give every key the same glyph, unless a blank override of
the blocking flag stands before one under its joined spelling. -/

namespace TodoMarkers

open Text

/-- Holds of the glyphs that show nothing: the empty one, and those of blanks alone. -/
def isBlankGlyph (glyph : String) : Bool :=
  glyph.toList.all isBlank

namespace GlyphTable

/-- The table without its blank glyphs. -/
def withoutBlanks (table : GlyphTable) : GlyphTable where
  entries := table.entries.filter fun entry => !isBlankGlyph entry.2
  distinct := table.distinct.sublist (List.filter_sublist.map _)

/-- A slug that is no key of some entries has no glyph among them, nor among some of them. -/
theorem lookup_filter_eq_none {entries : List (String × String)} {slug : String}
    (absent : slug ∉ entries.map Prod.fst) (keep : String × String → Bool) :
    (entries.filter keep).lookup slug = none := by
  -- An entry that is found would bring its slug along.
  rw [List.lookup_eq_none_iff]
  intro entry member
  have inside := List.mem_map_of_mem (f := Prod.fst) (List.mem_filter.1 member).1
  simpa using fun same : slug = entry.1 => absent (same ▸ inside)

/-- Without the blank glyphs, a slug keeps its glyph unless that one is blank. -/
theorem get?_withoutBlanks (table : GlyphTable) (slug : String) :
    table.withoutBlanks.get? slug = (table.get? slug).filter fun glyph => !isBlankGlyph glyph := by
  -- No second glyph of a slug comes to light when the first is taken away.
  obtain ⟨entries, distinct⟩ := table
  simp only [get?, withoutBlanks]
  induction entries with
  | nil => rfl
  | cons entry rest ih =>
    obtain ⟨name, glyph⟩ := entry
    simp only [List.map_cons, List.nodup_cons] at distinct
    obtain ⟨fresh, tail⟩ := distinct
    rw [List.filter_cons]
    by_cases same : slug = name
    · subst same
      cases blank : isBlankGlyph glyph with
      | true => simp [Option.filter, blank, lookup_filter_eq_none fresh]
      | false => simp [Option.filter, blank]
    · have other : (slug == name) = false := beq_eq_false_iff_ne.2 same
      split <;> simp [List.lookup_cons, other, ih tail]

end GlyphTable

namespace GlyphOverrides

/-- The overrides without their blank glyphs. -/
def withoutBlanks (overrides : GlyphOverrides) : GlyphOverrides where
  priority := overrides.priority.withoutBlanks
  kind := overrides.kind.withoutBlanks
  context := overrides.context.withoutBlanks
  metadata := overrides.metadata.withoutBlanks

/-- Every category loses its blank glyphs. -/
theorem table_withoutBlanks (overrides : GlyphOverrides) (category : Category) :
    overrides.withoutBlanks.table category = (overrides.table category).withoutBlanks := by
  -- The categories are gone through, since each is a field of its own.
  cases category <;> rfl

/-- The override of a key under its slug, blank or not. -/
def firstGlyph? (overrides : GlyphOverrides) (key : Key) : Option String :=
  (overrides.table key.category).get? key.slug

/-- The override of a key under a second spelling, which only the blocking flag has, blank or
not. -/
def secondGlyph? (overrides : GlyphOverrides) (key : Key) : Option String :=
  if key = .metadata .blockCommit then overrides.metadata.get? joinedBlockCommit else none

/-- Holds of a glyph under a key's second spelling behind which a blank one stands under its
slug. -/
def Hides (overrides : GlyphOverrides) (key : Key) (glyph : String) : Prop :=
  (∃ blank, overrides.firstGlyph? key = some blank ∧ isBlankGlyph blank = true) ∧
    overrides.secondGlyph? key = some glyph ∧ isBlankGlyph glyph = false

/-- The first override that is there is taken, and counts unless it is blank. -/
theorem glyph?_eq (overrides : GlyphOverrides) (key : Key) :
    overrides.glyph? key = ((overrides.firstGlyph? key).or (overrides.secondGlyph? key)).filter
      fun glyph => !isBlankGlyph glyph := by
  -- The definition asks for a blank after the look-up, and the filter does so too.
  have blank (glyph : String) : (trim glyph.toList).isEmpty = isBlankGlyph glyph := by
    rw [Bool.eq_iff_iff, List.isEmpty_iff, trim_eq_nil_iff, isBlankGlyph, List.all_eq_true]
  simp only [glyph?, blank, secondGlyph?]
  split
  · rename_i flag
    rw [flag, Option.orElse_eq_orElse, Option.orElse_eq_or]
    rfl
  · rw [Option.or_none]
    rfl

/-- Without the blank overrides, the first override that is not blank counts. -/
theorem glyph?_withoutBlanks (overrides : GlyphOverrides) (key : Key) :
    overrides.withoutBlanks.glyph? key =
      ((overrides.firstGlyph? key).filter fun glyph => !isBlankGlyph glyph).or
        ((overrides.secondGlyph? key).filter fun glyph => !isBlankGlyph glyph) := by
  -- Each of the two look-ups skips the blank entries by itself.
  have first : overrides.withoutBlanks.firstGlyph? key =
      (overrides.firstGlyph? key).filter fun glyph => !isBlankGlyph glyph := by
    rw [firstGlyph?, table_withoutBlanks, GlyphTable.get?_withoutBlanks, firstGlyph?]
  have second : overrides.withoutBlanks.secondGlyph? key =
      (overrides.secondGlyph? key).filter fun glyph => !isBlankGlyph glyph := by
    unfold secondGlyph?
    split
    · exact GlyphTable.get?_withoutBlanks _ _
    · rfl
  -- What is left is not blank, so that the test at the end takes nothing more away.
  rw [glyph?_eq, first, second]
  cases overrides.firstGlyph? key <;> cases overrides.secondGlyph? key <;> grind

/-- A glyph is hidden exactly if it comes to light without the blank overrides alone. -/
theorem hides_iff {overrides : GlyphOverrides} {key : Key} {glyph : String} :
    overrides.Hides key glyph ↔
      overrides.glyph? key = none ∧ overrides.withoutBlanks.glyph? key = some glyph := by
  -- The two look-ups are nothing, blank or a glyph, which makes finitely many cases.
  rw [glyph?_eq, glyph?_withoutBlanks, Hides]
  cases overrides.firstGlyph? key <;> cases overrides.secondGlyph? key <;> grind

/-- Without the blank overrides a key keeps the glyph that it has. -/
theorem glyph?_withoutBlanks_of_eq_some {overrides : GlyphOverrides} {key : Key} {glyph : String}
    (given : overrides.glyph? key = some glyph) :
    overrides.withoutBlanks.glyph? key = some glyph := by
  -- A glyph in force is not blank, so it is left where it is.
  rw [glyph?_eq] at given
  rw [glyph?_withoutBlanks]
  cases first : overrides.firstGlyph? key <;>
    cases second : overrides.secondGlyph? key <;> grind

/-- Only the blocking flag has a second spelling under which a glyph can be hidden. -/
theorem Hides.eq_blockCommit {overrides : GlyphOverrides} {key : Key} {glyph : String}
    (hides : overrides.Hides key glyph) : key = .metadata .blockCommit := by
  -- Other keys have no second spelling.
  by_contra other
  simpa [secondGlyph?, other] using hides.2.1

end GlyphOverrides

/-- Blank overrides change nothing, except that one under the slug of the blocking flag hides the
glyph under its joined spelling.

An override of a key is the same with and without the blank entries of the tables exactly if none is
hidden, and its effective glyph is the same exactly if none is hidden but the default one. A glyph
can be hidden from the blocking flag alone, and it is hidden exactly if the key has no override with
the blank entries and that glyph without them. -/
theorem GlyphOverrides.glyph_withoutBlanks_iff (overrides : GlyphOverrides) (key : Key) :
    (overrides.glyph? key = overrides.withoutBlanks.glyph? key ↔
      ∀ glyph, ¬ overrides.Hides key glyph) ∧
    ((Vocabulary.ofOverrides overrides).glyph key =
        (Vocabulary.ofOverrides overrides.withoutBlanks).glyph key ↔
      ∀ glyph, overrides.Hides key glyph → glyph = key.defaultGlyph) ∧
    ∀ glyph, overrides.Hides key glyph ↔
      key = .metadata .blockCommit ∧ overrides.glyph? key = none ∧
        overrides.withoutBlanks.glyph? key = some glyph := by
  -- The two look-ups agree unless the first gives nothing and the second something.
  simp only [GlyphOverrides.hides_iff, Vocabulary.ofOverrides]
  cases given : overrides.glyph? key with
  | some glyph => simp [GlyphOverrides.glyph?_withoutBlanks_of_eq_some given]
  | none =>
    cases bare : overrides.withoutBlanks.glyph? key with
    | none => simp
    | some glyph =>
      have flag := (GlyphOverrides.hides_iff.2 ⟨given, bare⟩).eq_blockCommit
      simp [flag, eq_comm]

/-- A blank override under the slug hides the glyph that the tables without it give. -/
theorem GlyphOverrides.blank_hides_joined :
    let overrides : GlyphOverrides :=
  -- The two entries are looked up under both spellings.
      { metadata := GlyphTable.ofEntries [("block-commit", " "), ("blockCommit", "🚫")] }
    overrides.glyph? (.metadata .blockCommit) = none ∧
      overrides.withoutBlanks.glyph? (.metadata .blockCommit) = some "🚫" ∧
      (Vocabulary.ofOverrides overrides).glyph (.metadata .blockCommit) = "⛔" ∧
      (Vocabulary.ofOverrides overrides.withoutBlanks).glyph (.metadata .blockCommit) = "🚫" := by
  decide

end TodoMarkers
