import TodoMarkers.Vocabulary.DisplayMode
import TodoMarkers.Vocabulary.Key

/-! Glyph overrides, and the vocabulary of effective glyphs that they give. -/

namespace TodoMarkers

/-- A table of glyphs by slug, in the order of first appearance and with each slug once. -/
structure GlyphTable where
  /-- The slugs and their glyphs. -/
  entries : List (String × String)
  /-- No slug appears twice. -/
  distinct : (entries.map Prod.fst).Nodup
  deriving DecidableEq

namespace GlyphTable

/-- The table without entries. -/
def empty : GlyphTable :=
  ⟨[], List.nodup_nil⟩

/-- The glyph of a slug. -/
def get? (table : GlyphTable) (slug : String) : Option String :=
  table.entries.lookup slug

/-- Gives a slug its glyph in place, or appends it when it is new. -/
def insertEntry (slug glyph : String) : List (String × String) → List (String × String)
  | [] => [(slug, glyph)]
  | entry :: rest =>
    if entry.1 = slug then (slug, glyph) :: rest else entry :: insertEntry slug glyph rest

/-- Inserting adds at most the slug itself. -/
theorem mem_keys_insertEntry {slug glyph key : String} {entries : List (String × String)} :
    key ∈ (insertEntry slug glyph entries).map Prod.fst ↔
      key = slug ∨ key ∈ entries.map Prod.fst := by
  -- Every step keeps its head, and the last one adds the slug.
  induction entries with
  | nil => simp [insertEntry]
  | cons entry rest ih =>
    by_cases same : entry.1 = slug
    · simp [insertEntry, same]
    · simp only [insertEntry, same, if_false, List.map_cons, List.mem_cons, ih]
      exact or_left_comm

/-- Inserting keeps the slugs distinct. -/
theorem nodup_keys_insertEntry {slug glyph : String} {entries : List (String × String)}
    (distinct : (entries.map Prod.fst).Nodup) :
    ((insertEntry slug glyph entries).map Prod.fst).Nodup := by
  -- A kept head differs from the slug, so it is not in the changed tail either.
  induction entries with
  | nil => simp [insertEntry]
  | cons entry rest ih =>
    simp only [List.map_cons, List.nodup_cons] at distinct
    obtain ⟨fresh, tail⟩ := distinct
    unfold insertEntry
    split
    · rename_i same
      exact List.nodup_cons.2 ⟨same ▸ fresh, tail⟩
    · rename_i other
      refine List.nodup_cons.2 ⟨fun member => ?_, ih tail⟩
      exact (mem_keys_insertEntry.1 member).elim other fresh

/-- The table in which a slug has a new glyph. -/
def insert (table : GlyphTable) (slug glyph : String) : GlyphTable :=
  ⟨insertEntry slug glyph table.entries, nodup_keys_insertEntry table.distinct⟩

/-- The table of a list of entries, where a later glyph of a slug replaces an earlier one. -/
def ofEntries (entries : List (String × String)) : GlyphTable :=
  entries.foldl (fun table entry => table.insert entry.1 entry.2) empty

/-- Whether a table has no entry. -/
def isEmpty (table : GlyphTable) : Bool :=
  table.entries.isEmpty

end GlyphTable

/-- Glyph overrides, one table for each category. -/
structure GlyphOverrides where
  /-- Overrides of priority glyphs. -/
  priority : GlyphTable := .empty
  /-- Overrides of kind glyphs. -/
  kind : GlyphTable := .empty
  /-- Overrides of context glyphs. -/
  context : GlyphTable := .empty
  /-- Overrides of metadata glyphs. -/
  metadata : GlyphTable := .empty
  deriving DecidableEq

namespace GlyphOverrides

/-- The table of a category. -/
def table (overrides : GlyphOverrides) : Category → GlyphTable
  | .priority => overrides.priority
  | .kind => overrides.kind
  | .context => overrides.context
  | .metadata => overrides.metadata

/-- Whether nothing is overridden. -/
def isEmpty (overrides : GlyphOverrides) : Bool :=
  Category.all.all fun category => (overrides.table category).isEmpty

/-- The second spelling under which the blocking flag may be overridden. -/
def joinedBlockCommit : String :=
  "blockCommit"

/-- The override of a key, absent when it is blank.

The blocking flag is looked up under its slug first, then under its joined spelling. -/
def glyph? (overrides : GlyphOverrides) (key : Key) : Option String :=
  let table := overrides.table key.category
  let found := table.get? key.slug
  let found :=
    if key = .metadata .blockCommit then found <|> table.get? joinedBlockCommit else found
  found.filter fun glyph => !(Text.trim glyph.toList).isEmpty

end GlyphOverrides

/-- The effective glyph of every key. -/
structure Vocabulary where
  /-- The glyph of a key. -/
  glyph : Key → String

/-- One key as a vocabulary lists it. -/
structure VocabularyEntry where
  /-- The key. -/
  key : Key
  /-- Its effective glyph. -/
  glyph : String
  deriving DecidableEq, Repr

namespace Vocabulary

/-- The vocabulary whose default glyphs give way to the overrides. -/
def ofOverrides (overrides : GlyphOverrides) : Vocabulary :=
  ⟨fun key => (overrides.glyph? key).getD key.defaultGlyph⟩

/-- The vocabulary without overrides. -/
def standard : Vocabulary :=
  ofOverrides {}

/-- Every key with its glyph, in scan order. -/
def entries (vocabulary : Vocabulary) : List VocabularyEntry :=
  Key.all.map fun key => ⟨key, vocabulary.glyph key⟩

/-- The entries of one category. -/
def categoryEntries (vocabulary : Vocabulary) (category : Category) : List VocabularyEntry :=
  vocabulary.entries.filter fun entry => entry.key.category = category

/-- How a key is shown. -/
def display (vocabulary : Vocabulary) (mode : DisplayMode) (key : Key) : String :=
  match mode with
  | .emoji => vocabulary.glyph key
  | .text => key.name
  | .emojiText => vocabulary.glyph key ++ "-" ++ key.name.map Char.toLower

end Vocabulary

end TodoMarkers
