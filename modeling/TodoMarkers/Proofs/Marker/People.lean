import TodoMarkers.Proofs.Marker.Blocks

/-! The block that says who a person is: the leftmost one of a text, and at one place the one under
the first name that fits. -/

namespace TodoMarkers

open Text

namespace Marker

/-- A block that is written in a text under one of some names. -/
structure WrittenBlock (names : List String) where
  /-- What stands before the block. -/
  before : List Char
  /-- The name of the block. -/
  name : String
  /-- The blank behind the colon. -/
  blank : Char
  /-- What stands between the blank and the closing bracket. -/
  run : List Char
  /-- What stands behind the block. -/
  after : List Char
  /-- The name is one of the names. -/
  listed : name ∈ names
  /-- The blank is one. -/
  spaced : isBlank blank = true
  /-- Something stands behind the blank. -/
  some_ : run ≠ []
  /-- The closing bracket is the first one behind the blank. -/
  closed : ']' ∉ run

namespace WrittenBlock

variable {names : List String}

/-- What stands behind the opening bracket. -/
def inner (block : WrittenBlock names) : List Char :=
  block.name.toList ++ ':' :: block.blank :: (block.run ++ ']' :: block.after)

/-- The text in which the block is written. -/
def text (block : WrittenBlock names) : List Char :=
  block.before ++ '[' :: block.inner

/-- A block stands before another, or at one place with it under a name that is not listed later. -/
def Precedes (block other : WrittenBlock names) : Prop :=
  block.before.length < other.before.length ∨
    (block.before.length = other.before.length ∧ names.idxOf block.name ≤ names.idxOf other.name)

/-- A block precedes all blocks of its text. -/
def First (block : WrittenBlock names) : Prop :=
  ∀ other : WrittenBlock names, other.text = block.text → block.Precedes other

/-- The same block behind something else. -/
def behind (block : WrittenBlock names) (before : List Char) : WrittenBlock names :=
  { block with before }

/-- The name of a block fits at its opening bracket. -/
theorem fits (block : WrittenBlock names) :
    (stripPrefix? block.name.toList block.inner).bind blockValue? = some block.run := by
  -- The name is split off, and the run is closed behind it.
  rw [inner, stripPrefix?_eq_some_iff.2 rfl, Option.bind_some, blockValue?_eq_some_iff]
  exact ⟨block.blank, block.after, rfl, block.spaced, block.some_, block.closed⟩

/-- The first blocks of one text say the same. -/
theorem run_eq {block other : WrittenBlock names} (first : block.First) (another : other.First)
    (same : other.text = block.text) : other.run = block.run := by
  -- Each precedes the other, so they stand at one place and have one name.
  have tied : other.before.length = block.before.length ∧
      names.idxOf other.name = names.idxOf block.name := by
    have before := first other same
    have behind := another block same.symm
    unfold Precedes at before behind
    omega
  have name : other.name = block.name := (List.idxOf_inj other.listed).1 tied.2
  have inner := (List.cons.inj (List.append_inj_right same tied.1)).2
  rw [WrittenBlock.inner, WrittenBlock.inner, name, List.append_cancel_left_eq, List.cons.injEq,
    List.cons.injEq] at inner
  exact (eq_of_first_occurrence other.closed block.closed inner.2.2).1

end WrittenBlock

variable {names : List String} {text run : List Char}

/-- What is read at the head of a text is the run of a block there, under the first name that
fits. -/
theorem exists_block_of_blockAt? (found : blockAt? names text = some run) :
    ∃ block : WrittenBlock names, block.before = [] ∧ block.text = text ∧ block.run = run ∧
      ∀ other : WrittenBlock names, other.before = [] → other.text = text →
        names.idxOf block.name ≤ names.idxOf other.name := by
  -- The first name that fits has the value, and the names before it do not fit.
  unfold blockAt? at found
  split at found
  · rename_i rest
    obtain ⟨earlier, name, later, rfl, fits, passed⟩ := List.findSome?_eq_some_iff.1 found
    obtain ⟨behind, stripped, read⟩ := Option.bind_eq_some_iff.1 fits
    obtain ⟨blank, after, rfl, spaced, some_, closed⟩ := blockValue?_eq_some_iff.1 read
    -- None of the names listed earlier fits, so neither the block nor another one has such a name.
    have fresh : name ∉ earlier := fun member => by
      rw [passed name member] at fits
      contradiction
    refine ⟨⟨[], name, blank, run, after, by simp, spaced, some_, closed⟩, rfl, ?_, rfl, ?_⟩
    · rw [stripPrefix?_eq_some_iff.1 stripped]
      rfl
    · intro other start whole
      have inner : other.inner = rest := by
        rw [WrittenBlock.text, start, List.nil_append] at whole
        exact (List.cons.inj whole).2
      have unlisted : other.name ∉ earlier := fun member => by
        have fails := passed other.name member
        rw [← inner, other.fits] at fails
        contradiction
      rw [List.idxOf_append_of_notMem fresh, List.idxOf_cons_self,
        List.idxOf_append_of_notMem unlisted]
      omega
  · contradiction

/-- Something is read at the head of a text that starts with a block. -/
theorem exists_blockAt?_of_block (block : WrittenBlock names) :
    ∃ run, blockAt? names ('[' :: block.inner) = some run := by
  -- The name of the block is listed and fits, so the search finds one.
  cases found : blockAt? names ('[' :: block.inner) with
  | some run => exact ⟨run, rfl⟩
  | none =>
    have fails := List.findSome?_eq_none_iff.1 found block.name block.listed
    rw [block.fits] at fails
    contradiction

/-- What is found first is the run of a first block. -/
theorem exists_first_of_firstBlock? (found : firstBlock? names text = some run) :
    ∃ block : WrittenBlock names, block.text = text ∧ block.First ∧ block.run = run := by
  -- The search passes the places at which no block stands.
  induction text with
  | nil => simp [firstBlock?] at found
  | cons c rest ih =>
    rw [firstBlock?] at found
    split at found
    · rename_i value read
      obtain rfl := Option.some.inj found
      obtain ⟨block, start, whole, same, least⟩ := exists_block_of_blockAt? read
      refine ⟨block, whole, fun other shared => ?_, same⟩
      rcases Nat.eq_zero_or_pos other.before.length with here | later
      · have empty := List.length_eq_zero_iff.1 here
        exact .inr ⟨by rw [start, empty], least other empty (shared.trans whole)⟩
      · exact .inl (by rwa [start])
    · rename_i absent
      obtain ⟨block, whole, first, same⟩ := ih found
      have line : (block.behind (c :: block.before)).text = c :: rest := congrArg (c :: ·) whole
      refine ⟨block.behind (c :: block.before), line, fun other shared => ?_, same⟩
      rw [line] at shared
      cases start : other.before with
      | nil =>
        -- A block would stand right here.
        obtain ⟨value, read⟩ := exists_blockAt?_of_block other
        rw [WrittenBlock.text, start, List.nil_append] at shared
        rw [← shared, read] at absent
        contradiction
      | cons d before =>
        rw [WrittenBlock.text, start, List.cons_append, List.cons.injEq] at shared
        have order := first (other.behind before) (shared.2.trans whole.symm)
        simp only [WrittenBlock.Precedes, WrittenBlock.behind, start, List.length_cons] at order ⊢
        omega

/-- Where a block is written something is found. -/
theorem exists_firstBlock?_of_block (block : WrittenBlock names) :
    ∃ run, firstBlock? names block.text = some run := by
  -- The search ends at the block, if it does not end before.
  rw [WrittenBlock.text]
  induction block.before with
  | nil =>
    obtain ⟨run, read⟩ := exists_blockAt?_of_block block
    exact ⟨run, by rw [List.nil_append, firstBlock?, read]⟩
  | cons c before ih =>
    rw [List.cons_append, firstBlock?]
    split
    · exact ⟨_, rfl⟩
    · exact ih

/-- What is found first is the run of the first blocks. -/
theorem firstBlock?_eq_some_iff :
    firstBlock? names text = some run ↔
      ∃ block : WrittenBlock names, block.text = text ∧ block.First ∧ block.run = run := by
  -- Something is found where there is a block, and two first blocks have one run.
  refine ⟨exists_first_of_firstBlock?, ?_⟩
  rintro ⟨block, rfl, first, rfl⟩
  obtain ⟨run, found⟩ := exists_firstBlock?_of_block block
  obtain ⟨other, same, another, rfl⟩ := exists_first_of_firstBlock? found
  rw [found, WrittenBlock.run_eq first another same]

/-- A text says who a person is by its first block under some names. -/
structure NamesPerson (names : List String) (text : List Char) (person : Option String) : Prop where
  /-- The person is what the first block says, without blanks around it, unless nothing is left. -/
  first : ∀ block : WrittenBlock names, block.text = text → block.First →
    person = if trim block.run = [] then none else some (String.ofList (trim block.run))
  /-- Where a block is written there is a first one. -/
  exists_first : ∀ block : WrittenBlock names, block.text = text →
    ∃ other : WrittenBlock names, other.text = text ∧ other.First
  /-- Without a block nobody is named. -/
  absent : (∀ block : WrittenBlock names, block.text ≠ text) → person = none
  /-- A name counts for nothing unless a blank stands behind its colon. -/
  unspaced : (∀ before name c after, name ∈ names →
    text = before ++ '[' :: (name.toList ++ ':' :: c :: after) → isBlank c = false) → person = none

/-- The person whom the blocks of a text name is named by the first one. -/
theorem namesPerson_blockText? (names : List String) (text : List Char) :
    NamesPerson names text (blockText? names text) := by
  -- What is found is the run of a block that is written in the text.
  have absent (free : ∀ block : WrittenBlock names, block.text ≠ text) :
      blockText? names text = none := by
    rw [blockText?, Option.bind_eq_none_iff]
    intro run found
    obtain ⟨block, whole, _⟩ := firstBlock?_eq_some_iff.1 found
    exact absurd whole (free block)
  refine ⟨fun block whole first => ?_, fun block whole => ?_, absent,
    fun none => absent fun block whole => ?_⟩
  · rw [blockText?, firstBlock?_eq_some_iff.2 ⟨block, whole, first, rfl⟩, Option.bind_some,
      nonBlank?, String.toList_ofList]
    simp only [List.isEmpty_iff]
  · obtain ⟨run, found⟩ := exists_firstBlock?_of_block block
    obtain ⟨other, same, first, _⟩ := firstBlock?_eq_some_iff.1 (whole ▸ found)
    exact ⟨other, same, first⟩
  · -- The blank of a block stands behind its colon.
    have solid := none block.before block.name block.blank _ block.listed whole.symm
    rw [block.spaced] at solid
    contradiction

/-- Listing a name once more changes nothing at the head of a text. -/
theorem blockAt?_concat {name : String} (listed : name ∈ names) (text : List Char) :
    blockAt? (names ++ [name]) text = blockAt? names text := by
  -- The name has been tried already when its second listing is reached.
  unfold blockAt?
  split
  · rename_i rest
    rw [List.findSome?_append]
    cases found : names.findSome? fun name => (stripPrefix? name.toList rest).bind blockValue? with
    | some value => rfl
    | none =>
      have fails := List.findSome?_eq_none_iff.1 found name listed
      rw [List.findSome?_singleton, fails]
      rfl
  · rfl

/-- Listing a name once more changes nothing of what a text says. -/
theorem blockText?_concat {name : String} (listed : name ∈ names) (text : List Char) :
    blockText? (names ++ [name]) text = blockText? names text := by
  -- Nothing changes at any place of the text.
  have same : firstBlock? (names ++ [name]) text = firstBlock? names text := by
    induction text with
    | nil => rfl
    | cons c rest ih => rw [firstBlock?, firstBlock?, blockAt?_concat listed, ih]
  rw [blockText?, blockText?, same]

end Marker

/-- An override that is not blank is the glyph of its key. -/
theorem GlyphOverrides.glyph?_metadata {overrides : GlyphOverrides} {key : Metadata}
    {glyph : String} (given : overrides.metadata.get? key.slug = some glyph)
    (body : trim glyph.toList ≠ []) :
    overrides.glyph? (.metadata key) = some glyph := by
  -- The second spelling of a flag is not looked up if the first one is found.
  have found : (overrides.table (Key.metadata key).category).get? (Key.metadata key).slug =
      some glyph := given
  unfold GlyphOverrides.glyph?
  simp [found, body]

namespace Grammar

/-- The blocks of an overridden key are named by its slug, its default glyph and the override. -/
theorem namesPerson_of_override {overrides : GlyphOverrides} {key : Metadata} {glyph : String}
    (given : overrides.metadata.get? key.slug = some glyph) (body : trim glyph.toList ≠ [])
    (text : List Char) :
    Marker.NamesPerson [key.slug, key.defaultGlyph, glyph] text
      (Marker.blockText? (blockNames (.ofOverrides overrides) key) text) := by
  -- The list of names is the given one, but for a glyph that is the default.
  have configured : (Vocabulary.ofOverrides overrides).glyph (.metadata key) = glyph := by
    simp [Vocabulary.ofOverrides, GlyphOverrides.glyph?_metadata given body]
  have people := Marker.namesPerson_blockText? [key.slug, key.defaultGlyph, glyph] text
  simp only [blockNames, configured]
  by_cases same : glyph = key.defaultGlyph
  · -- The default glyph is not listed again.
    have listed : glyph ∈ [key.slug, key.defaultGlyph] := by simp [same]
    rwa [if_pos same, List.append_nil, ← Marker.blockText?_concat listed]
  · rwa [if_neg same]

/-- Overridden glyphs name blocks as they are written, and the leftmost block names the person.

The names of a block are the slug of its key, the default glyph and the override, which may hold any
characters. At one place the first name that fits counts. -/
theorem extractFields_people (overrides : GlyphOverrides) (remainder : List Char) :
    let fields := (ofVocabulary (.ofOverrides overrides)).extractFields remainder
    (∀ glyph, overrides.metadata.get? Metadata.assignee.slug = some glyph →
      trim glyph.toList ≠ [] → Marker.NamesPerson
        [Metadata.assignee.slug, Metadata.assignee.defaultGlyph, glyph] fields.text.toList
        fields.assignee) ∧
    (∀ glyph, overrides.metadata.get? Metadata.author.slug = some glyph →
      trim glyph.toList ≠ [] → Marker.NamesPerson
        [Metadata.author.slug, Metadata.author.defaultGlyph, glyph] fields.text.toList
        fields.author) := by
  -- Both people are named by blocks of the same text, under lists of their own.
  intro fields
  -- Blocks are looked for in the text from which the slots are taken, too.
  have text : fields.text.toList = Marker.stripCloser remainder := String.toList_ofList
  rw [text]
  exact ⟨fun glyph given body => namesPerson_of_override given body _,
    fun glyph given body => namesPerson_of_override given body _⟩

/-- The slug counts before a glyph that starts like it, and a blank first block names nobody. -/
theorem extractFields_people_shared_start :
    let table := GlyphTable.ofEntries [("assignee", "assignee: [.*]"), ("author", "\\S+:")]
    let fields := (ofVocabulary (.ofOverrides { metadata := table })).extractFields
      "[assignee: [.*]: Zoe] [\\S+:: \t] [author: Bob] */".toList
    Marker.NamesPerson ["assignee", "👤", "assignee: [.*]"] fields.text.toList (some "[.*") ∧
      Marker.NamesPerson ["author", "✍\uFE0F", "\\S+:"] fields.text.toList none := by
  -- The two fields are evaluated, and the law says by which blocks they are named.
  intro table fields
  obtain ⟨assignee, author⟩ := extractFields_people { metadata := table }
    "[assignee: [.*]: Zoe] [\\S+:: \t] [author: Bob] */".toList
  have said : fields.assignee = some "[.*" ∧ fields.author = none := by decide +kernel
  rw [← said.1, ← said.2]
  exact ⟨assignee "assignee: [.*]" (by decide) (by decide), author "\\S+:" (by decide) (by decide)⟩

end Grammar

end TodoMarkers
