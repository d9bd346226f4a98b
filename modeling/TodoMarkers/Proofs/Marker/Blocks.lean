import TodoMarkers.Insertion
import TodoMarkers.Marker.Fields
import TodoMarkers.Proofs.Decoration.Token
import TodoMarkers.Proofs.Marker.Fields

/-! The first block of a text that names people: what is passed before it, and what it says. -/

namespace TodoMarkers

open Text

/-- A slug in brackets, character by character. -/
theorem toList_bracketed (slug : String) :
    (bracketed slug).toList = '[' :: (slug.toList ++ [']']) := by
  -- The brackets are one character each.
  simp [bracketed]

namespace MetadataBlock

/-- The value of a block for one key, absent when the block has another key or a blank value. -/
def valueOf? (key : Metadata) (block : MetadataBlock) : Option String :=
  if block.key = key then nonBlank? block.value else none

/-- What stands between the brackets of a block. -/
def label (block : MetadataBlock) : List Char :=
  if block.key.takesValue then
    block.key.slug.toList ++ ':' :: ' ' :: trim block.value.toList
  else
    block.key.slug.toList

/-- A block is written as its label in brackets. -/
theorem toList_render (block : MetadataBlock) :
    block.render.toList = '[' :: (block.label ++ [']']) := by
  -- Only a key that takes a value is written with a colon behind its slug.
  unfold render label
  split
  · rw [toList_bracketed]
    simp [trimmed]
  · exact toList_bracketed _

/-- A block ends in a bracket. -/
theorem getLast?_render (block : MetadataBlock) : block.render.toList.getLast? = some ']' := by
  -- The label is followed by the closing bracket.
  rw [toList_render, ← List.cons_append]
  exact List.getLast?_concat

/-- A label opens no bracket, if its value does not. -/
theorem bracket_not_mem_label {block : MetadataBlock} (free : '[' ∉ block.value.toList) :
    '[' ∉ block.label := by
  -- Neither the slug nor the colon and space behind it is a bracket, so the value is left.
  have slug : '[' ∉ block.key.slug.toList := fun member =>
    ((Key.metadata block.key).slug_plain _ member).1 rfl
  have value : '[' ∉ trim block.value.toList := fun member => free (mem_of_mem_trim member)
  unfold label
  split
  · simp [slug, value]
  · exact slug

/-- A block has a value for its own key, if the value is not blank. -/
theorem valueOf?_eq_some_iff {key : Metadata} {block : MetadataBlock} {value : String} :
    block.valueOf? key = some value ↔
      block.key = key ∧ trim block.value.toList = value.toList ∧ value.toList ≠ [] := by
  -- Another key gives no value, and the right one gives what is left when it is trimmed.
  unfold valueOf?
  split
  · rename_i same
    rw [nonBlank?_eq_some_iff, eq_comm, and_iff_right same]
  · rename_i other
    simp [other]

end MetadataBlock

namespace Marker

/-- Names of blocks that stand for one key alone and hold no closing character. -/
structure NamesOnly (names : List String) (key : Metadata) : Prop where
  /-- The slug of the key is one of the names. -/
  slug : key.slug ∈ names
  /-- No name is the slug of another key. -/
  others : ∀ other : Metadata, other.slug ∈ names → other = key
  /-- Names hold neither brackets nor colons. -/
  solid : ∀ name ∈ names, ∀ c ∈ name.toList, isCloser c = false

/-- Names without closing characters hold no bracket. -/
theorem NamesOnly.bracketFree {names : List String} {key : Metadata} (named : NamesOnly names key) :
    ∀ name ∈ names, ']' ∉ name.toList := by
  -- A bracket is one of the closing characters.
  intro name listed member
  exact absurd (named.solid name listed ']' member) (by decide)

/-- Names hold no closing character if a check of all their characters says so. -/
theorem solid_of_all {names : List String}
    (checked : names.all (fun name => name.toList.all (!isCloser ·)) = true) :
    ∀ name ∈ names, ∀ c ∈ name.toList, isCloser c = false := by
  -- The check is the statement in boolean form.
  simpa using checked

/-- A block that is never closed has no value. -/
theorem blockValue?_unclosed {rest : List Char} (free : ']' ∉ rest) (blank : Char) :
    blockValue? (':' :: blank :: rest) = none := by
  -- What follows is passed to its end in search of a bracket.
  have behind : rest.dropWhile (· != ']') = [] :=
    List.dropWhile_eq_nil_iff.2 fun c member => by
      simpa using fun same : c = ']' => free (same ▸ member)
  simp [blockValue?, behind]

/-- The value of a block is what stands before the first bracket, unless that is nothing. -/
theorem blockValue?_closed {run : List Char} {blank : Char} (isBlank : Text.isBlank blank = true)
    (free : ']' ∉ run) (rest : List Char) :
    blockValue? (':' :: blank :: (run ++ ']' :: rest)) = if run = [] then none else some run := by
  -- The first bracket is the given one, so the run before it is known.
  have before := takeWhile_first_occurrence free rest
  have behind := dropWhile_first_occurrence free rest
  cases run with
  | nil => simp only [blockValue?, if_pos isBlank, before, behind, if_pos]
  | cons c run => simp only [blockValue?, if_pos isBlank, before, behind, reduceCtorEq, if_false]

/-- A block has a value if it is closed behind a colon, a blank, and some value. -/
theorem blockValue?_eq_some_iff {text value : List Char} :
    blockValue? text = some value ↔ ∃ blank rest,
      text = ':' :: blank :: (value ++ ']' :: rest) ∧ isBlank blank = true ∧ value ≠ [] ∧
        ']' ∉ value := by
  -- The form of the text is read off the definition, and a bracket splits the rest.
  constructor
  · intro found
    obtain ⟨blank, behind, rfl, isBlank⟩ : ∃ blank behind,
        text = ':' :: blank :: behind ∧ isBlank blank = true := by
      unfold blockValue? at found
      split at found
      · rename_i blank behind
        split at found
        · exact ⟨blank, behind, rfl, ‹_›⟩
        · contradiction
      · contradiction
    -- The value ends where the first bracket stands.
    by_cases closed : ']' ∈ behind
    · obtain ⟨run, rest, rfl, free⟩ := List.eq_append_cons_of_mem closed
      rw [blockValue?_closed isBlank free] at found
      split at found
      · contradiction
      · obtain rfl := Option.some.inj found
        exact ⟨blank, rest, rfl, isBlank, ‹_›, free⟩
    · rw [blockValue?_unclosed closed] at found
      contradiction
  · rintro ⟨blank, rest, rfl, isBlank, some_, free⟩
    rw [blockValue?_closed isBlank free, if_neg some_]

variable {names : List String} {key : Metadata} {text rest : List Char}

/-- A block at the head of a text is written under one of its names. -/
theorem blockAt?_eq_some {value : List Char} (found : blockAt? names text = some value) :
    ∃ name ∈ names, ∃ blank after,
      text = '[' :: (name.toList ++ ':' :: blank :: (value ++ ']' :: after)) ∧ value ≠ [] ∧
        ']' ∉ value := by
  -- One of the names is split off, and the value is read behind it.
  unfold blockAt? at found
  split at found
  · obtain ⟨name, listed, fits⟩ := List.exists_of_findSome?_eq_some found
    obtain ⟨behind, stripped, read⟩ := Option.bind_eq_some_iff.1 fits
    obtain ⟨blank, after, rfl, _, some_, free⟩ := blockValue?_eq_some_iff.1 read
    exact ⟨name, listed, blank, after, by rw [stripPrefix?_eq_some_iff.1 stripped], some_, free⟩
  · contradiction

/-- The search passes whatever holds no bracket. -/
theorem firstBlock?_append {before : List Char} (free : '[' ∉ before) (rest : List Char) :
    firstBlock? names (before ++ rest) = firstBlock? names rest := by
  -- A block can only start with a bracket.
  induction before with
  | nil => rfl
  | cons c before ih =>
    rw [List.mem_cons, not_or] at free
    have absent : blockAt? names (c :: (before ++ rest)) = none := by
      unfold blockAt?
      split
      · rename_i starts
        exact absurd (List.cons.inj starts).1.symm free.1
      · rfl
    rw [List.cons_append, firstBlock?, absent]
    exact ih free.2

/-- The search passes a space. -/
theorem firstBlock?_space (names : List String) (rest : List Char) :
    firstBlock? names (' ' :: rest) = firstBlock? names rest := by
  -- A space is a text without brackets.
  have free : '[' ∉ [' '] := by decide
  exact firstBlock?_append free rest

/-- The search passes the blanks at the start of a text. -/
theorem firstBlock?_trimStart (names : List String) (text : List Char) :
    firstBlock? names (trimStart text) = firstBlock? names text := by
  -- The blanks that are trimmed hold no bracket.
  have gap : '[' ∉ text.takeWhile isBlank := fun member =>
    absurd (List.mem_takeWhile_imp member) (by decide)
  rw [trimStart, ← firstBlock?_append gap, List.takeWhile_append_dropWhile]

/-- Without a bracket there is no block. -/
theorem firstBlock?_eq_none (free : '[' ∉ text) : firstBlock? names text = none := by
  -- Nothing is left when the whole text has been passed.
  have passed : firstBlock? names (text ++ []) = none := firstBlock?_append free []
  rw [List.append_nil] at passed
  exact passed

/-- The search passes brackets that are no block. -/
theorem firstBlock?_passed {inner : List Char} (free : '[' ∉ inner)
    (absent : blockAt? names ('[' :: (inner ++ ']' :: rest)) = none) :
    firstBlock? names ('[' :: (inner ++ ']' :: rest)) = firstBlock? names rest := by
  -- No block starts at the bracket, and none within the brackets.
  have closing : '[' ∉ inner ++ [']'] := by simp [free]
  rw [firstBlock?, absent, List.append_cons]
  exact firstBlock?_append closing rest

/-- A slug in brackets is no block, because no colon stands before its closing bracket. -/
theorem blockAt?_slug (free : ∀ name ∈ names, ']' ∉ name.toList) (slug : Key) (rest : List Char) :
    blockAt? names ('[' :: (slug.slug.toList ++ ']' :: rest)) = none := by
  -- A block's name would have to end before the closing bracket, with a colon behind it.
  rw [Option.eq_none_iff_forall_ne_some]
  intro value found
  obtain ⟨name, listed, blank, after, whole, _⟩ := blockAt?_eq_some found
  -- Either the name would reach past the bracket, or the slug would reach past the colon.
  rcases List.append_eq_append_iff.1 (List.cons.inj whole).2 with ⟨beyond, long, bracket⟩ |
    ⟨beyond, long, colon⟩
  · cases beyond with
    | nil => exact absurd (List.cons.inj bracket).1 (by decide)
    | cons c beyond =>
      obtain ⟨rfl, _⟩ := List.cons.inj bracket
      exact free name listed (by simp [long])
  · cases beyond with
    | nil => exact absurd (List.cons.inj colon).1 (by decide)
    | cons c beyond =>
      obtain ⟨rfl, _⟩ := List.cons.inj colon
      exact absurd (slug.slug_plain ':' (by simp [long])).2 (by decide)

/-- The search passes the token of every key. -/
theorem firstBlock?_token (free : ∀ name ∈ names, ']' ∉ name.toList) (slug : Key)
    (rest : List Char) :
    firstBlock? names (slug.token.toList ++ rest) = firstBlock? names rest := by
  -- A token is a slug in brackets.
  have inside : '[' ∉ slug.slug.toList := fun member => (slug.slug_plain _ member).1 rfl
  have written : slug.token.toList ++ rest = '[' :: (slug.slug.toList ++ ']' :: rest) := by
    rw [Key.token, toList_bracketed]
    simp
  rw [written]
  exact firstBlock?_passed inside (blockAt?_slug free slug rest)

/-- The search passes a slot, filled or not. -/
theorem firstBlock?_slot {α : Type} {token : α → String} (embed : α → Key)
    (tokens : ∀ key, (embed key).token = token key) (free : ∀ name ∈ names, ']' ∉ name.toList)
    {slot : Option α} {written : List Char} (writes : WritesSlot token slot written) :
    firstBlock? names (written ++ rest) = firstBlock? names rest := by
  -- A filled slot is a token and blanks, both of which are passed.
  cases slot with
  | none =>
    have empty : written = [] := writes
    rw [empty, List.nil_append]
  | some filled =>
    obtain ⟨blanks, rfl, blank⟩ := writes
    -- No bracket is among the blanks behind the token.
    have gap : '[' ∉ blanks := fun member => absurd (blank '[' member) (by decide)
    rw [List.append_assoc, ← tokens, firstBlock?_token free, firstBlock?_append gap]

/-- The search passes the slots at the head of a text. -/
theorem firstBlock?_takeSlots (free : ∀ name ∈ names, ']' ∉ name.toList) {slots : Slots}
    (read : takeSlots text = (slots, rest)) : firstBlock? names text = firstBlock? names rest := by
  -- The three slots are passed one after the other.
  obtain ⟨first, second, third, rfl, priority, kind, context⟩ := takeSlots_split read
  rw [List.append_assoc, List.append_assoc,
    firstBlock?_slot Key.priority (fun _ => rfl) free priority,
    firstBlock?_slot Key.kind (fun _ => rfl) free kind,
    firstBlock?_slot Key.context (fun _ => rfl) free context]

/-- A block with a value is read exactly if it has the key and its value is not empty. -/
theorem blockAt?_valued_eq_some_iff {other : Metadata} {written value : List Char}
    (named : NamesOnly names key) (free : ']' ∉ written) (rest : List Char) :
    blockAt? names ('[' :: (other.slug.toList ++ ':' :: ' ' :: (written ++ ']' :: rest))) =
      some value ↔ other = key ∧ written = value ∧ value ≠ [] := by
  -- The name that fits can only be the slug, so it is the key that decides.
  have read {value : List Char} (found : blockAt? names
      ('[' :: (other.slug.toList ++ ':' :: ' ' :: (written ++ ']' :: rest))) = some value) :
      other = key ∧ written = value ∧ value ≠ [] := by
    obtain ⟨name, listed, blank, after, whole, some_, closed⟩ := blockAt?_eq_some found
    -- The name ends at the first colon, and the value at the first bracket behind it.
    obtain ⟨same, _, tails⟩ := eq_of_first_separator
      (fun c member => ((Key.metadata other).slug_plain c member).2) (named.solid name listed)
      rfl rfl (List.cons.inj whole).2
    obtain ⟨values, _⟩ := eq_of_first_occurrence free closed (List.cons.inj tails).2
    obtain rfl : other.slug = name := String.toList_inj.1 same
    exact ⟨named.others other listed, values, some_⟩
  refine ⟨read, ?_⟩
  rintro ⟨rfl, rfl, some_⟩
  cases found : blockAt? names
      ('[' :: (other.slug.toList ++ ':' :: ' ' :: (written ++ ']' :: rest))) with
  | some value => rw [(read found).2.1]
  | none =>
    -- The slug itself is one of the names that are tried.
    have fails := List.findSome?_eq_none_iff.1 found other.slug named.slug
    have fits : blockValue? (':' :: ' ' :: (written ++ ']' :: rest)) = some written :=
      blockValue?_eq_some_iff.2 ⟨' ', rest, rfl, rfl, some_, free⟩
    rw [stripPrefix?_eq_some_iff.2 rfl, Option.bind_some, fits] at fails
    contradiction

/-- A block is read as what it has to say for the key. -/
theorem blockAt?_label {block : MetadataBlock} (named : NamesOnly names key)
    (takes : key.takesValue = true) (free : ']' ∉ block.value.toList) (rest : List Char) :
    blockAt? names ('[' :: (block.label ++ ']' :: rest)) =
      (block.valueOf? key).map String.toList := by
  -- A key with a value is written with its colon, and a flag is a mere slug in brackets.
  cases valued : block.key.takesValue with
  | false =>
    -- A flag has another key, and is written like a token.
    have other : block.key ≠ key := by
      rintro rfl
      rw [takes] at valued
      contradiction
    have silent : block.valueOf? key = none := if_neg other
    rw [silent, MetadataBlock.label, if_neg (by simp [valued])]
    exact blockAt?_slug named.bracketFree (.metadata block.key) rest
  | true =>
    have closeFree : ']' ∉ trim block.value.toList := fun member => free (mem_of_mem_trim member)
    ext value
    rw [MetadataBlock.label, if_pos valued, List.append_assoc, List.cons_append, List.cons_append,
      blockAt?_valued_eq_some_iff named closeFree, Option.map_eq_some_iff]
    simp only [MetadataBlock.valueOf?_eq_some_iff]
    constructor
    · rintro ⟨same, written, some_⟩
      have back := String.toList_ofList (l := value)
      exact ⟨String.ofList value, ⟨same, by rw [back, written], by rwa [back]⟩, back⟩
    · rintro ⟨spoken, ⟨same, written, some_⟩, rfl⟩
      exact ⟨same, written, some_⟩

/-- A block is the first block of what it starts if it has a value for the key, and else it is
passed. -/
theorem firstBlock?_render {block : MetadataBlock} (named : NamesOnly names key)
    (takes : key.takesValue = true)
    (free : '[' ∉ block.value.toList ∧ ']' ∉ block.value.toList) (rest : List Char) :
    firstBlock? names (block.render.toList ++ rest) =
      ((block.valueOf? key).map String.toList).or (firstBlock? names rest) := by
  -- Either the block is read where it starts, or its brackets are passed.
  have read := blockAt?_label named takes free.2 rest
  have written : block.render.toList ++ rest = '[' :: (block.label ++ ']' :: rest) := by
    rw [MetadataBlock.toList_render, List.cons_append, List.append_assoc, List.singleton_append]
  rw [written]
  -- The search ends at the block, or it passes the brackets as a whole.
  cases spoken : block.valueOf? key with
  | some value =>
    rw [spoken] at read
    rw [firstBlock?, read]
    rfl
  | none =>
    rw [spoken] at read
    exact firstBlock?_passed (MetadataBlock.bracket_not_mem_label free.1) read

/-- The first block among some blocks is the first that has a value for the key. -/
theorem firstBlock?_blocks {blocks : List MetadataBlock} (named : NamesOnly names key)
    (takes : key.takesValue = true)
    (free : ∀ block ∈ blocks, '[' ∉ block.value.toList ∧ ']' ∉ block.value.toList) :
    firstBlock? names (blocks.flatMap fun block => ' ' :: block.render.toList) =
      (blocks.findSome? (·.valueOf? key)).map String.toList := by
  -- Each block either ends the search or is passed, along with the space before it.
  induction blocks with
  | nil => rfl
  | cons block rest ih =>
    rw [List.forall_mem_cons] at free
    rw [List.flatMap_cons, List.cons_append, firstBlock?_space,
      firstBlock?_render named takes free.1, ih free.2, List.findSome?_cons]
    cases block.valueOf? key with
    | some value => rfl
    | none => rfl

/-- The value that is read among some blocks is that of the first block that has one. -/
theorem blockText?_of_firstBlock? {blocks : List MetadataBlock}
    (found : firstBlock? names text = (blocks.findSome? (·.valueOf? key)).map String.toList) :
    blockText? names text = blocks.findSome? (·.valueOf? key) := by
  -- What is found is trimmed once more, which changes nothing of a written value.
  rw [blockText?, found]
  cases spoken : blocks.findSome? (·.valueOf? key) with
  | none => rfl
  | some value =>
    -- The value has been trimmed before it was written.
    obtain ⟨block, _, valued⟩ := List.exists_of_findSome?_eq_some spoken
    obtain ⟨_, trimmed, some_⟩ := MetadataBlock.valueOf?_eq_some_iff.1 valued
    rw [Option.map_some, Option.bind_some, String.ofList_toList, nonBlank?_eq_some_iff]
    exact ⟨by rw [← trimmed, trim_trim], some_⟩

end Marker

end TodoMarkers
