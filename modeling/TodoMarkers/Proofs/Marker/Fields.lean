import TodoMarkers.Marker.Fields
import TodoMarkers.Proofs.Text.Blank
import TodoMarkers.Proofs.Text.Occurrence

/-! The slots that are read off the head of a marker's text are what the text opens with. -/

namespace TodoMarkers.Marker

open Text

/-- What a slot is written as: nothing without a key, or else the key's token and blanks. -/
def WritesSlot {α : Type} (token : α → String) : Option α → List Char → Prop
  | none, written => written = []
  | some key, written =>
    ∃ blanks, written = (token key).toList ++ blanks ∧ ∀ b ∈ blanks, isBlank b = true

/-- The token of a filled slot stands where the slots before it end. -/
theorem WritesSlot.occursAt {α : Type} {token : α → String} {slot : Option α} {key : α}
    {before written content : List Char} (writes : WritesSlot token slot written)
    (filled : slot = some key) (head : before ++ written <+: content) :
    OccursAt (token key).toList content before.length := by
  -- A filled slot starts with its token, and what is before it is known.
  subst filled
  obtain ⟨blanks, rfl, _⟩ := writes
  obtain ⟨rest, rfl⟩ := head
  refine ⟨blanks ++ rest, ?_⟩
  rw [List.append_assoc before, List.drop_left, List.append_assoc]

/-- A content opens with the slots of some fields, each written as given. -/
structure OpensWithSlots (content : List Char) (fields : MarkerFields)
    (first second third : List Char) : Prop where
  /-- The three slots follow one another at the head of the content. -/
  head : first ++ second ++ third <+: content
  /-- The first is that of the priority. -/
  priority : WritesSlot Priority.token fields.priority first
  /-- The second is that of the kind. -/
  kind : WritesSlot Kind.token fields.kind second
  /-- The third is that of the context. -/
  context : WritesSlot Context.token fields.context third

/-- A key is read off a text only if the text opens with its token. -/
theorem takeKey_split {α : Type} {keys : List α} {token : α → String} {text rest : List Char}
    {key : Option α} (read : takeKey keys token text = (key, rest)) :
    ∃ written, text = written ++ rest ∧ WritesSlot token key written := by
  -- Whichever key fits has its token stripped, and without one nothing is taken.
  unfold takeKey at read
  split at read
  · -- The first key that fits has split its token off.
    rename_i first after found
    obtain ⟨rfl, rfl⟩ : some first = key ∧ after = rest := by simpa using read
    obtain ⟨other, _, fits⟩ := List.exists_of_findSome?_eq_some found
    obtain ⟨remaining, stripped, same⟩ := Option.map_eq_some_iff.1 fits
    obtain ⟨rfl, rfl⟩ : other = first ∧ remaining = after := by simpa using same
    exact ⟨(token other).toList, stripPrefix?_eq_some_iff.1 stripped, [], by simp, by simp⟩
  · obtain ⟨rfl, rfl⟩ : none = key ∧ text = rest := by simpa using read
    exact ⟨[], rfl, rfl⟩

/-- The blanks after a slot's token belong to the slot. -/
theorem takeSlot_split {α : Type} {keys : List α} {token : α → String} {text rest : List Char}
    {key : Option α} (read : takeSlot keys token text = (key, rest)) :
    ∃ written, text = written ++ rest ∧ WritesSlot token key written := by
  -- What is trimmed behind the token joins the blanks of the slot.
  unfold takeSlot at read
  split at read
  · rename_i found after taken
    obtain ⟨rfl, rfl⟩ : some found = key ∧ trimStart after = rest := by simpa using read
    obtain ⟨written, rfl, blanks, rfl, before⟩ := takeKey_split taken
    refine ⟨(token found).toList ++ blanks ++ after.takeWhile isBlank, ?_,
      blanks ++ after.takeWhile isBlank, by rw [List.append_assoc], ?_⟩
    · rw [trimStart, List.append_assoc _ (after.takeWhile isBlank),
        List.takeWhile_append_dropWhile]
    · intro b member
      rcases List.mem_append.1 member with early | late
      · exact before b early
      · exact List.mem_takeWhile_imp late
  · rename_i after taken
    obtain ⟨rfl, rfl⟩ : none = key ∧ after = rest := by simpa using read
    exact takeKey_split taken

/-- A text opens with the slots that are read off it, in their order. -/
theorem takeSlots_split {text message : List Char} {slots : Slots}
    (read : takeSlots text = (slots, message)) :
    ∃ first second third, text = first ++ second ++ third ++ message ∧
      WritesSlot Priority.token slots.priority first ∧ WritesSlot Kind.token slots.kind second ∧
      WritesSlot Context.token slots.context third := by
  -- The three reads are opened one after the other.
  unfold takeSlots at read
  cases priority : takeSlot Priority.all Priority.token text with
  | mk priorityKey afterPriority =>
    cases kind : takeSlot Kind.all Kind.token afterPriority with
    | mk kindKey afterKind =>
      cases context : takeKey Context.all Context.token afterKind with
      | mk contextKey rest =>
        simp only [priority, kind, context, Prod.mk.injEq] at read
        obtain ⟨rfl, rfl⟩ := read
        -- Each slot is read off what the slot before it has left.
        obtain ⟨first, rfl, opens⟩ := takeSlot_split priority
        obtain ⟨second, rfl, follows⟩ := takeSlot_split kind
        obtain ⟨third, rfl, ends⟩ := takeKey_split context
        exact ⟨first, second, third, by simp only [List.append_assoc], opens, follows, ends⟩

/-- Of the tokens of some keys no two stand at the head of one text. -/
def TellsApart {α : Type} (keys : List α) (token : α → String) : Prop :=
  ∀ first ∈ keys, ∀ second ∈ keys, ∀ text,
    (token first).toList <+: text → (token second).toList <+: text → first = second

/-- A key is read off a text that opens with its token. -/
theorem takeKey_token {α : Type} {keys : List α} {token : α → String} {key : α}
    (apart : TellsApart keys token) (listed : key ∈ keys) (rest : List Char) :
    takeKey keys token ((token key).toList ++ rest) = (some key, rest) := by
  -- Some key fits, and tokens that are told apart leave only this one.
  have fits : stripPrefix? (token key).toList ((token key).toList ++ rest) = some rest :=
    stripPrefix?_eq_some_iff.2 rfl
  unfold takeKey
  split
  · -- Whichever key is found first has its token there, too.
    rename_i first after found
    obtain ⟨other, member, same⟩ := List.exists_of_findSome?_eq_some found
    obtain ⟨remaining, stripped, rfl, rfl⟩ : ∃ remaining,
        stripPrefix? (token other).toList ((token key).toList ++ rest) = some remaining ∧
          other = first ∧ remaining = after := by simpa using same
    have head : (token other).toList <+: (token key).toList ++ rest :=
      ⟨remaining, (stripPrefix?_eq_some_iff.1 stripped).symm⟩
    obtain rfl := apart other member key listed _ head (List.prefix_append _ _)
    rw [fits, Option.some.injEq] at stripped
    rw [stripped]
  · rename_i missing
    have absent := List.findSome?_eq_none_iff.1 missing key listed
    rw [fits] at absent
    contradiction

/-- A slot is read off a text that opens with its key's token, together with a space behind it. -/
theorem takeSlot_token {α : Type} {keys : List α} {token : α → String} {key : α}
    (apart : TellsApart keys token) (listed : key ∈ keys) {next : List Char}
    (solid : StartsSolid next) :
    takeSlot keys token ((token key).toList ++ ' ' :: next) = (some key, next) := by
  -- The one space behind the token is trimmed with it.
  have gap : trimStart (' ' :: next) = next := solid.trimStart_eq
  rw [takeSlot, takeKey_token apart listed]
  exact congrArg (some key, ·) gap

/-- The texts that close a comment on their line. -/
def commentClosers : List (List Char) :=
  [['*', '/'], ['-', '-', '>']]

/-- A text that ends in a comment closer. -/
def EndsInCloser (text : List Char) : Prop :=
  ∃ closer ∈ commentClosers, closer <:+ text

instance (text : List Char) : Decidable (EndsInCloser text) :=
  inferInstanceAs (Decidable (∃ closer ∈ commentClosers, closer <:+ text))

/-- No blank is part of a comment closer. -/
theorem not_mem_closer_of_blank {c : Char} (blank : isBlank c = true) :
    ∀ closer ∈ commentClosers, c ∉ closer := by
  -- Both closers are closed texts without blanks.
  have solid : ∀ closer ∈ commentClosers, closer.all (!isBlank ·) = true := by decide
  intro closer known member
  have other := List.all_eq_true.1 (solid closer known) c member
  rw [blank] at other
  contradiction

/-- No closer at the end of a text reaches into characters that no closer has. -/
theorem endsInCloser_of_append {head text : List Char}
    (foreign : ∀ c ∈ head, ∀ closer ∈ commentClosers, c ∉ closer)
    (ends : EndsInCloser (head ++ text)) : EndsInCloser text := by
  -- The closer and the text both end the whole, so one of them ends the other.
  obtain ⟨closer, known, ending⟩ := ends
  rcases List.suffix_or_suffix_of_suffix ending (List.suffix_append head text) with inside | beyond
  · exact ⟨closer, known, inside⟩
  · obtain ⟨reach, rfl⟩ := beyond
    cases reach with
    | nil => exact ⟨text, known, List.suffix_refl text⟩
    | cons c reach =>
      -- The closer's first character would be one of the head.
      have within : c :: reach <:+ head := ((List.suffix_append_inj_of_length_eq rfl).1 ending).1
      exact absurd List.mem_cons_self (foreign c (within.subset List.mem_cons_self) _ known)

/-- A trimmed text keeps its end if that is no comment closer, or else loses one closer with the
blanks in front of it. -/
theorem stripCloser_cases (text : List Char) :
    (stripCloser text = trim text ∧ ¬ EndsInCloser (trim text)) ∨
      ∃ shorter, ∃ closer ∈ commentClosers,
        trim text = shorter ++ closer ∧ stripCloser text = trim shorter := by
  -- The two closers are tried in turn.
  unfold stripCloser
  cases star : stripSuffix? ['*', '/'] (trim text) with
  | some shorter =>
    exact .inr ⟨shorter, _, List.mem_cons_self, stripSuffix?_eq_some_iff.1 star, by simp [star]⟩
  | none =>
    cases dash : stripSuffix? ['-', '-', '>'] (trim text) with
    | some shorter =>
      exact .inr ⟨shorter, _, List.mem_cons_of_mem _ List.mem_cons_self,
        stripSuffix?_eq_some_iff.1 dash, by simp [star, dash]⟩
    | none =>
      refine .inl ⟨by simp [star, dash], ?_⟩
      rintro ⟨closer, listed, shorter, whole⟩
      have found := stripSuffix?_eq_some_iff.2 whole.symm
      have either : closer = ['*', '/'] ∨ closer = ['-', '-', '>'] := by
        simpa [commentClosers] using listed
      rcases either with rfl | rfl
      · rw [star] at found
        contradiction
      · rw [dash] at found
        contradiction

/-- A text without its comment closer is trimmed. -/
theorem trim_stripCloser (text : List Char) : trim (stripCloser text) = stripCloser text := by
  -- In both cases the text was trimmed last.
  rcases stripCloser_cases text with ⟨same, _⟩ | ⟨shorter, _, _, _, stripped⟩
  · rw [same, trim_trim]
  · rw [stripped, trim_trim]

/-- A text without its comment closer is a head of the trimmed text. -/
theorem stripCloser_prefix_trim (text : List Char) : stripCloser text <+: trim text := by
  -- Either nothing is taken away, or the closer and the blanks before it are.
  rcases stripCloser_cases text with ⟨same, _⟩ | ⟨shorter, closer, _, whole, stripped⟩
  · exact ⟨[], by rw [List.append_nil, same]⟩
  · rw [stripped]
    have head : shorter <+: trim text := ⟨closer, whole.symm⟩
    -- Only the blanks at its end are left to trim.
    have solid := trimStart_eq_of_head (head.trans (trim_prefix_trimStart text))
    have again := trim_prefix_trimStart shorter
    rw [solid] at again
    exact again.trans head

/-- A text that ends in a bracket ends with no blank. -/
theorem endsSolid_of_bracket {text : List Char} (closed : text.getLast? = some ']') :
    EndsSolid text := by
  -- A bracket is no blank.
  obtain ⟨rest, whole⟩ := List.getLast?_eq_some_iff.1 closed
  exact ⟨rest, ']', whole, rfl⟩

/-- No comment closer reaches into a bracketed text that it follows.

What follows the text keeps a head of itself, and loses nothing but blanks if it ends in no
closer. -/
theorem stripCloser_append {text : List Char} (starts : StartsSolid text)
    (closed : text.getLast? = some ']') (tail : List Char) :
    ∃ kept, stripCloser (text ++ tail) = text ++ kept ∧ kept <+: tail ∧
      (¬ EndsInCloser (trimEnd tail) → kept = trimEnd tail) := by
  -- Either nothing is taken away, or a closer is, which lies behind the bracket.
  have ends := endsSolid_of_bracket closed
  have trimmed := trim_append starts ends tail
  rcases stripCloser_cases (text ++ tail) with
    ⟨same, _⟩ | ⟨shorter, closer, listed, whole, stripped⟩
  · exact ⟨trimEnd tail, by rw [same, trimmed], trimEnd_prefix_self tail, fun _ => rfl⟩
  · -- The bracket is in no closer, so the closer ends what follows the text.
    have behind : ∃ more, shorter = text ++ more ∧ trimEnd tail = more ++ closer := by
      rw [trimmed] at whole
      rcases List.append_eq_append_iff.1 whole with ⟨more, rfl, same⟩ | ⟨more, rfl, rfl⟩
      · exact ⟨more, rfl, same⟩
      · cases more with
        | nil => exact ⟨[], by simp, by simp⟩
        | cons c more =>
          have free : ∀ closer ∈ commentClosers, ']' ∉ closer := by decide
          rw [List.getLast?_append_of_ne_nil _ (by simp)] at closed
          exact absurd (List.mem_append_left _ (List.mem_of_getLast? closed)) (free _ listed)
    obtain ⟨more, rfl, same⟩ := behind
    refine ⟨trimEnd more, by rw [stripped, trim_append starts ends], ?_, fun free => ?_⟩
    · have head : more <+: trimEnd tail := ⟨closer, same.symm⟩
      exact (trimEnd_prefix_self more).trans (head.trans (trimEnd_prefix_self tail))
    · exact absurd ⟨closer, listed, more, same.symm⟩ free

/-- A text that ends in a bracket ends in no comment closer. -/
theorem not_endsInCloser_of_bracket {text : List Char} (closed : text.getLast? = some ']') :
    ¬ EndsInCloser text := by
  -- Closers are not empty, so the last character would be one of theirs.
  rintro ⟨closer, listed, before, rfl⟩
  have free : ∀ closer ∈ commentClosers, closer ≠ [] ∧ ']' ∉ closer := by decide
  rw [List.getLast?_append_of_ne_nil _ (free closer listed).1] at closed
  exact (free closer listed).2 (List.mem_of_getLast? closed)

/-- Blanks in front of a text are part of no comment closer at its end. -/
theorem not_endsInCloser_trimEnd {text : List Char} (plain : ¬ EndsInCloser (trim text)) :
    ¬ EndsInCloser (trimEnd text) := by
  -- The leading blanks are split off, and no closer reaches into them.
  have whole := List.takeWhile_append_dropWhile (p := isBlank) (l := trimEnd text)
  intro ends
  rw [← whole] at ends
  refine plain ?_
  rw [trim, ← trimStart_trimEnd]
  exact endsInCloser_of_append
    (fun b member => not_mem_closer_of_blank (List.mem_takeWhile_imp member)) ends

/-- What follows a bracketed text keeps a head of itself in both steps of reading a marker's text,
and loses nothing but blanks if it ends in no closer. -/
theorem stripCloser_stripCloser_append {text : List Char} (starts : StartsSolid text)
    (closed : text.getLast? = some ']') (tail : List Char) :
    ∃ kept, stripCloser (stripCloser (trim (text ++ tail))) = text ++ kept ∧ kept <+: tail ∧
      (¬ EndsInCloser (trimEnd tail) → kept = trimEnd tail) := by
  -- Each of the two steps is the law for one, applied to what is left of the tail.
  rw [trim_append starts (endsSolid_of_bracket closed)]
  obtain ⟨once, stripped, head, whole⟩ := stripCloser_append starts closed (trimEnd tail)
  obtain ⟨twice, again, shorter, same⟩ := stripCloser_append starts closed once
  rw [trimEnd_trimEnd] at whole
  refine ⟨twice, by rw [stripped, again], shorter.trans (head.trans (trimEnd_prefix_self tail)),
    fun free => ?_⟩
  -- The second step finds what the first one has left, which ends in no closer either.
  rw [whole free, trimEnd_trimEnd] at same
  exact same free

/-- Both steps of reading a marker's text keep a head of its content, if it starts with no blank. -/
theorem stripCloser_stripCloser_prefix_content {content : List Char} (solid : StartsSolid content) :
    stripCloser (stripCloser (trim content)) <+: content := by
  -- Each step leaves a head of the trimmed text that it is given.
  have core : trimStart (trim content) = trim content :=
    trimStart_eq_of_head (trim_prefix_trimStart content)
  -- Each step cuts the end alone, because no blank is left at the start.
  have once : stripCloser (trim content) <+: trimStart (trim content) :=
    (stripCloser_prefix_trim _).trans (trim_prefix_trimStart _)
  have twice :
      stripCloser (stripCloser (trim content)) <+: trimStart (stripCloser (trim content)) :=
    (stripCloser_prefix_trim _).trans (trim_prefix_trimStart _)
  have whole := trim_prefix_trimStart content
  rw [trimStart_eq_of_head once] at twice
  rw [core] at once
  rw [solid.trimStart_eq] at whole
  exact twice.trans (once.trans whole)

end TodoMarkers.Marker
