import Mathlib.Data.List.Nodup
import TodoMarkers.Proofs.Text.Occurrence
import TodoMarkers.Proofs.Text.Utf8
import TodoMarkers.Proofs.Ticket.Blocks

/-! The links of a document: one for each ticket block that is written in it, at the place that is
counted through the bytes and characters before it. -/

namespace TodoMarkers.Ticket

open Text

/-- The blocks that can be read anywhere in a text that starts at a place, with their places. -/
def blocksFrom : Nat → List Char → List (Nat × Block)
  | _, [] => []
  | place, c :: rest =>
    match blockAt? (c :: rest) with
    | some block => (place, block) :: blocksFrom (place + 1) rest
    | none => blocksFrom (place + 1) rest

/-- A block is found at each place where it can be read. -/
theorem mem_blocksFrom_iff {text : List Char} {place : Nat} {found : Nat × Block} :
    found ∈ blocksFrom place text ↔
      ∃ offset, found.1 = place + offset ∧ blockAt? (text.drop offset) = some found.2 := by
  -- Induction on the text, each character of which is tried in turn.
  obtain ⟨there, block⟩ := found
  induction text generalizing place with
  | nil => simp [blocksFrom, show blockAt? [] = none from rfl]
  | cons c rest ih =>
    -- The place itself comes first, and every other one is a place of the rest.
    have split : (∃ offset, there = place + offset ∧
        blockAt? ((c :: rest).drop offset) = some block) ↔
        (there = place ∧ blockAt? (c :: rest) = some block) ∨
          (there, block) ∈ blocksFrom (place + 1) rest := by
      rw [ih]
      constructor
      · rintro ⟨offset, rfl, read⟩
        cases offset with
        | zero => exact .inl ⟨rfl, read⟩
        | succ offset => exact .inr ⟨offset, by omega, read⟩
      · rintro (⟨rfl, read⟩ | ⟨offset, rfl, read⟩)
        · exact ⟨0, rfl, read⟩
        · exact ⟨offset + 1, by omega, read⟩
    rw [split, blocksFrom]
    cases read : blockAt? (c :: rest) with
    | none => simp
    | some other => simp [eq_comm]

/-- Each block ends before the next one starts. -/
theorem blocksFrom_apart (text : List Char) (place : Nat) :
    (blocksFrom place text).Pairwise fun found later => found.1 + found.2.length ≤ later.1 := by
  -- Induction on the text: within a block that is found no other one can be read.
  induction text generalizing place with
  | nil => exact .nil
  | cons c rest ih =>
    rw [blocksFrom]
    split
    · rename_i block read
      refine List.pairwise_cons.2 ⟨fun later member => ?_, ih (place + 1)⟩
      obtain ⟨offset, same, again⟩ := mem_blocksFrom_iff.1 member
      rcases Nat.lt_or_ge offset (block.length - 1) with inside | behind
      · rw [blockAt?_eq_none_within read inside] at again
        contradiction
      · have := (length_of_blockAt? read).1
        dsimp only
        omega
    · exact ih (place + 1)

/-- The search finds the blocks that can be read anywhere, and the place of each is counted exactly.

The characters since the last block are those whose bytes have not been counted yet. -/
theorem linksFrom?_matchesFrom (base text : List Char) {covered : Nat}
    (clear : ∀ offset < covered, blockAt? (text.drop offset) = none) (gap : List Char)
    (bytes place : Nat) :
    linksFrom? base bytes place (gap ++ text)
        (matchesFrom (bytes + byteLength gap) covered text) =
      some ((blocksFrom (place + gap.length) text).map fun found =>
        linkAt base found.1 found.2) := by
  -- Each step of the search leaves one character behind, which belongs to the gap from then on.
  induction text generalizing covered gap bytes place with
  | nil => cases covered <;> rfl
  | cons c rest ih =>
    have next {less : Nat} (clear : ∀ offset < less, blockAt? (rest.drop offset) = none) :
        linksFrom? base bytes place (gap ++ c :: rest)
            (matchesFrom (bytes + byteLength gap + c.utf8Size) less rest) =
          some ((blocksFrom (place + gap.length + 1) rest).map fun found =>
            linkAt base found.1 found.2) := by
      have step := ih clear (gap ++ [c]) bytes place
      simpa [Nat.add_assoc] using step
    cases covered with
    | succ covered =>
      -- Nothing can be read at a character that the last block covers.
      have none : blockAt? (c :: rest) = none := clear 0 (Nat.succ_pos covered)
      rw [matchesFrom, next fun offset small => clear (offset + 1) (Nat.succ_lt_succ small),
        blocksFrom, none]
    | zero =>
      rw [matchesFrom, blocksFrom]
      cases read : blockAt? (c :: rest) with
      | none =>
        dsimp only
        rw [next fun offset small => absurd small (Nat.not_lt_zero offset)]
      | some block =>
        -- The gap before the block is counted, and a new one starts with its first character.
        have counted : splitBytes? (bytes + byteLength gap - bytes) (gap ++ c :: rest) =
            some (gap, c :: rest) := by
          rw [Nat.add_sub_cancel_left, splitBytes?_append]
        have tail := ih (fun offset inside => blockAt?_eq_none_within read inside) [c]
          (bytes + byteLength gap) (place + gap.length)
        rw [List.singleton_append, byteLength_cons, byteLength_nil, Nat.add_zero] at tail
        dsimp only
        rw [linksFrom?, if_pos (Nat.le_add_right _ _), counted]
        dsimp only
        rw [tail]
        rfl

/-- The links are those of the blocks that can be read anywhere in the document. -/
theorem links_eq {url : String} (address : baseAddress url ≠ []) (text : List Char) :
    linksFrom? (baseAddress url) 0 0 text (matchesFrom 0 0 text) =
        some (links text (some url)) ∧
      links text (some url) =
        (blocksFrom 0 text).map fun found => linkAt (baseAddress url) found.1 found.2 := by
  -- Nothing is covered and nothing is counted before the search begins.
  have whole := linksFrom?_matchesFrom (baseAddress url) text
    (fun offset small => absurd small (Nat.not_lt_zero offset)) [] 0 0
  rw [List.nil_append, byteLength_nil, List.length_nil, Nat.add_zero] at whole
  have links : links text (some url) =
      (linksFrom? (baseAddress url) 0 0 text (matchesFrom 0 0 text)).getD [] := by
    unfold Ticket.links
    rw [Option.map_some]
    split
    · contradiction
    · rename_i none
      exact absurd (Option.some.inj none) address
    · rename_i base same
      rw [Option.some.inj same]
  rw [links, whole]
  exact ⟨rfl, rfl⟩

/-- A link stands wherever a block is written, and nowhere else. -/
theorem mem_links_iff {text : List Char} {url : String} (address : baseAddress url ≠ [])
    {link : TicketLink} :
    link ∈ links text (some url) ↔ ∃ (written : Written) (start : Nat),
      OccursAt written.text text start ∧ link = linkAt (baseAddress url) start written.block := by
  -- The links are the blocks that are found, and a block is found where it is written.
  rw [(links_eq address text).2, List.mem_map]
  constructor
  · rintro ⟨found, member, rfl⟩
    obtain ⟨offset, place, read⟩ := mem_blocksFrom_iff.1 member
    obtain ⟨written, occurs, block⟩ := blockAt?_eq_some_iff.1 read
    rw [Nat.zero_add] at place
    exact ⟨written, offset, occurs, by rw [place, block]⟩
  · rintro ⟨written, start, occurs, rfl⟩
    refine ⟨(start, written.block),
      mem_blocksFrom_iff.2 ⟨start, (Nat.zero_add start).symm, ?_⟩, rfl⟩
    exact blockAt?_eq_some_iff.2 ⟨written, occurs, rfl⟩

/-- The range of a link holds a character, and ends within the document. -/
theorem range_of_mem_links {text : List Char} {url : String} (address : baseAddress url ≠ [])
    {link : TicketLink} (member : link ∈ links text (some url)) :
    link.start < link.stop ∧ link.stop ≤ text.length := by
  -- The range is that of a written block, which occurs in the text.
  obtain ⟨written, start, occurs, rfl⟩ := (mem_links_iff address).1 member
  obtain ⟨tail, bracket, _⟩ := written.exists_text_eq
  have positive : 0 < written.text.length := by simp [bracket]
  have stop := occurs.stop_le (List.length_pos_iff.1 positive)
  exact ⟨Nat.lt_add_of_pos_right positive, stop⟩

/-- Each link ends before the next one starts. -/
theorem links_apart {url : String} (address : baseAddress url ≠ []) (text : List Char) :
    (links text (some url)).Pairwise fun link later => link.stop ≤ later.start := by
  -- The links have the ranges of the blocks that are found.
  rw [(links_eq address text).2, List.pairwise_map]
  exact blocksFrom_apart text 0

/-- One link starts where a block is written. -/
theorem count_start_links {text : List Char} {url : String} (address : baseAddress url ≠ [])
    {written : Written} {start : Nat} (occurs : OccursAt written.text text start) :
    ((links text (some url)).map (·.start)).count start = 1 := by
  -- No link is empty, so that the starts increase and none comes twice.
  have increasing : ((links text (some url)).map (·.start)).Pairwise (· < ·) := by
    rw [List.pairwise_map]
    refine List.Pairwise.imp_of_mem (fun member _ apart => ?_) (links_apart address text)
    exact Nat.lt_of_lt_of_le (range_of_mem_links address member).1 apart
  refine List.count_eq_one_of_mem (increasing.imp Nat.ne_of_lt) (List.mem_map.2 ?_)
  exact ⟨_, (mem_links_iff address).2 ⟨written, start, occurs, rfl⟩, rfl⟩

/-- A base address is what is left of a trimmed address without the slashes at its end. -/
theorem exists_slashes (url : String) :
    ∃ slashes, (∀ c ∈ slashes, c = '/') ∧ trim url.toList = baseAddress url ++ slashes ∧
      (baseAddress url).getLast? ≠ some '/' := by
  -- The slashes are taken from the end until none is left there.
  refine ⟨(trim url.toList).rtakeWhile (· == '/'), fun c member => ?_,
    List.rdropWhile_append_rtakeWhile.symm, fun last => ?_⟩
  · simpa using List.mem_rtakeWhile_imp member
  · have some_ : baseAddress url ≠ [] := fun empty => by simp [empty] at last
    have stop : ¬ ((baseAddress url).getLast some_ == '/') = true :=
      List.rdropWhile_last_not (· == '/') (trim url.toList) some_
    rw [List.getLast?_eq_some_getLast some_, Option.some.injEq] at last
    exact stop (by simpa using last)

/-- Links are made of exactly the ticket blocks of a document.

Without a base address, which is a trimmed address without the slashes at its end, there are none.
With one, the place of each block that the search finds can be counted. A link stands wherever a
block is written, one link for each such place and none elsewhere, with the identifier as it is
written, the range of the whole block, and the identifier behind the base address. The links stand
in the order of their places, and no two of them share a character. -/
theorem links_exact (text : List Char) (baseUrl : Option String) :
    (∀ url, ∃ slashes, (∀ c ∈ slashes, c = '/') ∧
      trim url.toList = baseAddress url ++ slashes ∧ (baseAddress url).getLast? ≠ some '/') ∧
    ((∀ url ∈ baseUrl, baseAddress url = []) → links text baseUrl = []) ∧
    ∀ url ∈ baseUrl, baseAddress url ≠ [] →
      linksFrom? (baseAddress url) 0 0 text (matchesFrom 0 0 text) = some (links text baseUrl) ∧
      (∀ link, link ∈ links text baseUrl ↔
        ∃ (written : Written) (start : Nat), OccursAt written.text text start ∧
          link = ⟨String.ofList written.id, start, start + written.text.length,
            String.ofList (baseAddress url ++ '/' :: written.id)⟩) ∧
      (∀ (written : Written) (start : Nat), OccursAt written.text text start →
        ((links text baseUrl).map (·.start)).count start = 1) ∧
      (∀ link ∈ links text baseUrl, link.start < link.stop ∧ link.stop ≤ text.length) ∧
      (links text baseUrl).Pairwise fun link later => link.stop ≤ later.start := by
  -- Each part is a law above, for the base address in question.
  refine ⟨exists_slashes, fun empty => ?_, ?_⟩
  · cases baseUrl with
    | none => rfl
    | some url => rw [links, Option.map_some, empty url rfl]
  · rintro url rfl address
    exact ⟨(links_eq address text).1, fun _ => mem_links_iff address,
      fun _ _ => count_start_links address, fun _ => range_of_mem_links address,
      links_apart address text⟩

/-- The bracket of a first block is broken, the second is written with a Kelvin sign, over a line
break and with digits of another script, behind characters of more than one byte, and a plain one
follows it. -/
theorem links_exact_broken_bracket :
    let text := "é🎫 [ticket: [Tic\u212Aet:\n \u212Ab-٣٤] [ticket:AB-1]".toList
    let url := " https://t//\t"
    let written : Written :=
  -- Both blocks occur where they are written, and the law gives a link for each.
      { lead := "[Tic\u212Aet:".toList
        blanks := "\n ".toList
        letters := "\u212Ab".toList
        digits := "٣٤".toList
        opens := by decide
        blank := List.all_eq_true.1 (by decide)
        lettered := List.all_eq_true.1 (by decide)
        named := by decide
        digital := List.all_eq_true.1 (by decide)
        numbered := by decide }
    let plain : Written :=
      { lead := opener
        blanks := []
        letters := "AB".toList
        digits := "1".toList
        opens := by decide
        blank := List.all_eq_true.1 (by decide)
        lettered := List.all_eq_true.1 (by decide)
        named := by decide
        digital := List.all_eq_true.1 (by decide)
        numbered := by decide }
    baseAddress url ≠ [] ∧ OccursAt written.text text 12 ∧ OccursAt plain.text text 29 ∧
      linksFrom? (baseAddress url) 0 0 text (matchesFrom 0 0 text) = some (links text (some url)) ∧
      ⟨"\u212Ab-٣٤", 12, 28, "https://t/\u212Ab-٣٤"⟩ ∈ links text (some url) ∧
      ⟨"AB-1", 29, 42, "https://t/AB-1"⟩ ∈ links text (some url) ∧
      ((links text (some url)).map (·.start)).count 12 = 1 ∧
      ((links text (some url)).map (·.start)).count 29 = 1 ∧ links text (some " //") = [] := by
  intro text url written plain
  have address : baseAddress url ≠ [] := by decide
  have occurs : OccursAt written.text text 12 := ⟨" [ticket:AB-1]".toList, by decide⟩
  have follows : OccursAt plain.text text 29 := ⟨[], by decide⟩
  have slashes : ∀ url ∈ some " //", baseAddress url = [] := by decide
  obtain ⟨counted, member, once, _, _⟩ := (links_exact text (some url)).2.2 url rfl address
  exact ⟨address, occurs, follows, counted, (member _).2 ⟨written, 12, occurs, by decide⟩,
    (member _).2 ⟨plain, 29, follows, by decide⟩, once written 12 occurs, once plain 29 follows,
    (links_exact text (some " //")).2.1 slashes⟩

end TodoMarkers.Ticket
