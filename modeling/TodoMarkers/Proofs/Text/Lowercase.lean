import Mathlib.Data.List.Count
import TodoMarkers.Text.Lowercase

/-! Lower case of a part of a text. Only a capital sigma looks at what stands around it, and no
farther than to the nearest character that is not case-ignorable on either side. -/

namespace TodoMarkers.Text

/-- Whether the first character that is not case-ignorable is cased, absent when there is none. -/
def nearestCase? (text : List Char) : Option Bool :=
  (text.find? (!isCaseIgnorable ·)).map isCased

/-- A second text counts only if all of the first is passed over. -/
theorem nearestCase?_append (text rest : List Char) :
    nearestCase? (text ++ rest) = (nearestCase? text).or (nearestCase? rest) := by
  -- The first character that counts is searched for in one text and then in the other.
  rw [nearestCase?, List.find?_append, nearestCase?, nearestCase?]
  cases text.find? (!isCaseIgnorable ·) <;> rfl

/-- A capital sigma is cased, and nothing is looked for behind it. -/
theorem nearestCase?_sigma (rest : List Char) : nearestCase? ('Σ' :: rest) = some true := by
  -- The sigma is found first, whatever follows it.
  rw [show 'Σ' :: rest = ['Σ'] ++ rest from rfl, nearestCase?_append,
    show nearestCase? ['Σ'] = some true by decide +kernel, Option.some_or]

/-- A cased character is met if it is the nearest one that counts. -/
theorem meetsCased_eq_true_iff (text : List Char) :
    meetsCased text = true ↔ nearestCase? text = some true := by
  -- Both searches pass over the same characters and stop at the same one.
  induction text with
  | nil => decide
  | cons c rest ih =>
    unfold meetsCased nearestCase? at ih ⊢
    cases passed : isCaseIgnorable c with
    | true => simpa [passed] using ih
    | false => simp [passed]

/-- The lower case of a character between the characters before it, the nearest first, and after. -/
def form (before : List Char) (c : Char) (after : List Char) : List Char :=
  if c = 'Σ' then
    if meetsCased before && !meetsCased after then ['ς'] else ['σ']
  else lowercaseChar c

/-- The lower case of a part of a text, between the characters before it, the nearest first, and
after. -/
def lowercaseWithin : List Char → List Char → List Char → List Char
  | _, [], _ => []
  | before, c :: rest, after =>
    form before c (rest ++ after) ++ lowercaseWithin (c :: before) rest after

/-- A text is a part after which nothing follows. -/
theorem lowercaseAfter_eq (before text : List Char) :
    lowercaseAfter before text = lowercaseWithin before text [] := by
  -- Both read one character at a time and keep what they have read.
  induction text generalizing before with
  | nil => rfl
  | cons c rest ih =>
    rw [lowercaseAfter, lowercaseWithin, ih, List.append_nil]
    rfl

/-- The lower case of two parts, of which each stands beside the other. -/
theorem lowercaseWithin_append (before first second after : List Char) :
    lowercaseWithin before (first ++ second) after =
      lowercaseWithin before first (second ++ after) ++
        lowercaseWithin (first.reverse ++ before) second after := by
  -- Each character of the first part goes over to what stands before the others.
  induction first generalizing before with
  | nil => rfl
  | cons c rest ih =>
    simp only [List.cons_append, lowercaseWithin, ih, List.append_assoc, List.reverse_cons,
      List.nil_append]

/-- The lower case of a text whose parts are known. -/
theorem lowercase_append (before part after : List Char) :
    lowercase (before ++ part ++ after) =
      lowercaseWithin [] before (part ++ after) ++ lowercaseWithin before.reverse part after ++
        lowercaseWithin (part.reverse ++ before.reverse) after [] := by
  -- A whole text has nothing before it and nothing after it.
  rw [lowercase, lowercaseAfter_eq, lowercaseWithin_append, lowercaseWithin_append]
  simp only [List.append_nil, List.reverse_append]

/-- A sigma is final if a cased character is the nearest before it and none is the nearest after. -/
theorem form_sigma (before after : List Char) :
    form before 'Σ' after =
      if nearestCase? before = some true ∧ nearestCase? after ≠ some true then ['ς']
      else ['σ'] := by
  -- The conditions on the two sides are the tests that the definition makes.
  simp only [form, if_true, Bool.and_eq_true, Bool.not_eq_true', meetsCased_eq_true_iff,
    ← Bool.not_eq_true, ne_eq]

/-- What a character becomes depends on the nearest characters that count. -/
theorem form_congr {before outer after behind : List Char}
    (left : nearestCase? before = nearestCase? outer)
    (right : nearestCase? after = nearestCase? behind) (c : Char) :
    form before c after = form outer c behind := by
  -- Only a capital sigma looks at what stands around it.
  by_cases sigma : c = 'Σ'
  · rw [sigma, form_sigma, form_sigma, left, right]
  · rw [form, form, if_neg sigma, if_neg sigma]

/-- What a part becomes depends on the nearest characters around it that count. -/
theorem lowercaseWithin_congr {before outer after behind : List Char}
    (left : nearestCase? before = nearestCase? outer)
    (right : nearestCase? after = nearestCase? behind) (part : List Char) :
    lowercaseWithin before part after = lowercaseWithin outer part behind := by
  -- A character that has been read stands between the rest and what is before it on both sides.
  induction part generalizing before outer with
  | nil => rfl
  | cons c rest ih =>
    have next : nearestCase? (c :: before) = nearestCase? (c :: outer) := by
      rw [← List.singleton_append, nearestCase?_append, left, ← nearestCase?_append,
        List.singleton_append]
    have rests : nearestCase? (rest ++ after) = nearestCase? (rest ++ behind) := by
      rw [nearestCase?_append, right, ← nearestCase?_append]
    rw [lowercaseWithin, lowercaseWithin, form_congr left rests, ih next]

/-- Without a capital sigma a part is lowercased character by character. -/
theorem lowercaseWithin_of_free {part : List Char} (free : 'Σ' ∉ part) (before after : List Char) :
    lowercaseWithin before part after = part.flatMap lowercaseChar := by
  -- No character looks at what stands around it.
  induction part generalizing before with
  | nil => rfl
  | cons c rest ih =>
    rw [List.mem_cons, not_or] at free
    rw [lowercaseWithin, form, if_neg (Ne.symm free.1), ih free.2, List.flatMap_cons]

/-- Between these characters a sigma has no form of its own. It is final only because the text ends,
or plain only because the text starts there. -/
def LeavesOpen (before after : List Char) : Prop :=
  (nearestCase? before = some true ∧ nearestCase? after = none) ∨
    (nearestCase? before = none ∧ nearestCase? after ≠ some true)

/-- A capital sigma of a text takes its form from what stands around the text. -/
def HasOpenSigma (text : List Char) : Prop :=
  ∃ before after, text = before ++ 'Σ' :: after ∧ LeavesOpen before.reverse after

instance (before after : List Char) : Decidable (LeavesOpen before after) :=
  inferInstanceAs (Decidable (_ ∨ _))

/-- An open sigma can be looked for place by place. -/
theorem exists_open_place_iff (text : List Char) :
    (∃ place ∈ List.range text.length, text[place]? = some 'Σ' ∧
      LeavesOpen (text.take place).reverse (text.drop (place + 1))) ↔ HasOpenSigma text := by
  -- A place splits the text into what precedes the sigma and what follows it.
  constructor
  · rintro ⟨place, _, here, opens⟩
    obtain ⟨inside, found⟩ := List.getElem?_eq_some_iff.1 here
    refine ⟨text.take place, text.drop (place + 1), ?_, opens⟩
    rw [← found, ← List.drop_eq_getElem_cons inside, List.take_append_drop]
  · rintro ⟨before, after, rfl, opens⟩
    exact ⟨before.length, by simp, by simp, by simpa using opens⟩

instance : DecidablePred HasOpenSigma := fun text =>
  decidable_of_iff _ (exists_open_place_iff text)

/-- A sigma that is not left open has the same form in every larger text. -/
theorem form_sigma_of_settled {before after : List Char} (settled : ¬ LeavesOpen before after)
    (outer behind : List Char) :
    form (before ++ outer) 'Σ' (after ++ behind) = form before 'Σ' after := by
  -- Where one side holds nothing that counts, the other side settles the form.
  simp only [LeavesOpen, not_or, not_and] at settled
  obtain ⟨final, plain⟩ := settled
  rw [form_sigma, form_sigma, nearestCase?_append, nearestCase?_append]
  -- Only what is passed over on both sides brings the larger text in.
  cases left : nearestCase? before with
  | none =>
    have meets : nearestCase? after = some true := Classical.not_not.1 (plain left)
    simp [meets]
  | some cased =>
    cases right : nearestCase? after with
    | some _ => rfl
    | none =>
      cases cased with
      | true => exact absurd right (final left)
      | false => rfl

/-- A part without an open sigma becomes in every larger text what it becomes by itself. -/
theorem lowercaseWithin_of_settled {part : List Char} (settled : ¬ HasOpenSigma part)
    (outer behind : List Char) : lowercaseWithin outer part behind = lowercase part := by
  -- The characters that were read already stand between the part and what is around it.
  have onward (rest read : List Char) (whole : part = read ++ rest) :
      lowercaseWithin (read.reverse ++ outer) rest behind =
        lowercaseWithin read.reverse rest [] := by
    induction rest generalizing read with
    | nil => rfl
    | cons c rest ih =>
      have here : form (read.reverse ++ outer) c (rest ++ behind) = form read.reverse c rest := by
        by_cases sigma : c = 'Σ'
        · subst sigma
          exact form_sigma_of_settled (fun opens => settled ⟨read, rest, whole, opens⟩) _ _
        · rw [form, form, if_neg sigma, if_neg sigma]
      have later := ih (read ++ [c]) (by rw [whole, List.append_assoc, List.singleton_append])
      rw [List.reverse_append, List.reverse_singleton] at later
      rw [lowercaseWithin, lowercaseWithin, here, List.append_nil]
      exact congrArg (form read.reverse c rest ++ ·) later
  have whole := onward part [] rfl
  rwa [List.reverse_nil, List.nil_append, ← lowercaseAfter_eq] at whole

/-- Without an open sigma the lower case of a part occurs in that of every text with the part. -/
theorem lowercase_isInfix {part text : List Char} (settled : ¬ HasOpenSigma part)
    (occurs : part <:+: text) : lowercase part <:+: lowercase text := by
  -- The lower case of the part stands in the middle of that of the text.
  obtain ⟨outer, behind, rfl⟩ := occurs
  rw [lowercase_append, lowercaseWithin_of_settled settled]
  exact List.infix_append _ _ _

/-- A text in which nothing counts has no capital sigma. -/
theorem sigma_not_mem_of_passed {text : List Char} (passed : nearestCase? text = none) :
    'Σ' ∉ text := by
  -- A sigma counts, so it would be found.
  intro member
  obtain ⟨before, after, rfl⟩ := List.append_of_mem member
  -- The sigma would count, if nothing before it does.
  rw [nearestCase?_append, nearestCase?_sigma, Option.or_eq_none_iff] at passed
  exact Option.some_ne_none _ passed.2

/-- The lower case of a part is made up of that of its sigma and of what stands around the sigma. -/
theorem lowercaseWithin_around_sigma (outer before after behind : List Char) :
    lowercaseWithin outer (before ++ 'Σ' :: after) behind =
      lowercaseWithin outer before ('Σ' :: (after ++ behind)) ++
        (form (before.reverse ++ outer) 'Σ' (after ++ behind) ++
          lowercaseWithin ('Σ' :: (before.reverse ++ outer)) after behind) := by
  -- The part is split at the sigma, and the sigma is a part by itself.
  rw [lowercaseWithin_append, lowercaseWithin, List.cons_append]

/-- A letter is missing in a larger text in which only the sigma that became it has another form. -/
theorem not_lowercase_isInfix {outer before after behind : List Char} {c d : Char} (other : d ≠ c)
    (here : form before.reverse 'Σ' after = [c])
    (there : form (before.reverse ++ outer.reverse) 'Σ' (after ++ behind) = [d])
    (head : lowercaseWithin outer.reverse before ('Σ' :: (after ++ behind)) =
      lowercaseWithin [] before ('Σ' :: after))
    (tail : lowercaseWithin ('Σ' :: (before.reverse ++ outer.reverse)) after behind =
      lowercaseWithin ('Σ' :: before.reverse) after [])
    (lead : c ∉ lowercaseWithin [] outer (before ++ 'Σ' :: after ++ behind))
    (rest : c ∉ lowercaseWithin ((before ++ 'Σ' :: after).reverse ++ outer.reverse) behind []) :
    ¬ lowercase (before ++ 'Σ' :: after) <:+:
      lowercase (outer ++ (before ++ 'Σ' :: after) ++ behind) := by
  -- The letter that became of the sigma is counted on both sides.
  intro occurs
  -- The larger text has as many of the letter as the part, less the one.
  have few := occurs.sublist.count_le c
  rw [lowercase_append, lowercase, lowercaseAfter_eq, lowercaseWithin_around_sigma,
    lowercaseWithin_around_sigma] at few
  simp only [List.append_nil, here, there, head, tail, List.count_append,
    List.count_eq_zero_of_not_mem lead, List.count_eq_zero_of_not_mem rest,
    List.count_singleton_self, List.count_cons_of_ne other, List.count_nil] at few
  omega

/-- A letter a stays as it is, wherever it stands. -/
theorem lowercaseWithin_a (before after : List Char) : lowercaseWithin before ['a'] after = ['a'] :=
  -- The letter is no sigma.
  lowercaseWithin_of_free (by decide) before after

/-- An open sigma takes its other form beside a letter, and the lower case of the text is lost. -/
theorem exists_not_lowercase_isInfix {part : List Char} (opens : HasOpenSigma part) :
    ∃ text, part <:+: text ∧ ¬ lowercase part <:+: lowercase text := by
  -- A letter a is put where nothing of the text counts.
  have cased : nearestCase? ['a'] = some true := by decide +kernel
  -- An end of the text at which nothing counts holds no sigma, so it stays as it is by the letter.
  obtain ⟨before, after, rfl, ⟨left, right⟩ | ⟨left, right⟩⟩ := opens
  · -- With a letter behind the text the sigma is not final any more.
    have free := sigma_not_mem_of_passed right
    refine ⟨[] ++ (before ++ 'Σ' :: after) ++ ['a'], List.infix_append _ _ _,
      not_lowercase_isInfix (c := 'ς') (d := 'σ') (by decide) ?_ ?_ ?_ ?_ ?_ ?_⟩
    · simp [form_sigma, left, right]
    · simp [form_sigma, nearestCase?_append, right, cased]
    · exact lowercaseWithin_congr rfl (by rw [nearestCase?_sigma, nearestCase?_sigma]) before
    · rw [lowercaseWithin_of_free free, lowercaseWithin_of_free free]
    · exact List.not_mem_nil
    · rw [lowercaseWithin_a]
      decide
  · -- With a letter before the text the sigma is final.
    have free : 'Σ' ∉ before := by simpa using sigma_not_mem_of_passed left
    refine ⟨['a'] ++ (before ++ 'Σ' :: after) ++ [], List.infix_append _ _ _,
      not_lowercase_isInfix (c := 'σ') (d := 'ς') (by decide) ?_ ?_ ?_ ?_ ?_ ?_⟩
    · simp [form_sigma, left]
    · simp [form_sigma, nearestCase?_append, left, cased, right]
    · rw [lowercaseWithin_of_free free, lowercaseWithin_of_free free]
    · exact lowercaseWithin_congr (by rw [nearestCase?_sigma, nearestCase?_sigma]) rfl after
    · rw [lowercaseWithin_a]
      decide
    · exact List.not_mem_nil

/-- The lower case of a part occurs in that of every text with the part if no sigma of the part is
left open, and only then. -/
theorem lowercase_isInfix_iff (part : List Char) :
    (∀ text, part <:+: text → lowercase part <:+: lowercase text) ↔ ¬ HasOpenSigma part := by
  -- A settled part keeps its lower case everywhere, and an open sigma loses it beside a letter.
  refine ⟨fun always opens => ?_, fun settled _ => lowercase_isInfix settled⟩
  obtain ⟨text, occurs, lost⟩ := exists_not_lowercase_isInfix opens
  exact lost (always text occurs)

end TodoMarkers.Text
