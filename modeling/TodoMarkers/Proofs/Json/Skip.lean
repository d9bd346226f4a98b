import TodoMarkers.Json.Skip
import TodoMarkers.Proofs.Json.Layout
import TodoMarkers.Proofs.Json.Token

/-! Every value is passed over where it is written, however deeply it nests. -/

namespace TodoMarkers.Json

/-- What passing over does once a value or an opening bracket is behind it. -/
def resume (bound : Nat) (closed : Except Fault (List Enclosure × List Char)) :
    Except Fault (List Char) :=
  match closed with
  | .error fault => .error fault
  | .ok ([], rest) => .ok rest
  | .ok (enclosures, rest) => skipWithin bound enclosures rest

/-- Holds of two stages such that a bound of the cost, at least, leads from the first to the second
and is used up by no more than the cost. -/
def Passes (cost : Nat) (start finish : Nat → Except Fault (List Char)) : Prop :=
  ∀ bound, cost ≤ bound → ∃ left, bound ≤ left + cost ∧ start bound = finish left

/-- One step takes one from the bound. -/
theorem Passes.step {start finish : Nat → Except Fault (List Char)}
    (once : ∀ bound, start (bound + 1) = finish bound) : Passes 1 start finish := by
  -- A bound of at least one has one to give.
  intro bound enough
  obtain ⟨left, rfl⟩ := Nat.exists_eq_add_of_le' enough
  exact ⟨left, Nat.le_refl _, once left⟩

/-- Stages follow one another, and their costs add up. -/
theorem Passes.trans {first second : Nat} {start middle finish : Nat → Except Fault (List Char)}
    (before : Passes first start middle) (behind : Passes second middle finish) :
    Passes (first + second) start finish := by
  -- The second stage has what the first one leaves of the bound.
  intro bound enough
  obtain ⟨between, most, reached⟩ := before bound (by omega)
  obtain ⟨left, more, finished⟩ := behind between (by omega)
  exact ⟨left, by omega, reached.trans finished⟩

/-- A higher cost is a weaker promise. -/
theorem Passes.mono {cost more : Nat} {start finish : Nat → Except Fault (List Char)}
    (passes : Passes cost start finish) (le : cost ≤ more) : Passes more start finish := by
  -- A bound that covers the higher cost covers the lower one.
  intro bound enough
  obtain ⟨left, most, reached⟩ := passes bound (Nat.le_trans le enough)
  exact ⟨left, by omega, reached⟩

/-- A stage may be replaced by one that is the same under every bound. -/
theorem Passes.of_eq {cost : Nat} {start middle finish : Nat → Except Fault (List Char)}
    (same : ∀ bound, start bound = middle bound) (passes : Passes cost middle finish) :
    Passes cost start finish := by
  -- The two stages are one function of the bound.
  rwa [funext same]

/-- What names a member of an object starts with a quote. -/
theorem head_label {name : String} {label : List Char} (isLabel : IsLabel .object name label) :
    ∃ chars, label = '"' :: chars := by
  -- The label of a member opens with its name, which is a string.
  obtain ⟨before, behind, _, _, rfl⟩ := isLabel
  exact ⟨_, rfl⟩

/-- The name of a member is passed over, with its colon. -/
theorem skipName_append {name : String} {gap label : List Char} (spaces : IsSpaces gap)
    (isLabel : IsLabel .object name label) :
    ∃ pad, IsSpaces pad ∧ ∀ text, skipName (gap ++ (label ++ text)) = .ok (pad ++ text) := by
  -- The name is a string, and what is left behind its colon are spaces.
  obtain ⟨before, behind, beforeColon, behindColon, rfl⟩ := isLabel
  refine ⟨behind, behindColon, fun text => ?_⟩
  have quote : skipSpaces (gap ++ (renderString name ++ (before ++ ':' :: behind) ++ text)) =
      renderString name ++ (before ++ ':' :: behind) ++ text :=
    skipSpaces_append spaces (by simp [renderString, isSpace])
  have colon : skipSpaces (before ++ ':' :: (behind ++ text)) = ':' :: (behind ++ text) :=
    skipSpaces_append beforeColon (by simp [isSpace])
  have string := skipString_escaped name (before ++ ':' :: (behind ++ text))
  unfold skipName
  rw [quote]
  simp [renderString, string, colon]

/-- The closing bracket of an array or an object is passed over. -/
theorem skipClosings_closed {pad : List Char} (spaces : IsSpaces pad) (enclosure : Enclosure)
    (first : Bool) (outer : List Enclosure) (rest : List Char) :
    skipClosings (!first) (enclosure :: outer) (pad ++ (enclosure.closing :: rest)) =
      skipClosings true outer rest := by
  -- The bracket belongs to the innermost enclosure, which is closed by it.
  have bracket : skipSpaces (pad ++ (enclosure.closing :: rest)) = enclosure.closing :: rest := by
    refine skipSpaces_append spaces fun c start => ?_
    cases enclosure <;> (cases start; rfl)
  rw [skipClosings.eq_def]
  dsimp only
  rw [bracket]
  cases enclosure <;> rfl

/-- What stands before a value within an array or an object is passed over, up to spaces. -/
theorem skipClosings_label {enclosure : Enclosure} {first : Bool} {gap label piece : List Char}
    {name : String} {value : Json} (isGap : IsGap first gap)
    (isLabel : IsLabel enclosure name label) (laid : LaidOut (.value value) piece)
    (outer : List Enclosure) (rest : List Char) :
    ∃ pad, IsSpaces pad ∧
      skipClosings (!first) (enclosure :: outer) (gap ++ (label ++ (piece ++ rest))) =
        .ok (enclosure :: outer, pad ++ (piece ++ rest)) := by
  -- Only the first member has no comma before it, and only in an object has it a name.
  obtain ⟨before, behind, beforeComma, spaces, rfl⟩ := isGap
  cases first with
  | true =>
    cases enclosure with
    | array =>
      -- The first item is told from the closing bracket by the character that it starts with.
      obtain rfl : label = [] := isLabel
      refine ⟨[], isSpaces_nil, ?_⟩
      have start := skipSpaces_value spaces laid rest
      obtain ⟨c, chars, rfl, _, bracket, _⟩ := head_value laid
      simp only [if_true, List.nil_append, Bool.not_true]
      rw [skipClosings.eq_def]
      dsimp only
      rw [start, List.cons_append]
      split <;> simp_all
    | object =>
      obtain ⟨pad, more, named⟩ := skipName_append isSpaces_nil isLabel
      refine ⟨pad, more, ?_⟩
      have name := named (piece ++ rest)
      obtain ⟨chars, rfl⟩ := head_label isLabel
      have quote : skipSpaces (behind ++ ('"' :: chars ++ (piece ++ rest))) =
          '"' :: chars ++ (piece ++ rest) := skipSpaces_append spaces (by simp [isSpace])
      simp only [if_true, Bool.not_true]
      rw [skipClosings.eq_def]
      dsimp only
      rw [quote]
      simp only [List.nil_append, List.cons_append] at name ⊢
      simp [name]
  | false =>
    have comma : skipSpaces (before ++ ',' :: (behind ++ (label ++ (piece ++ rest)))) =
        ',' :: (behind ++ (label ++ (piece ++ rest))) :=
      skipSpaces_append beforeComma (by simp [isSpace])
    simp only [Bool.false_eq_true, if_false, List.append_assoc, List.cons_append, Bool.not_false]
    cases enclosure with
    | array =>
      obtain rfl : label = [] := isLabel
      refine ⟨behind, spaces, ?_⟩
      rw [skipClosings.eq_def]
      dsimp only
      rw [comma]
      simp
    | object =>
      obtain ⟨pad, more, named⟩ := skipName_append spaces isLabel
      refine ⟨pad, more, ?_⟩
      rw [skipClosings.eq_def]
      dsimp only
      rw [comma]
      simp [named]

/-- A value that holds no others is passed over. -/
theorem skipWithin_scalar {pad piece rest : List Char} {c : Char} {chars : List Char}
    (start : skipSpaces (pad ++ (piece ++ rest)) = c :: chars) (noArray : c ≠ '[')
    (noObject : c ≠ '\x7b') (scalar : skipScalar (c :: chars) = .ok rest)
    (enclosures : List Enclosure) (bound : Nat) :
    skipWithin (bound + 1) enclosures (pad ++ (piece ++ rest)) =
      resume bound (skipClosings true enclosures rest) := by
  -- The first character opens neither an array nor an object.
  rw [skipWithin, start]
  simp only [List.cons.injEq, noArray, noObject, false_and, imp_self, implies_true, scalar]
  rfl

/-- What is passed over when a part of a text is.

Behind a value, and behind the closing bracket of an array or an object, the enclosures go on. -/
def PassedOver (text : List Char) : Part → Prop
  | .value _ => ∀ pad rest enclosures, IsSpaces pad → EndsNumber rest →
    Passes text.length (fun bound => skipWithin bound enclosures (pad ++ (text ++ rest)))
      (fun bound => resume bound (skipClosings true enclosures rest))
  | .inside enclosure first _ => ∀ rest enclosures,
    Passes text.length
      (fun bound => resume bound (skipClosings (!first) (enclosure :: enclosures) (text ++ rest)))
      (fun bound => resume bound (skipClosings true enclosures rest))

/-- A value that holds no others takes one step. -/
theorem passedOver_scalar {value : Json} {text : List Char} (laid : LaidOut (.value value) text)
    (noArray : text.head? ≠ some '[') (noObject : text.head? ≠ some '\x7b')
    (skipped : ∀ rest, EndsNumber rest → skipScalar (text ++ rest) = .ok rest) :
    PassedOver text (.value value) := by
  -- A scalar has no inside, so the one step reaches what follows it.
  intro pad rest enclosures spaces ends
  have start := skipSpaces_value spaces laid rest
  have whole := skipped rest ends
  obtain ⟨c, chars, rfl, _⟩ := head_value laid
  refine (Passes.step fun bound => ?_).mono (by simp)
  exact skipWithin_scalar start (fun same => noArray (congrArg some same))
    (fun same => noObject (congrArg some same)) whole enclosures bound

/-- A number is passed over as the value that it is. -/
theorem passedOver_number {value : Json} {text : List Char} (laid : LaidOut (.value value) text)
    (isNumber : IsNumber text) : PassedOver text (.value value) := by
  -- A number starts with a sign or a digit, and no other scalar does.
  have skipped (rest : List Char) (ends : EndsNumber rest) := skipNumber_append isNumber ends
  obtain ⟨c, chars, rfl, start⟩ := head_number isNumber
  have other (d : Char) (known : d ≠ '-' ∧ d.isDigit = false) : c ≠ d := head_number_ne start known
  refine passedOver_scalar laid (fun same => other '[' (by decide) (Option.some.inj same))
    (fun same => other '\x7b' (by decide) (Option.some.inj same)) fun rest ends => ?_
  have whole := skipped rest ends
  rw [List.cons_append] at whole ⊢
  rw [skipScalar, if_neg (other 'n' (by decide)), if_neg (other 't' (by decide)),
    if_neg (other 'f' (by decide)), if_neg (other '"' (by decide)), if_pos start, whole]

/-- A part of a text is passed over. -/
theorem passedOver {part : Part} {text : List Char} (laid : LaidOut part text) :
    PassedOver text part := by
  -- By induction on how the part is laid out; each of its characters pays for at most one step.
  induction laid with
  | null => exact passedOver_scalar .null (by decide) (by decide) fun rest _ =>
    readWord_append _ rest
  | true => exact passedOver_scalar .true (by decide) (by decide) fun rest _ =>
    readWord_append _ rest
  | false => exact passedOver_scalar .false (by decide) (by decide) fun rest _ =>
    readWord_append _ rest
  | natural value => exact passedOver_number (.natural value) (isNumber_natural value)
  | decimal isNumber => exact passedOver_number (.decimal isNumber) isNumber
  | string value =>
    refine passedOver_scalar (.string value) (by simp [renderString]) (by simp [renderString])
      fun rest _ => ?_
    have skipped := skipString_escaped value rest
    simpa [renderString, skipScalar] using skipped
  | array inside ih =>
    -- The opening bracket takes a step of its own.
    intro pad rest enclosures spaces _
    have start := skipSpaces_value spaces (.array inside) rest
    refine ((Passes.step fun bound => ?_).trans (ih rest enclosures)).mono (by simp [Nat.add_comm])
    rw [skipWithin, start]
    rfl
  | object inside ih =>
    intro pad rest enclosures spaces _
    have start := skipSpaces_value spaces (.object inside) rest
    refine ((Passes.step fun bound => ?_).trans (ih rest enclosures)).mono (by simp [Nat.add_comm])
    rw [skipWithin, start]
    rfl
  | @closed enclosure first pad spaces =>
    intro rest enclosures bound enough
    -- No value is met, so that the bound is left as it is.
    refine ⟨bound, by omega, ?_⟩
    dsimp only
    rw [List.append_assoc, List.singleton_append, skipClosings_closed spaces]
  | @member enclosure first gap label piece tail name value _ isGap isLabel head behind headIh
      behindIh =>
    intro rest enclosures
    obtain ⟨pad, spaces, labelled⟩ :=
      skipClosings_label isGap isLabel head enclosures (tail ++ rest)
    have ends := endsNumber_inside behind rest
    -- First the value of the member is passed over, then what is left of the enclosure.
    have whole := (headIh pad (tail ++ rest) (enclosure :: enclosures) spaces ends).trans
      (behindIh rest enclosures)
    refine Passes.of_eq (fun bound => ?_)
      (whole.mono (by simp only [List.length_append]; omega))
    simp only [List.append_assoc]
    rw [labelled]
    rfl

/-- A value is passed over up to what follows it. -/
theorem skipValue_append {value : Json} {pad piece rest : List Char}
    (laid : LaidOut (.value value) piece) (spaces : IsSpaces pad) (ends : EndsNumber rest) :
    skipValue (pad ++ (piece ++ rest)) = .ok rest := by
  -- The text is longer than the value by at least one, and nothing encloses the value.
  obtain ⟨left, _, passed⟩ := passedOver laid pad rest [] spaces ends
    ((pad ++ (piece ++ rest)).length + 1) (by simp only [List.length_append]; omega)
  exact passed

end TodoMarkers.Json
