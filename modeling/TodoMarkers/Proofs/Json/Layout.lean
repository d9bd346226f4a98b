import TodoMarkers.Json.Basic
import TodoMarkers.Json.Skip
import TodoMarkers.Proofs.Json.Number

/-! The texts of JSON values, with any spaces between their tokens; the compact and the indented
text of a value are two of them. -/

namespace TodoMarkers.Json

/-- Holds of the spaces that may stand between tokens. -/
def IsSpaces (pad : List Char) : Prop :=
  ∀ c ∈ pad, isSpace c = true

/-- No spaces at all may stand between tokens. -/
theorem isSpaces_nil : IsSpaces [] :=
  nofun

/-- Holds of what may stand before an item or a member: spaces, and a comma unless it comes
first. -/
def IsGap (first : Bool) (gap : List Char) : Prop :=
  ∃ before behind, IsSpaces before ∧ IsSpaces behind ∧
    gap = if first then behind else before ++ ',' :: behind

/-- The bracket that opens an array or an object. -/
def Enclosure.opening : Enclosure → Char
  | .array => '['
  | .object => '\x7b'

/-- The bracket that closes an array or an object. -/
def Enclosure.closing : Enclosure → Char
  | .array => ']'
  | .object => '\x7d'

/-- Holds of what names a value within an enclosure: nothing in an array, and a name and a colon in
an object. -/
def IsLabel : Enclosure → String → List Char → Prop
  | .array, _, label => label = []
  | .object, name, label => ∃ before behind, IsSpaces before ∧ IsSpaces behind ∧
    label = renderString name ++ (before ++ ':' :: behind)

/-- The items of an array as members, whose names are not written. -/
def unnamed (items : List Json) : List (String × Json) :=
  items.map fun item => ("", item)

/-- A part of a JSON text.

What is left of an array or an object ends with its closing bracket; it tells whether anything has
been written behind the opening one. -/
inductive Part where
  | value (value : Json)
  | inside (enclosure : Enclosure) (first : Bool) (members : List (String × Json))

/-- The texts of the parts of JSON texts. -/
inductive LaidOut : Part → List Char → Prop
  | null : LaidOut (.value .null) "null".toList
  | true : LaidOut (.value (.bool true)) "true".toList
  | false : LaidOut (.value (.bool false)) "false".toList
  | natural (value : Nat) : LaidOut (.value (.natural value)) (toString value).toList
  | decimal {literal : String} (number : IsNumber literal.toList) :
    LaidOut (.value (.decimal literal)) literal.toList
  | string (value : String) : LaidOut (.value (.string value)) (renderString value)
  | array {items : List Json} {body : List Char}
    (inside : LaidOut (.inside .array true (unnamed items)) body) :
    LaidOut (.value (.array items)) ('[' :: body)
  | object {members : List (String × Json)} {body : List Char}
    (inside : LaidOut (.inside .object true members) body) :
    LaidOut (.value (.object members)) ('\x7b' :: body)
  | closed {enclosure : Enclosure} {first : Bool} {pad : List Char} (spaces : IsSpaces pad) :
    LaidOut (.inside enclosure first []) (pad ++ [enclosure.closing])
  | member {enclosure : Enclosure} {first : Bool} {gap label piece tail : List Char}
    {name : String} {value : Json} {rest : List (String × Json)} (isGap : IsGap first gap)
    (isLabel : IsLabel enclosure name label) (head : LaidOut (.value value) piece)
    (behind : LaidOut (.inside enclosure false rest) tail) :
    LaidOut (.inside enclosure first ((name, value) :: rest)) (gap ++ (label ++ (piece ++ tail)))

/-- Holds of the values whose numbers are all written as numbers. -/
inductive WellFormed : Json → Prop
  | null : WellFormed .null
  | bool (value : Bool) : WellFormed (.bool value)
  | natural (value : Nat) : WellFormed (.natural value)
  | decimal {literal : String} (number : IsNumber literal.toList) : WellFormed (.decimal literal)
  | string (value : String) : WellFormed (.string value)
  | array {items : List Json} (inside : ∀ item ∈ items, WellFormed item) : WellFormed (.array items)
  | object {members : List (String × Json)} (inside : ∀ member ∈ members, WellFormed member.2) :
    WellFormed (.object members)

section Reading

/-- Spaces before a text that starts with none are passed over. -/
theorem skipSpaces_append {pad text : List Char} (spaces : IsSpaces pad)
    (start : ∀ c ∈ text.head?, isSpace c = false) : skipSpaces (pad ++ text) = text := by
  -- The spaces are dropped up to the first character that is none.
  rw [skipSpaces, List.dropWhile_append_of_pos spaces]
  cases text with
  | nil => rfl
  | cons c text =>
    have other : isSpace c = false := start c rfl
    simp [other]

/-- Spaces do not go on with a number. -/
theorem endsNumber_spaces {pad rest : List Char} (spaces : IsSpaces pad)
    (ends : EndsNumber rest) : EndsNumber (pad ++ rest) := by
  -- What is left starts with one of four spaces, or where there are none with the rest itself.
  have table : ∀ c, isSpace c = true → continuesNumber c = false := by
    intro c space
    simp only [isSpace, Bool.or_eq_true, beq_iff_eq] at space
    obtain ((rfl | rfl) | rfl) | rfl := space <;> decide
  cases pad with
  | nil => exact ends
  | cons c pad =>
    intro d first
    obtain rfl : c = d := by simpa using first
    exact table c (spaces c List.mem_cons_self)

/-- Behind a value in an array or an object no number goes on. -/
theorem endsNumber_inside {enclosure : Enclosure} {members : List (String × Json)}
    {tail : List Char} (laid : LaidOut (.inside enclosure false members) tail)
    (rest : List Char) : EndsNumber (tail ++ rest) := by
  -- Behind spaces stands a bracket or a comma.
  cases laid with
  | closed spaces =>
    rw [List.append_assoc]
    refine endsNumber_spaces spaces fun c first => ?_
    cases enclosure <;> (cases first; decide)
  | member isGap _ _ _ =>
    obtain ⟨before, behind, spaces, _, rfl⟩ := isGap
    simp only [Bool.false_eq_true, if_false, List.append_assoc]
    refine endsNumber_spaces spaces fun c first => ?_
    cases first
    decide

/-- A number starts with a sign or a digit. -/
theorem head_number {text : List Char} (isNumber : IsNumber text) :
    ∃ c rest, text = c :: rest ∧ (c = '-' ∨ c.isDigit = true) := by
  -- The sign may be missing, and the whole digits behind it may not.
  obtain ⟨sign, whole, fraction, power, signed, isWhole, _, _, rfl⟩ := isNumber
  rcases signed with rfl | rfl
  · obtain ⟨digit, digits, rfl⟩ := List.exists_cons_of_ne_nil isWhole.1.1
    exact ⟨digit, _, rfl, .inr (isWhole.1.2 digit List.mem_cons_self)⟩
  · exact ⟨'-', _, rfl, .inl rfl⟩

/-- A number starts with no other character than a sign or a digit. -/
theorem head_number_ne {c d : Char} (start : c = '-' ∨ c.isDigit = true)
    (other : d ≠ '-' ∧ d.isDigit = false) : c ≠ d := by
  -- The other character is neither of the two that may start a number.
  rintro rfl
  rcases start with same | digit
  · exact other.1 same
  · rw [other.2] at digit
    contradiction

/-- The digits of a natural number are a number. -/
theorem isNumber_natural (n : Nat) : IsNumber (toString n).toList := by
  -- Sign, fraction and exponent are all empty.
  refine ⟨[], Nat.toDigits 10 n, [], [], .inl rfl, isWhole_toDigits n, .inl rfl, .inl rfl, ?_⟩
  simp [Nat.toString_eq_repr, Nat.toList_repr]

/-- What a value starts with: no space and no closing bracket, and the letter of null only if it is
null. -/
theorem head_value {value : Json} {piece : List Char} (laid : LaidOut (.value value) piece) :
    ∃ c rest, piece = c :: rest ∧ isSpace c = false ∧ c ≠ ']' ∧ (c = 'n' → value = .null) := by
  -- Numbers start with a sign or a digit, and every other value with a character of its own.
  have number {text : List Char} (isNumber : IsNumber text) :
      ∃ c rest, text = c :: rest ∧ isSpace c = false ∧ c ≠ ']' ∧ c ≠ 'n' := by
    obtain ⟨c, rest, rfl, start⟩ := head_number isNumber
    refine ⟨c, rest, rfl, ?_, head_number_ne start (by decide), head_number_ne start (by decide)⟩
    simp only [isSpace, Bool.or_eq_false_iff, beq_eq_false_iff_ne]
    exact ⟨⟨⟨head_number_ne start (by decide), head_number_ne start (by decide)⟩,
      head_number_ne start (by decide)⟩, head_number_ne start (by decide)⟩
  cases laid with
  | null => exact ⟨'n', _, rfl, by decide, by decide, fun _ => rfl⟩
  | true => exact ⟨'t', _, rfl, by decide, by decide, nofun⟩
  | false => exact ⟨'f', _, rfl, by decide, by decide, nofun⟩
  | natural n =>
    obtain ⟨c, rest, whole, space, bracket, other⟩ := number (isNumber_natural n)
    exact ⟨c, rest, whole, space, bracket, fun same => absurd same other⟩
  | decimal isNumber =>
    obtain ⟨c, rest, whole, space, bracket, other⟩ := number isNumber
    exact ⟨c, rest, whole, space, bracket, fun same => absurd same other⟩
  | string value => exact ⟨'"', _, rfl, by decide, by decide, nofun⟩
  | array _ => exact ⟨'[', _, rfl, by decide, by decide, nofun⟩
  | object _ => exact ⟨'\x7b', _, rfl, by decide, by decide, nofun⟩

/-- Spaces before a value are passed over. -/
theorem skipSpaces_value {value : Json} {pad piece : List Char} (spaces : IsSpaces pad)
    (laid : LaidOut (.value value) piece) (rest : List Char) :
    skipSpaces (pad ++ (piece ++ rest)) = piece ++ rest := by
  -- The text of a value starts with a character that is no space.
  obtain ⟨c, chars, rfl, space, _⟩ := head_value laid
  refine skipSpaces_append spaces fun d first => ?_
  cases first
  exact space

/-- A text takes a character for each of the members, at least, and one for the closing bracket. -/
theorem length_members_lt {enclosure : Enclosure} {first : Bool} {members : List (String × Json)}
    {text : List Char} (laid : LaidOut (.inside enclosure first members) text) :
    members.length < text.length := by
  -- Every member has a value, and no value is written as nothing.
  induction members generalizing first text with
  | nil =>
    cases laid with
    | closed _ => simp
  | cons member members ih =>
    cases laid with
    | member _ _ head behind =>
      obtain ⟨c, chars, rfl, _⟩ := head_value head
      have more := ih behind
      simp only [List.length_append, List.length_cons]
      omega

end Reading

section Printing

variable {render : Json → List Char} {label : String → List Char}
  {gap opening closing : List Char} {enclosure : Enclosure}

/-- A first piece comes without a separator, and every other one behind it. -/
theorem separated_cons (separator piece : List Char) (pieces : List (List Char)) :
    separated separator (piece :: pieces) = piece ++ pieces.flatMap (separator ++ ·) := by
  -- A separator between two pieces is one before the second of them.
  induction pieces generalizing piece with
  | nil => simp [separated]
  | cons next pieces ih => simp [separated, ih]

/-- The members after the first one are laid out behind a comma each. -/
theorem laidOut_behind {members : List (String × Json)}
    (laid : ∀ member ∈ members, LaidOut (.value member.2) (render member.2))
    (named : ∀ name, IsLabel enclosure name (label name)) (spaces : IsSpaces gap)
    (close : IsSpaces closing) :
    LaidOut (.inside enclosure false members)
      ((members.map fun member => label member.1 ++ render member.2).flatMap (',' :: gap ++ ·) ++
        (closing ++ [enclosure.closing])) := by
  -- Induction on the members, each of which brings the comma before it.
  induction members with
  | nil => exact .closed close
  | cons member members ih =>
    have tail := ih fun other inside => laid other (List.mem_cons_of_mem _ inside)
    have whole : LaidOut (.inside enclosure false (member :: members)) _ :=
      .member ⟨[], gap, isSpaces_nil, spaces, rfl⟩ (named member.1) (laid member List.mem_cons_self)
        tail
    simpa using whole

/-- Members are laid out with spaces around them and a comma between them. -/
theorem laidOut_inside {members : List (String × Json)}
    (laid : ∀ member ∈ members, LaidOut (.value member.2) (render member.2))
    (named : ∀ name, IsLabel enclosure name (label name)) (start : IsSpaces opening)
    (spaces : IsSpaces gap) (close : IsSpaces closing) :
    LaidOut (.inside enclosure true members) (opening ++
      (separated (',' :: gap) (members.map fun member => label member.1 ++ render member.2) ++
        (closing ++ [enclosure.closing]))) := by
  -- Only the first member has no comma before it.
  cases members with
  | nil =>
    have pad : IsSpaces (opening ++ closing) := List.forall_mem_append.2 ⟨start, close⟩
    have whole : LaidOut (.inside enclosure true []) _ := .closed pad
    simpa [separated] using whole
  | cons member members =>
    have tail := laidOut_behind (fun other inside => laid other (List.mem_cons_of_mem _ inside))
      named spaces close
    have whole : LaidOut (.inside enclosure true (member :: members)) _ :=
      .member ⟨[], opening, isSpaces_nil, start, rfl⟩ (named member.1)
        (laid member List.mem_cons_self) tail
    simpa [separated_cons] using whole

/-- A new line is made of spaces. -/
theorem isSpaces_newline (level : Nat) : IsSpaces (newline level) := by
  -- A new line is a line break with blanks behind it.
  intro c inside
  rw [newline, List.mem_cons] at inside
  rcases inside with rfl | inside
  · rfl
  · rw [List.eq_of_mem_replicate inside]
    rfl

/-- Members are laid out on lines of their own. -/
theorem laidOut_block {members : List (String × Json)} (level : Nat)
    (laid : ∀ member ∈ members, LaidOut (.value member.2) (render member.2))
    (named : ∀ name, IsLabel enclosure name (label name)) :
    ∃ body, block level enclosure.opening enclosure.closing
        (members.map fun member => label member.1 ++ render member.2) = enclosure.opening :: body ∧
      LaidOut (.inside enclosure true members) body := by
  -- Without members there is nothing between the brackets, not even a new line.
  cases members with
  | nil => exact ⟨_, rfl, .closed isSpaces_nil⟩
  | cons member members =>
    have inside := laidOut_inside laid named (isSpaces_newline (level + 1))
      (isSpaces_newline (level + 1)) (isSpaces_newline level)
    exact ⟨_, by simp [block], inside⟩

/-- The items of an array without blanks, one by one. -/
theorem compactItems_eq (items : List Json) : compactItems items = items.map compactChars := by
  -- Induction on the items, along the recursion that writes them.
  induction items with
  | nil => rfl
  | cons item items ih => rw [compactItems, ih, List.map_cons]

/-- The members of an object without blanks, one by one. -/
theorem compactMembers_eq (members : List (String × Json)) :
    compactMembers members =
      members.map fun member => (renderString member.1 ++ [':']) ++ compactChars member.2 := by
  -- Induction on the members, along the recursion that writes them.
  induction members with
  | nil => rfl
  | cons member members ih => simp [compactMembers, ih]

/-- The items of an array on lines of their own, one by one. -/
theorem prettyItems_eq (level : Nat) (items : List Json) :
    prettyItems level items = items.map (prettyChars (level + 1)) := by
  -- Induction on the items, all of which stand one level deeper.
  induction items with
  | nil => rfl
  | cons item items ih => rw [prettyItems, ih, List.map_cons]

/-- The members of an object on lines of their own, one by one. -/
theorem prettyMembers_eq (level : Nat) (members : List (String × Json)) :
    prettyMembers level members = members.map fun member =>
      (renderString member.1 ++ [':', ' ']) ++ prettyChars (level + 1) member.2 := by
  -- Induction on the members, all of which stand one level deeper.
  induction members with
  | nil => rfl
  | cons member members ih => simp [prettyMembers, ih]

/-- A value is laid out by its text without blanks. -/
theorem laidOut_compact {value : Json} (wellFormed : WellFormed value) :
    LaidOut (.value value) value.compactChars := by
  -- Induction on the value: arrays and objects join the layouts of what they hold.
  induction wellFormed with
  | null => exact .null
  | bool value => cases value with
    | true => exact .true
    | false => exact .false
  | natural value => exact .natural value
  | decimal number => exact .decimal number
  | string value => exact .string value
  | @array items _ ih =>
    have laid : ∀ member ∈ unnamed items, LaidOut (.value member.2) member.2.compactChars :=
      List.forall_mem_map.2 ih
    -- The items are members whose labels are empty.
    have named (name : String) : IsLabel .array name [] := rfl
    have inside := laidOut_inside laid named isSpaces_nil isSpaces_nil isSpaces_nil
    have pieces : (unnamed items).map (fun member => [] ++ compactChars member.2) =
        compactItems items := by
      simp [unnamed, compactItems_eq, Function.comp_def]
    rw [pieces] at inside
    exact .array inside
  | @object members _ ih =>
    have named (name : String) : IsLabel .object name (renderString name ++ [':']) :=
      ⟨[], [], isSpaces_nil, isSpaces_nil, rfl⟩
    have inside := laidOut_inside ih named isSpaces_nil isSpaces_nil isSpaces_nil
    rw [compactChars, compactMembers_eq]
    exact .object inside

/-- A value is laid out by its text with indented lines. -/
theorem laidOut_pretty {value : Json} (wellFormed : WellFormed value) (level : Nat) :
    LaidOut (.value value) (value.prettyChars level) := by
  -- The pieces of an array or an object stand one level further in.
  induction wellFormed generalizing level with
  | null => exact .null
  | bool value => cases value with
    | true => exact .true
    | false => exact .false
  | natural value => exact .natural value
  | decimal number => exact .decimal number
  | string value => exact .string value
  | @array items _ ih =>
    have laid : ∀ member ∈ unnamed items,
        LaidOut (.value member.2) (member.2.prettyChars (level + 1)) :=
      List.forall_mem_map.2 fun item member => ih item member (level + 1)
    have named (name : String) : IsLabel .array name [] := rfl
    obtain ⟨body, whole, inside⟩ := laidOut_block level laid named
    have pieces : (unnamed items).map (fun member => [] ++ prettyChars (level + 1) member.2) =
        prettyItems level items := by
      simp [unnamed, prettyItems_eq, Function.comp_def]
    rw [pieces] at whole
    rw [prettyChars]
    exact whole ▸ .array inside
  | @object members _ ih =>
    have named (name : String) : IsLabel .object name (renderString name ++ [':', ' ']) :=
      ⟨[], [' '], isSpaces_nil, List.forall_mem_singleton.2 rfl, rfl⟩
    obtain ⟨body, whole, inside⟩ :=
      laidOut_block level (fun member known => ih member known (level + 1)) named
    rw [← prettyMembers_eq] at whole
    rw [prettyChars]
    exact whole ▸ .object inside

end Printing

end TodoMarkers.Json
