import TodoMarkers.Json.Shape
import TodoMarkers.Proofs.Json.Skip

/-! Values of a shape are read back from their texts, whatever spaces these hold; members that the
shape does not know are left out. -/

namespace TodoMarkers.Json

/-- The colon after a name is read. -/
theorem readColon_append {pad : List Char} (spaces : IsSpaces pad) (text : List Char) :
    readColon (pad ++ ':' :: text) = .ok text := by
  -- The spaces before the colon are passed over.
  have colon : skipSpaces (pad ++ ':' :: text) = ':' :: text :=
    skipSpaces_append spaces (by simp [isSpace])
  rw [readColon, colon]
  rfl

/-- The closing brace of an object is found. -/
theorem nextName?_closed {pad : List Char} (spaces : IsSpaces pad) (first : Bool)
    (rest : List Char) : nextName? first (pad ++ '\x7d' :: rest) = .ok none := by
  -- The brace ends the object wherever a name or a comma might stand.
  have brace : skipSpaces (pad ++ '\x7d' :: rest) = '\x7d' :: rest :=
    skipSpaces_append spaces (by simp [isSpace])
  simp [nextName?, brace]

/-- A string starts with a quote, which is found behind spaces. -/
theorem skipSpaces_string {pad : List Char} (spaces : IsSpaces pad) (value : String)
    (rest : List Char) :
    skipSpaces (pad ++ (renderString value ++ rest)) =
      '"' :: (value.toList.flatMap escapeChar ++ '"' :: rest) := by
  -- A written string starts with its quote.
  rw [skipSpaces_append spaces (by simp [renderString, isSpace])]
  simp [renderString]

/-- The name of the next member of an object is read. -/
theorem nextName?_append {first : Bool} {gap : List Char} (isGap : IsGap first gap)
    (name : String) (rest : List Char) :
    nextName? first (gap ++ (renderString name ++ rest)) = .ok (some (name, rest)) := by
  -- Before the first member no comma stands, and before any other one does.
  obtain ⟨before, behind, beforeComma, spaces, rfl⟩ := isGap
  have quote := skipSpaces_string spaces name rest
  have string := readString_escaped name rest
  cases first with
  | true => simp [nextName?, quote, string]
  | false =>
    have comma : skipSpaces (before ++ ',' :: (behind ++ (renderString name ++ rest))) =
        ',' :: (behind ++ (renderString name ++ rest)) :=
      skipSpaces_append beforeComma (by simp [isSpace])
    simp [nextName?, comma, quote, string]

/-- Members are read one after the other, if each is read behind what has been made of those before
it. -/
theorem readMembers_append {σ : Type} {member : σ → String → List Char → Reading σ}
    {state : List (String × Json) → σ} (done : List (String × Json))
    {members : List (String × Json)} {first : Bool} {text : List Char}
    (laid : LaidOut (.inside .object first members) text)
    (reads : ∀ before name value later, done ++ members = before ++ (name, value) :: later →
      ∀ beforeColon pad piece rest, IsSpaces beforeColon → IsSpaces pad →
        LaidOut (.value value) piece → EndsNumber rest →
        member (state before) name (beforeColon ++ ':' :: (pad ++ (piece ++ rest))) =
          .ok (state (before ++ [(name, value)]), rest))
    {bound : Nat} (enough : members.length < bound) (rest : List Char) :
    readMembers member bound first (state done) (text ++ rest) =
      .ok (state (done ++ members), rest) := by
  -- By induction on the members that are left; each takes one from the bound.
  induction members generalizing done first text bound with
  | nil =>
    obtain ⟨bound, rfl⟩ := Nat.exists_eq_add_one_of_ne_zero (Nat.ne_of_gt enough)
    cases laid with
    | @closed _ _ pad spaces =>
      have brace : skipSpaces (pad ++ '\x7d' :: rest) = '\x7d' :: rest :=
        skipSpaces_append spaces (by simp [isSpace])
      rw [List.append_assoc, List.singleton_append, Enclosure.closing, readMembers,
        nextName?_closed spaces]
      simp [brace]
  | cons head members ih =>
    obtain ⟨bound, rfl⟩ := Nat.exists_eq_add_one_of_ne_zero (Nat.ne_zero_of_lt enough)
    cases laid with
    | @member _ _ gap label piece tail name value _ isGap isLabel laid behind =>
      obtain ⟨beforeColon, pad, colon, spaces, rfl⟩ := isLabel
      have one := reads done name value members rfl beforeColon pad piece (tail ++ rest) colon
        spaces laid (endsNumber_inside behind rest)
      have others : readMembers member bound false (state (done ++ [(name, value)])) (tail ++ rest) =
          .ok (state (done ++ [(name, value)] ++ members), rest) :=
        ih _ behind (by simpa using reads) (Nat.lt_of_succ_lt_succ enough)
      simp only [List.append_assoc, List.cons_append]
      rw [readMembers, nextName?_append isGap]
      dsimp only
      rw [one]
      simpa using others

/-- The members of an object are read up to its closing brace. -/
theorem readMembers_object {σ : Type} (member : σ → String → List Char → Reading σ)
    (state : List (String × Json) → σ) {members : List (String × Json)} {body : List Char}
    (laid : LaidOut (.inside .object true members) body)
    (reads : ∀ before name value later, members = before ++ (name, value) :: later →
      ∀ beforeColon pad piece rest, IsSpaces beforeColon → IsSpaces pad →
        LaidOut (.value value) piece → EndsNumber rest →
        member (state before) name (beforeColon ++ ':' :: (pad ++ (piece ++ rest))) =
          .ok (state (before ++ [(name, value)]), rest)) (rest : List Char) :
    readMembers member ((body ++ rest).length + 1) true (state []) (body ++ rest) =
      .ok (state members, rest) := by
  -- There are fewer members than characters, so the bound of the loop is enough.
  have enough : members.length < (body ++ rest).length + 1 := by
    have less := length_members_lt laid
    rw [List.length_append]
    omega
  exact readMembers_append [] laid reads enough rest

/-- Holds of a shape under which the texts of one value are read as another value. -/
def Shape.Reads (shape : Shape) (value read : Json) : Prop :=
  ∀ pad piece rest, IsSpaces pad → LaidOut (.value value) piece → EndsNumber rest →
    shape.read (pad ++ (piece ++ rest)) = .ok (read, rest)

/-- A string is read as a text. -/
theorem readText_append {pad : List Char} (spaces : IsSpaces pad) (expected value : String)
    (rest : List Char) :
    readText expected (pad ++ (renderString value ++ rest)) = .ok (value, rest) := by
  -- Behind the spaces the quote opens the string.
  rw [readText, skipSpaces_string spaces]
  exact readString_escaped value rest

/-- A text is read back. -/
theorem reads_text (expected value : String) :
    (Shape.text expected).Reads (.string value) (.string value) := by
  -- The only text of a string is its escaped form.
  intro pad piece rest spaces laid _
  cases laid with
  | string => rw [Shape.read, readText_append spaces]

/-- A number is read back if 64 bits hold it. -/
theorem reads_count (expected : String) {n : Nat} (small : n < Nat.pow 2 64) :
    (Shape.count expected).Reads (.natural n) (.natural n) := by
  -- A number is told by the digit that it starts with.
  intro pad piece rest spaces laid ends
  have start := skipSpaces_value spaces laid rest
  cases laid with
  | natural =>
    have number := readNumber_natural small ends
    obtain ⟨c, chars, whole, digit⟩ := head_number (isNumber_natural n)
    rw [whole, List.cons_append] at start number
    rw [Shape.read, whole, List.cons_append, readCount, start]
    simp [digit, number]

/-- A word is read back if it is one of those that may be chosen. -/
theorem reads_choice {words : List String} {word : String} (known : word ∈ words) :
    (Shape.choice words).Reads (.string word) (.string word) := by
  -- The string is read first, and the word is then looked for among those known.
  intro pad piece rest spaces laid _
  have start := skipSpaces_value spaces laid rest
  cases laid with
  | string =>
    have string := readString_escaped word rest
    rw [Shape.read, readChoice, start]
    simp [renderString, string, known]

/-- Null is read back where it may stand. -/
theorem reads_null (shape : Shape) : (Shape.optional shape).Reads .null .null := by
  -- Null is told by the letter it starts with.
  intro pad piece rest spaces laid _
  have start := skipSpaces_value spaces laid rest
  cases laid with
  | null =>
    rw [Shape.read, start]
    rfl

/-- Any other value is read as it is where null need not stand. -/
theorem reads_optional {shape : Shape} {value read : Json} (some_ : value ≠ .null)
    (reads : shape.Reads value read) : (Shape.optional shape).Reads value read := by
  -- What is not null is read by the shape within.
  intro pad piece rest spaces laid ends
  have start := skipSpaces_value spaces laid rest
  have whole := reads [] piece rest nofun laid ends
  -- Only null starts with the letter by which it is told.
  obtain ⟨c, chars, rfl, _, _, letter⟩ := head_value laid
  have other : c ≠ 'n' := fun same => some_ (letter same)
  rw [Shape.read, start]
  simpa [other] using whole

/-- What reads the members of an object of strings. -/
def readTableMember (members : List (String × Json)) (name : String) (rest : List Char) :
    Reading (List (String × Json)) :=
  match readColon rest with
  | .error fault => .error fault
  | .ok rest =>
    match readText "a string" rest with
    | .error fault => .error fault
    | .ok (value, rest) => .ok (members ++ [(name, .string value)], rest)

/-- The object of strings that members make up. -/
def tableOf : Reading (List (String × Json)) → Reading Json
  | .error fault => .error fault
  | .ok (members, rest) => .ok (.object members, rest)

/-- An object of strings is read back. -/
theorem reads_table {members : List (String × Json)}
    (strings : ∀ member ∈ members, ∃ text, member.2 = .string text) :
    Shape.table.Reads (.object members) (.object members) := by
  -- The members are read in turn, and each of them is a string.
  intro pad piece rest spaces laid _
  have start := skipSpaces_value spaces laid rest
  cases laid with
  | @object _ body inside =>
    have whole := readMembers_object readTableMember id inside (by
      intro before name value later whole beforeColon pad piece rest colon spaces laid _
      obtain ⟨text, string⟩ := strings (name, value) (by simp [whole])
      obtain rfl : value = .string text := string
      cases laid with
      | string =>
        rw [readTableMember, readColon_append colon]
        dsimp only
        rw [readText_append spaces]
        rfl) rest
    have opened : readTable (pad ++ ('\x7b' :: body ++ rest)) =
        tableOf (readMembers readTableMember ((body ++ rest).length + 1) true (id [])
          (body ++ rest)) := by
      rw [readTable, start]
      rfl
    rw [Shape.read, opened, whole]
    rfl

section Fields

variable {fields : List (String × Presence × Shape)} {members : List (String × Json)}

/-- A field is read by the shape that its name is given first, and other names by none. -/
theorem readField_cases (fields : List (String × Presence × Shape)) (name : String) :
    (name ∉ fields.map Prod.fst ∧ readField fields name = none) ∨
      ∃ presence shape, (name, presence, shape) ∈ fields ∧
        readField fields name = some shape.read := by
  -- Induction on the fields: the first one with the name counts.
  induction fields with
  | nil => exact .inl ⟨by simp, rfl⟩
  | cons field fields ih =>
    obtain ⟨field, presence, shape⟩ := field
    by_cases same : field = name
    · subst same
      exact .inr ⟨presence, shape, List.mem_cons_self, by rw [readField, if_pos rfl]⟩
    · rw [readField, if_neg same]
      rcases ih with ⟨unknown, none_⟩ | ⟨presence, shape, known, read⟩
      · refine .inl ⟨?_, none_⟩
        simp only [List.map_cons, List.mem_cons, not_or]
        exact ⟨fun eq => same eq.symm, unknown⟩
      · exact .inr ⟨presence, shape, List.mem_cons_of_mem _ known, read⟩

/-- The members that some fields know. -/
def knownMembers (fields : List (String × Presence × Shape)) (members : List (String × Json)) :
    List (String × Json) :=
  members.filter fun member => member.1 ∈ fields.map Prod.fst

/-- Each member is kept or left out on its own. -/
theorem knownMembers_append (before later : List (String × Json)) (name : String) (value : Json) :
    knownMembers fields (before ++ (name, value) :: later) = knownMembers fields before ++
      if name ∈ fields.map Prod.fst then (name, value) :: knownMembers fields later
      else knownMembers fields later := by
  -- The filter looks at one member at a time.
  rw [knownMembers, List.filter_append, List.filter_cons]
  simp only [decide_eq_true_eq]
  rfl

/-- What reads the members of an object of named fields. -/
def readFieldMember (fields : List (String × Presence × Shape)) (members : List (String × Json))
    (name : String) (rest : List Char) : Reading (List (String × Json)) :=
  match readField fields name with
  | none =>
    match readColon rest with
    | .error fault => .error fault
    | .ok rest =>
      match skipValue rest with
      | .error fault => .error fault
      | .ok rest => .ok (members, rest)
  | some read =>
    if (members.map Prod.fst).contains name then .error (duplicate name rest)
    else
      match readColon rest with
      | .error fault => .error fault
      | .ok rest =>
        match read rest with
        | .error fault => .error fault
        | .ok (value, rest) => .ok (members ++ [(name, value)], rest)

/-- The object of named fields that members make up, unless one is missing. -/
def recordOf (fields : List (String × Presence × Shape)) :
    Reading (List (String × Json)) → Reading Json
  | .error fault => .error fault
  | .ok (members, rest) =>
    match missing? fields members with
    | some name => .error (.before (.missingField name) rest)
    | none => .ok (.object members, rest)

/-- One more member is read, or passed over where its name is not known. -/
theorem readFieldMember_append {before later : List (String × Json)} {name : String} {value : Json}
    (distinct : ((knownMembers fields members).map Prod.fst).Nodup)
    (reads : ∀ name presence shape value, (name, presence, shape) ∈ fields →
      (name, value) ∈ members → shape.Reads value value)
    (whole : members = before ++ (name, value) :: later) {beforeColon pad piece rest : List Char}
    (colon : IsSpaces beforeColon) (spaces : IsSpaces pad) (laid : LaidOut (.value value) piece)
    (ends : EndsNumber rest) :
    readFieldMember fields (knownMembers fields before) name
        (beforeColon ++ ':' :: (pad ++ (piece ++ rest))) =
      .ok (knownMembers fields (before ++ [(name, value)]), rest) := by
  -- Either no field has the name, or the first one with it reads the value.
  have member : (name, value) ∈ members := by simp [whole]
  rcases readField_cases fields name with ⟨unknown, none_⟩ | ⟨presence, shape, known, read⟩
  · -- The value of an unknown name is passed over, whatever it is.
    rw [readFieldMember, none_, readColon_append colon, knownMembers_append, if_neg unknown]
    dsimp only
    rw [skipValue_append laid spaces ends]
    simp [knownMembers]
  · have known' : name ∈ fields.map Prod.fst := List.mem_map.2 ⟨_, known, rfl⟩
    -- The name has not been given before, since the known ones are distinct.
    have fresh : ¬ ((knownMembers fields before).map Prod.fst).contains name := by
      rw [whole, knownMembers_append, if_pos known', List.map_append, List.nodup_append] at distinct
      rw [List.contains_iff_mem]
      exact fun inside => distinct.2.2 name inside name List.mem_cons_self rfl
    rw [readFieldMember, read, knownMembers_append, if_pos known']
    dsimp only
    rw [if_neg fresh, readColon_append colon]
    dsimp only
    rw [reads name presence shape value known member pad piece rest spaces laid ends]
    rfl

/-- An object is read as the members that its fields know, if they are given once each, none that is
required is missing, and each is read back under the shape of its field. -/
theorem reads_fields (expected : String) (fields : List (String × Presence × Shape))
    (members : List (String × Json))
    (distinct : ((knownMembers fields members).map Prod.fst).Nodup)
    (required : ∀ name shape, (name, .required, shape) ∈ fields → name ∈ members.map Prod.fst)
    (reads : ∀ name presence shape value, (name, presence, shape) ∈ fields →
      (name, value) ∈ members → shape.Reads value value) :
    (Shape.fields expected fields).Reads (.object members)
      (.object (knownMembers fields members)) := by
  -- The members are read in turn, and at the end none of the required ones is missing.
  intro pad piece rest spaces laid _
  have start := skipSpaces_value spaces laid rest
  -- A required field is among the members, and being known it is among those that are kept.
  have complete : missing? fields (knownMembers fields members) = none := by
    rw [missing?, Option.map_eq_none_iff, List.find?_eq_none]
    rintro ⟨name, presence, shape⟩ known absent
    simp only [Bool.and_eq_true, decide_eq_true_eq, Bool.not_eq_true'] at absent
    obtain ⟨rfl, absent⟩ := absent
    obtain ⟨⟨_, value⟩, member, rfl⟩ := List.mem_map.1 (required name shape known)
    refine absurd ?_ (Bool.eq_false_iff.1 absent)
    rw [List.contains_iff_mem]
    refine List.mem_map.2 ⟨(_, value), List.mem_filter.2 ⟨member, ?_⟩, rfl⟩
    exact decide_eq_true (List.mem_map.2 ⟨_, known, rfl⟩)
  cases laid with
  | @object _ body inside =>
    have whole := readMembers_object (readFieldMember fields) (knownMembers fields) inside
      (fun before name value later whole beforeColon pad piece rest =>
        readFieldMember_append distinct reads whole) rest
    have opened : (Shape.fields expected fields).read (pad ++ ('\x7b' :: body ++ rest)) =
        recordOf fields (readMembers (readFieldMember fields) ((body ++ rest).length + 1) true
          (knownMembers fields []) (body ++ rest)) := by
      rw [Shape.read, start]
      rfl
    rw [opened, whole]
    simp [recordOf, complete]

/-- Members that the fields all know are all kept. -/
theorem knownMembers_eq_self (known : ∀ member ∈ members, member.1 ∈ fields.map Prod.fst) :
    knownMembers fields members = members :=
  -- The filter leaves out nothing.
  List.filter_eq_self.2 fun member inside => decide_eq_true (known member inside)

/-- The value of a member whose name no other one has. -/
theorem lookup_of_mem (distinct : (members.map Prod.fst).Nodup) {name : String} {value : Json}
    (member : (name, value) ∈ members) : members.lookup name = some value := by
  -- No member before it has its name, so that the search gets as far.
  obtain ⟨before, later, rfl⟩ := List.append_of_mem member
  refine List.lookup_eq_some_iff.2 ⟨before, later, rfl, fun other inside => ?_⟩
  rw [List.map_append, List.nodup_append] at distinct
  rw [bne_iff_ne]
  exact (distinct.2.2 other.1 (List.mem_map_of_mem inside) name List.mem_cons_self).symm

/-- A name that no member has is given no value. -/
theorem lookup_of_not_mem {name : String} (absent : name ∉ members.map Prod.fst) :
    members.lookup name = none := by
  -- A value that is found belongs to a member of that name.
  refine List.lookup_eq_none_iff.2 fun other inside => ?_
  rw [bne_iff_ne]
  rintro rfl
  exact absent (List.mem_map_of_mem inside)

/-- An object whose names are distinct gives the fields that it has. -/
theorem fields?_object (names : List String) (mayEndEarly : Bool)
    (distinct : (members.map Prod.fst).Nodup) :
    (Json.object members).fields? names mayEndEarly =
      some (names.map fun name => members.lookup name) :=
  -- Names that are distinct are so among the known ones as well.
  if_pos (distinct.filter _)

end Fields

/-- A value is read from a text that holds nothing else but spaces. -/
theorem ofText_eq {shape : Shape} {value read : Json} (reads : shape.Reads value read)
    {text : String} {before piece behind : List Char} (spaces : IsSpaces before)
    (laid : LaidOut (.value value) piece) (more : IsSpaces behind)
    (whole : text.toList = before ++ (piece ++ behind)) : shape.ofText text = .ok read := by
  -- Behind the value nothing but spaces is left, and these end it too.
  have ends : EndsNumber behind := by
    have nothing : EndsNumber [] := nofun
    simpa using endsNumber_spaces more nothing
  have done : skipSpaces behind = [] := by
    have nothing : ∀ c ∈ ([] : List Char).head?, isSpace c = false := nofun
    simpa using skipSpaces_append more nothing
  rw [Shape.ofText, whole, reads before piece behind spaces laid ends]
  simp [done]

end TodoMarkers.Json
