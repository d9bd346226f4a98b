import Mathlib.Data.List.Perm.Basic
import TodoMarkers.Proofs.Json.Shape
import TodoMarkers.Record.Json

/-! A record is read back from its JSON text: compact or indented, with its members in any order,
with others among them, and without those that are null. -/

namespace TodoMarkers

namespace Json

/-- The members of an object. -/
def members : Json → List (String × Json)
  | .object members => members
  | _ => []

/-- Holds of what is given for a value: the value itself, or nothing for null. -/
def Gives (given : Option Json) (value : Json) : Prop :=
  given = some value ∨ given = none ∧ value = .null

end Json

/-- A key is found by its token. -/
theorem Priority.ofToken?_token (key : Priority) : Priority.ofToken? key.token = some key := by
  -- The look-up is tried on every priority.
  cases key <;> decide

/-- A key is found by its token. -/
theorem Kind.ofToken?_token (key : Kind) : Kind.ofToken? key.token = some key := by
  -- The look-up is tried on every kind.
  cases key <;> decide

/-- A key is found by its token. -/
theorem Context.ofToken?_token (key : Context) : Context.ofToken? key.token = some key := by
  -- The look-up is tried on every context.
  cases key <;> decide

namespace MarkerRecord

open Json

section Values

/-- A text is read from what is given for it. -/
theorem text_of_gives {given : Option Json} (text : String) (gives : Gives given (.string text)) :
    given.bind Json.asString? = some text := by
  -- A text is not null, so it cannot have been left out.
  rcases gives with rfl | ⟨_, other⟩
  · rfl
  · contradiction

/-- A key is read from what is given for it, if it is found by its token. -/
theorem key_of_gives {α : Type} {token : α → String} {ofToken : String → Option α}
    {given : Option Json} (key : Option α) (gives : Gives given (keyToJson token key))
    (inverse : ∀ key, ofToken (token key) = some key) : keyOfJson? ofToken given = some key := by
  -- A key that is missing may be null or left out, and a key that is there may be neither.
  cases key with
  | none => rcases gives with rfl | ⟨rfl, _⟩ <;> rfl
  | some key =>
    rcases gives with rfl | ⟨_, other⟩
    · simp [keyOfJson?, keyToJson, Json.ofOption, inverse]
    · contradiction

/-- A name is read from what is given for it. -/
theorem name_of_gives {given : Option Json} (name : Option String)
    (gives : Gives given (.ofOption name)) : nameOfJson? given = some name := by
  -- A name that is missing may be null or left out, and one that is there may be neither.
  cases name with
  | none => rcases gives with rfl | ⟨rfl, _⟩ <;> rfl
  | some name =>
    rcases gives with rfl | ⟨_, other⟩
    · rfl
    · contradiction

/-- A line number is read from what is given for it, if 64 bits hold it. -/
theorem line_of_gives {given : Option Json} (number : Nat) (gives : Gives given (.natural number))
    (small : number < lineCapacity) : lineOfJson? given = some number := by
  -- A number is not null, so it cannot have been left out.
  rcases gives with rfl | ⟨_, other⟩
  · exact if_pos small
  · contradiction

/-- A key is read back as null or its token where it may be left out. -/
theorem reads_key {α : Type} {token : α → String} {all : List α} (complete : ∀ key, key ∈ all)
    (key : Option α) :
    (Shape.optional (.choice (all.map token))).Reads (keyToJson token key)
      (keyToJson token key) := by
  -- A missing key is null, and any other is among the words of the choice.
  cases key with
  | none => exact reads_null _
  | some key => exact reads_optional nofun (reads_choice (List.mem_map_of_mem (complete key)))

/-- A name is read back as null or a text where it may be left out. -/
theorem reads_name (expected : String) (name : Option String) :
    (Shape.optional (.text expected)).Reads (.ofOption name) (.ofOption name) := by
  -- A missing name is null, and any other is a text.
  cases name with
  | none => exact reads_null _
  | some name => exact reads_optional nofun (reads_text expected name)

end Values

/-- The members under names of fields. -/
def fieldMembers (members : List (String × Json)) : List (String × Json) :=
  members.filter fun member => member.1 ∈ fieldNames

/-- Holds of members that restate a record: its own in any order, without some of those that are
null, and others under names of no field. -/
def Restates (members : List (String × Json)) (record : MarkerRecord) : Prop :=
  ∃ dropped, (∀ member ∈ dropped, member.2 = .null) ∧
    (fieldMembers members ++ dropped).Perm record.toJson.members

variable {record : MarkerRecord} {members : List (String × Json)}

/-- The names of a record's members are those of the fields. -/
theorem names_members (record : MarkerRecord) :
    record.toJson.members.map Prod.fst = fieldNames :=
  rfl

/-- A record's own members restate it. -/
theorem restates_members (record : MarkerRecord) : Restates record.toJson.members record := by
  -- Nothing is dropped, since every one of the members is known.
  refine ⟨[], nofun, ?_⟩
  rw [List.append_nil, fieldMembers, List.filter_eq_self.2]
  intro member inside
  rw [← names_members record]
  exact decide_eq_true (List.mem_map_of_mem inside)

/-- No two of the members that are kept or dropped have the same name. -/
theorem nodup_names {kept dropped : List (String × Json)}
    (perm : (kept ++ dropped).Perm record.toJson.members) :
    (kept.map Prod.fst ++ dropped.map Prod.fst).Nodup := by
  -- Together they have the names of the fields, each of which is another one.
  have all : fieldNames.Nodup := by decide
  have names := perm.map Prod.fst
  rw [names_members, List.map_append] at names
  exact names.nodup_iff.2 all

/-- No field is given twice by what restates a record. -/
theorem Restates.distinct (restates : Restates members record) :
    ((fieldMembers members).map Prod.fst).Nodup := by
  -- The kept members and the dropped ones together are those of the record.
  obtain ⟨dropped, _, perm⟩ := restates
  exact (List.nodup_append.1 (nodup_names perm)).1

/-- Every known member of what restates a record is one of the record's own. -/
theorem Restates.own (restates : Restates members record) {name : String} {value : Json}
    (known : name ∈ fieldNames) (member : (name, value) ∈ members) :
    (name, value) ∈ record.toJson.members := by
  -- The member is known, so it is one of those that are kept.
  obtain ⟨dropped, _, perm⟩ := restates
  refine perm.subset (List.mem_append_left _ (List.mem_filter.2 ⟨member, ?_⟩))
  exact decide_eq_true known

/-- What restates a record gives each of its own members. -/
theorem Restates.gives (restates : Restates members record) {name : String} {value : Json}
    (own : (name, value) ∈ record.toJson.members) :
    Gives ((fieldMembers members).lookup name) value := by
  -- The member was kept, and is found under its name, or it was dropped.
  have distinct := restates.distinct
  obtain ⟨dropped, null, perm⟩ := restates
  rcases List.mem_append.1 (perm.symm.subset own) with kept | gone
  · exact .inl (lookup_of_mem distinct kept)
  · -- No kept member has the name of a dropped one.
    have apart := (List.nodup_append.1 (nodup_names perm)).2.2
    refine .inr ⟨lookup_of_not_mem fun inside => ?_, null _ gone⟩
    exact apart name inside name (List.mem_map_of_mem gone) rfl

/-- A member that is not null is given by what restates a record. -/
theorem Restates.mem_names (restates : Restates members record) {name : String} (value : Json)
    (own : (name, value) ∈ record.toJson.members) (some_ : value ≠ .null) :
    name ∈ members.map Prod.fst := by
  -- Only null can have been dropped.
  obtain ⟨dropped, null, perm⟩ := restates
  rcases List.mem_append.1 (perm.symm.subset own) with kept | gone
  · exact List.mem_map_of_mem (List.mem_of_mem_filter kept)
  · exact absurd (null _ gone) some_

/-- A record is read from the known members of what restates it. -/
theorem Restates.ofJson? (restates : Restates members record)
    (small : record.lineNumber < lineCapacity) :
    ofJson? (.object (fieldMembers members)) = some record := by
  -- Each of the nine fields is read from what it is given.
  have gives {name : String} {value : Json} (own : (name, value) ∈ record.toJson.members) :=
    restates.gives own
  have distinct := restates.distinct
  -- The kept members matter only through what they give.
  generalize fieldMembers members = kept at gives distinct ⊢
  simp only [toJson, Json.members, List.mem_cons, Prod.mk.injEq] at gives
  rw [MarkerRecord.ofJson?, fields?_object fieldNames false distinct]
  simp only [fieldNames, List.map_cons, List.map_nil]
  rw [text_of_gives record.rawText (gives (by simp)),
    text_of_gives record.text (gives (by simp)),
    key_of_gives record.priority (gives (by simp)) Priority.ofToken?_token,
    key_of_gives record.kind (gives (by simp)) Kind.ofToken?_token,
    key_of_gives record.context (gives (by simp)) Context.ofToken?_token,
    name_of_gives record.assignee (gives (by simp)),
    name_of_gives record.author (gives (by simp)),
    text_of_gives record.sourcePath (gives (by simp)),
    line_of_gives record.lineNumber (gives (by simp)) small]
  rfl

/-- The members of what restates a record are read under the shape of records. -/
theorem Restates.reads (restates : Restates members record)
    (small : record.lineNumber < lineCapacity) :
    shape.Reads (.object members) (.object (fieldMembers members)) := by
  -- The members are read field by field, and the required ones are there.
  refine reads_fields _ _ _ restates.distinct ?_ ?_
  · -- What a required field holds is never null.
    intro name shape required
    simp only [List.mem_cons, Prod.mk.injEq, reduceCtorEq, false_and, and_false, true_and,
      List.not_mem_nil, or_false, false_or] at required
    obtain ⟨rfl, _⟩ | ⟨rfl, _⟩ | ⟨rfl, _⟩ | ⟨rfl, _⟩ := required
    · exact restates.mem_names (.string record.rawText) (by simp [toJson, Json.members]) nofun
    · exact restates.mem_names (.string record.text) (by simp [toJson, Json.members]) nofun
    · exact restates.mem_names (.string record.sourcePath) (by simp [toJson, Json.members]) nofun
    · exact restates.mem_names (.natural record.lineNumber) (by simp [toJson, Json.members]) nofun
  · intro name presence shape value field member
    have own := restates.own (List.mem_map_of_mem (f := Prod.fst) field) member
    simp only [toJson, Json.members, List.mem_cons, Prod.mk.injEq, List.not_mem_nil,
      or_false] at own field
    obtain ⟨rfl, rfl, rfl⟩ | ⟨rfl, rfl, rfl⟩ | ⟨rfl, rfl, rfl⟩ | ⟨rfl, rfl, rfl⟩ | ⟨rfl, rfl, rfl⟩ |
      ⟨rfl, rfl, rfl⟩ | ⟨rfl, rfl, rfl⟩ | ⟨rfl, rfl, rfl⟩ | ⟨rfl, rfl, rfl⟩ := field
    -- The name of a field tells what the record has under it.
    all_goals
      simp only [String.reduceEq, true_and, false_and, or_false, false_or] at own
      subst own
    · exact reads_text _ _
    · exact reads_text _ _
    · exact reads_key (fun key => by cases key <;> decide) _
    · exact reads_key (fun key => by cases key <;> decide) _
    · exact reads_key (fun key => by cases key <;> decide) _
    · exact reads_name _ _
    · exact reads_name _ _
    · exact reads_text _ _
    · exact reads_count _ small

/-- A record is read from every text of what restates it. -/
theorem Restates.ofText (restates : Restates members record)
    (small : record.lineNumber < lineCapacity) {text : String} {piece : List Char}
    (laid : LaidOut (.value (.object members)) piece) (whole : text.toList = piece) :
    MarkerRecord.ofText text = .ok record := by
  -- The members are read under the shape, and the record from what is kept of them.
  have read := ofText_eq (restates.reads small) isSpaces_nil laid isSpaces_nil
    (by simpa using whole)
  rw [MarkerRecord.ofText, read]
  dsimp only
  rw [restates.ofJson? small]

/-- The members of a record hold no numbers but the line. -/
theorem wellFormed_toJson (record : MarkerRecord) : WellFormed record.toJson := by
  -- Every other value is a text or null.
  have option (text : Option String) : WellFormed (Json.ofOption text) := by
    cases text with
    | none => exact .null
    | some text => exact .string text
  refine .object ?_
  simp only [List.forall_mem_cons]
  exact ⟨.string _, .string _, option _, option _, option _, option _, option _, .string _,
    .natural _, nofun⟩

/-- A line number that is read is one that 64 bits hold. -/
theorem lt_of_lineOfJson? {given : Option Json} {number : Nat}
    (read : lineOfJson? given = some number) : number < lineCapacity := by
  -- A number that is too large is refused.
  unfold lineOfJson? at read
  split at read
  · split at read
    · rename_i small
      obtain rfl := Option.some.inj read
      exact small
    · contradiction
  · contradiction

/-- A record that is read has a line number that 64 bits hold. -/
theorem lineNumber_lt_of_ofJson? {json : Json} (read : MarkerRecord.ofJson? json = some record) :
    record.lineNumber < lineCapacity := by
  -- The line is the last field, and the record has it as it was read.
  unfold MarkerRecord.ofJson? at read
  split at read
  · simp only [Option.bind_eq_bind, Option.bind_eq_some_iff, Option.some.injEq] at read
    obtain ⟨_, _, _, _, _, _, _, _, _, _, _, _, _, _, _, _, number, line, rfl⟩ := read
    exact lt_of_lineOfJson? line
  · contradiction

/-- A record that is read from a text has a line number that 64 bits hold. -/
theorem lineNumber_lt_of_ofText {text : String} (read : MarkerRecord.ofText text = .ok record) :
    record.lineNumber < lineCapacity := by
  -- The text has been read under the shape, and the record from the outcome.
  unfold MarkerRecord.ofText at read
  split at read
  · contradiction
  · split at read
    · rename_i found
      obtain rfl := Except.ok.inj read
      exact lineNumber_lt_of_ofJson? found
    · contradiction

/-- A record is read back from its compact and its indented text, also with the members in any
order, with others among them and without some that are null; and what is read from any text is read
back from the texts of its record. -/
theorem ofText_restated :
    (∀ record : MarkerRecord, record.lineNumber < lineCapacity →
      MarkerRecord.ofText record.toJson.compact = .ok record ∧
        MarkerRecord.ofText record.toJson.pretty = .ok record ∧
        ∀ members, Restates members record → WellFormed (.object members) →
          MarkerRecord.ofText (Json.object members).compact = .ok record ∧
            MarkerRecord.ofText (Json.object members).pretty = .ok record) ∧
      ∀ text record, MarkerRecord.ofText text = .ok record →
        MarkerRecord.ofText record.toJson.compact = .ok record ∧
          MarkerRecord.ofText record.toJson.pretty = .ok record := by
  -- A record restates itself, so its own texts are a case of the others.
  have texts (record : MarkerRecord) (small : record.lineNumber < lineCapacity)
      (members : List (String × Json)) (restates : Restates members record)
      (wellFormed : WellFormed (.object members)) :
      MarkerRecord.ofText (Json.object members).compact = .ok record ∧
        MarkerRecord.ofText (Json.object members).pretty = .ok record :=
    ⟨restates.ofText small (laidOut_compact wellFormed) String.toList_ofList,
      restates.ofText small (laidOut_pretty wellFormed 0) String.toList_ofList⟩
  have own (record : MarkerRecord) (small : record.lineNumber < lineCapacity) :=
    texts record small _ (restates_members record) (wellFormed_toJson record)
  exact ⟨fun record small => ⟨(own record small).1, (own record small).2, texts record small⟩,
    fun text record read => own record (lineNumber_lt_of_ofText read)⟩

/-- The members of a record in reverse, with an unknown one among them and without its kind. -/
theorem ofText_restated_reversed :
    let record : MarkerRecord :=
  -- The members are the record's in another order, but for one that is null and one that is
  -- unknown.
      { text := "[high] \"why\" @Ana", rawText := "\"why\"", priority := some .high,
        kind := none, context := none, assignee := some "Ana", author := none,
        sourcePath := "src/a.b", lineNumber := 7 }
    let members : List (String × Json) :=
      [("lineNumber", .natural 7), ("sourcePath", .string "src/a.b"), ("author", .null),
       ("since", .array [.null, .decimal "-1.5e+3", .object [("text", .bool true)]]),
       ("assignee", .string "Ana"), ("contextKey", .null), ("priorityKey", .string "[high]"),
       ("text", .string "[high] \"why\" @Ana"), ("rawText", .string "\"why\"")]
    record.lineNumber < lineCapacity ∧ Restates members record ∧ WellFormed (.object members) ∧
      MarkerRecord.ofText (Json.object members).compact = .ok record ∧
      MarkerRecord.ofText record.toJson.pretty = .ok record := by
  intro record members
  have small : record.lineNumber < lineCapacity := by decide
  -- In order and without the kind, the members are the record's first three and last five.
  have restates : Restates members record := by
    refine ⟨[("typeKey", .null)], by simp, ?_⟩
    have reversed := (List.reverse_perm
      (record.toJson.members.take 3 ++ record.toJson.members.drop 4)).append_right
        [("typeKey", .null)]
    have swapped : (record.toJson.members.drop 4 ++ [("typeKey", Json.null)]).Perm
        ([("typeKey", Json.null)] ++ record.toJson.members.drop 4) := List.perm_append_comm
    have between := swapped.append_left (record.toJson.members.take 3)
    rw [← List.append_assoc] at between
    exact reversed.trans between
  have wellFormed : WellFormed (.object members) := by
    have number : IsNumber "-1.5e+3".toList :=
      ⟨['-'], ['1'], ['.', '5'], ['e', '+', '3'], .inr rfl, by simp [IsWhole, IsDigits],
        .inr ⟨['5'], by simp [IsDigits], rfl⟩,
        .inr ⟨'e', ['+'], ['3'], .inl rfl, .inr (.inl rfl), by simp [IsDigits], rfl⟩, rfl⟩
    refine .object ?_
    simp only [members, List.forall_mem_cons]
    refine ⟨.natural _, .string _, .null, .array ?_, .string _, .null, .string _, .string _,
      .string _, nofun⟩
    simp only [List.forall_mem_cons]
    exact ⟨.null, .decimal number, .object (by simpa using WellFormed.bool true), nofun⟩
  have read := (ofText_restated.1 record small).2.2 members restates wellFormed
  have compact := (ofText_restated.1 record small).1
  exact ⟨small, restates, wellFormed, read.1, (ofText_restated.2 _ record compact).2⟩

end MarkerRecord

end TodoMarkers
