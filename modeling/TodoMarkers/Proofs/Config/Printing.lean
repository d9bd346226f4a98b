import TodoMarkers.CommandLine.Run
import TodoMarkers.Config.Basic
import TodoMarkers.Proofs.Json.Shape
import TodoMarkers.Proofs.Text.Utf8

/-! A configuration is read back from its JSON text, compact or indented; what the command for it
prints may be saved as the file that it is loaded from. -/

namespace TodoMarkers

open Json

namespace GlyphTable

/-- Tables with the same entries are the same. -/
theorem ext {first second : GlyphTable} (same : first.entries = second.entries) :
    first = second := by
  -- The entries are the one field that is data.
  cases first
  cases second
  cases same
  rfl

/-- A slug that is not in a list of entries is put behind them. -/
theorem insertEntry_of_fresh {slug : String} (glyph : String) {entries : List (String × String)}
    (fresh : slug ∉ entries.map Prod.fst) :
    insertEntry slug glyph entries = entries ++ [(slug, glyph)] := by
  -- Induction on the entries: none of them is the one to replace, so the walk reaches the end.
  induction entries with
  | nil => rfl
  | cons entry entries ih =>
    rw [List.map_cons, List.mem_cons, not_or] at fresh
    rw [insertEntry, if_neg (Ne.symm fresh.1), ih fresh.2, List.cons_append]

/-- Entries with new slugs are put behind those of a table, by induction on them. -/
theorem entries_foldl_insert (table : GlyphTable) (entries : List (String × String))
    (distinct : ((table.entries ++ entries).map Prod.fst).Nodup) :
    (entries.foldl (fun table entry => table.insert entry.1 entry.2) table).entries =
      table.entries ++ entries := by
  -- The first entry is new, so that it ends up between the table and the others.
  induction entries generalizing table with
  | nil => simp
  | cons entry entries ih =>
    have fresh : entry.1 ∉ table.entries.map Prod.fst := by
      rw [List.map_append, List.nodup_append] at distinct
      exact fun inside => distinct.2.2 entry.1 inside entry.1 List.mem_cons_self rfl
    have inserted : (table.insert entry.1 entry.2).entries = table.entries ++ [entry] :=
      insertEntry_of_fresh entry.2 fresh
    rw [List.foldl_cons, ih _ (by rw [inserted]; simpa using distinct), inserted]
    simp

/-- A table is made from its own entries. -/
theorem ofEntries_entries (table : GlyphTable) : ofEntries table.entries = table := by
  -- The slugs of a table are distinct, so each entry is put behind those before it.
  have whole := entries_foldl_insert .empty table.entries table.distinct
  exact ext (by simpa [ofEntries, empty] using whole)

/-- A table without entries is the empty one. -/
theorem eq_empty {table : GlyphTable} (isEmpty : table.isEmpty = true) : table = .empty :=
  -- A table is determined by its entries, and here there are none.
  ext (List.isEmpty_iff.1 isEmpty)

/-- A table is read back from its object. -/
theorem ofJson?_toJson (table : GlyphTable) : ofJson? table.toJson = some table := by
  -- Every member is a string, so reading the members one by one gives the entries back.
  have read (entries : List (String × String)) :
      (entries.map fun entry => (entry.1, Json.string entry.2)).mapM
        (fun member => member.2.asString?.map fun glyph => (member.1, glyph)) = some entries := by
    induction entries with
    | nil => rfl
    | cons entry entries ih =>
      rw [List.map_cons, List.mapM_cons, ih]
      rfl
  rw [toJson, ofJson?, read, Option.map_some, ofEntries_entries]

/-- An object of strings is read under the shape of tables. -/
theorem reads_toJson (table : GlyphTable) : Shape.table.Reads table.toJson table.toJson := by
  -- The shape asks of each member that it is a string.
  refine reads_table fun member inside => ?_
  obtain ⟨entry, _, rfl⟩ := List.mem_map.1 inside
  exact ⟨entry.2, rfl⟩

end GlyphTable

namespace Category

/-- Every category is among all of them. -/
theorem mem_all (category : Category) : category ∈ Category.all := by
  -- There are four categories, and each is looked up.
  cases category <;> decide

/-- No two categories have the same word. -/
theorem word_injective {first second : Category} (same : first.word = second.word) :
    first = second := by
  -- The four words are compared pairwise.
  revert same
  cases first <;> cases second <;> decide

end Category

namespace GlyphOverrides

/-- The categories whose tables are written. -/
def written (overrides : GlyphOverrides) : List Category :=
  Category.all.filter fun category => !(overrides.table category).isEmpty

/-- The members as which overrides are written. -/
def members (overrides : GlyphOverrides) : List (String × Json) :=
  overrides.written.map fun category => (category.word, (overrides.table category).toJson)

/-- Overrides are written as one member for each table that is not empty. -/
theorem toJson_eq (overrides : GlyphOverrides) : overrides.toJson = .object overrides.members := by
  -- A member without a value is left out on both sides.
  -- Leaving out an empty table is the same as not asking for it.
  have general (categories : List Category) :
      (categories.flatMap fun category => (overrides.table category).member category.word) =
        (categories.filter fun category => !(overrides.table category).isEmpty).map
          fun category => (category.word, (overrides.table category).toJson) := by
    induction categories with
    | nil => rfl
    | cons category categories ih =>
      rw [List.flatMap_cons, ih, List.filter_cons, GlyphTable.member]
      cases (overrides.table category).isEmpty <;> rfl
  rw [toJson, general, members, written]

/-- The names of the written members are the words of their categories. -/
theorem names_members (overrides : GlyphOverrides) :
    overrides.members.map Prod.fst = overrides.written.map Category.word := by
  -- Each written category gives one member under its own word.
  simp [members, Function.comp_def]

/-- No two tables are written under the same word. -/
theorem nodup_names (overrides : GlyphOverrides) : (overrides.members.map Prod.fst).Nodup := by
  -- The written words are a sublist of the four, which are distinct.
  have all : (Category.all.map Category.word).Nodup := by decide
  rw [names_members]
  exact all.sublist (List.filter_sublist.map _)

/-- What a field of overrides is read as. -/
def tableOfField? (given : Option Json) : Option GlyphTable :=
  match given with
  | some json => GlyphTable.ofJson? json
  | none => some .empty

/-- Overrides whose tables have all been read. -/
def ofTables? (tables : Category → Option GlyphTable) : Option GlyphOverrides :=
  match tables .priority, tables .kind, tables .context, tables .metadata with
  | some priority, some kind, some context, some metadata =>
    some { priority, kind, context, metadata }
  | _, _, _, _ => none

/-- Overrides are read from the tables of their fields. -/
theorem ofJson?_object {members : List (String × Json)}
    (distinct : (members.map Prod.fst).Nodup) {overrides : GlyphOverrides}
    (tables : ∀ category : Category,
      tableOfField? (members.lookup category.word) = some (overrides.table category)) :
    ofJson? (.object members) = some overrides := by
  -- With distinct names every field is looked up by its own name, and each look-up is given.
  have opened : ofJson? (.object members) =
      ofTables? fun category => tableOfField? (members.lookup category.word) := by
    rw [ofJson?, fields?_object _ _ distinct]
    rfl
  rw [opened, funext tables]
  rfl

/-- Overrides are read back from their object. -/
theorem ofJson?_toJson (overrides : GlyphOverrides) :
    ofJson? overrides.toJson = some overrides := by
  -- Each category is either written, and found under its word, or left out because it is empty.
  rw [toJson_eq]
  refine ofJson?_object overrides.nodup_names fun category => ?_
  by_cases isEmpty : (overrides.table category).isEmpty = true
  · -- A table that is not written is the empty one, which stands in for it.
    rw [lookup_of_not_mem, tableOfField?, GlyphTable.eq_empty isEmpty]
    rw [names_members, List.mem_map]
    rintro ⟨other, isWritten, same⟩
    obtain rfl := Category.word_injective same
    simp [written, isEmpty] at isWritten
  · have isWritten : category ∈ overrides.written :=
      List.mem_filter.2 ⟨Category.mem_all category, by simpa using isEmpty⟩
    rw [lookup_of_mem overrides.nodup_names (List.mem_map_of_mem isWritten), tableOfField?,
      GlyphTable.ofJson?_toJson]

/-- Overrides are read under their shape. -/
theorem reads_toJson (overrides : GlyphOverrides) :
    shape.Reads overrides.toJson overrides.toJson := by
  -- The members are known fields, and each is read under the shape of its field.
  -- Only words of categories are written, so that no member is passed over.
  have known : ∀ member ∈ overrides.members,
      member.1 ∈ (Category.all.map fun category =>
        (category.word, Presence.defaulted, Shape.table)).map Prod.fst := by
    intro member inside
    obtain ⟨category, _, rfl⟩ := List.mem_map.1 inside
    simpa using ⟨category, Category.mem_all category, rfl⟩
  have reads := reads_fields "struct EmojiOverrides"
    (Category.all.map fun category => (category.word, Presence.defaulted, Shape.table))
    overrides.members
  rw [knownMembers_eq_self known] at reads
  rw [toJson_eq]
  refine reads overrides.nodup_names (by simp) fun name presence shape value field member => ?_
  obtain ⟨_, _, same⟩ := List.mem_map.1 field
  obtain ⟨category, _, member⟩ := List.mem_map.1 member
  obtain rfl : Shape.table = shape := (Prod.mk.inj (Prod.mk.inj same).2).2
  obtain rfl : (overrides.table category).toJson = value := (Prod.mk.inj member).2
  exact (overrides.table category).reads_toJson

/-- Overrides hold no numbers. -/
theorem wellFormed_toJson (overrides : GlyphOverrides) : WellFormed overrides.toJson := by
  -- The tables hold strings alone, so no number's spelling is in question.
  rw [toJson_eq]
  refine .object fun member inside => ?_
  obtain ⟨category, _, rfl⟩ := List.mem_map.1 inside
  refine .object fun entry inside => ?_
  obtain ⟨glyph, _, rfl⟩ := List.mem_map.1 inside
  exact .string glyph.2

/-- Overrides without any table are the ones of nothing. -/
theorem eq_default {overrides : GlyphOverrides} (isEmpty : overrides.isEmpty = true) :
    overrides = {} := by
  -- Each of the four tables is the empty one.
  have tables : ∀ category ∈ Category.all, (overrides.table category).isEmpty = true :=
    List.all_eq_true.1 isEmpty
  have priority := GlyphTable.eq_empty (tables .priority (Category.mem_all _))
  have kind := GlyphTable.eq_empty (tables .kind (Category.mem_all _))
  have context := GlyphTable.eq_empty (tables .context (Category.mem_all _))
  have metadata := GlyphTable.eq_empty (tables .metadata (Category.mem_all _))
  cases overrides
  cases priority
  cases kind
  cases context
  cases metadata
  rfl

end GlyphOverrides

namespace DisplayMode

/-- A display mode is read back from its word. -/
theorem parse_word (mode : DisplayMode) : parse mode.word = .ok mode := by
  -- Every word is among those that are recognised.
  cases mode <;> rfl

end DisplayMode

namespace Config

/-- The members as which a configuration is written. -/
def members (config : Config) : List (String × Json) :=
  ("displayMode", .string config.displayMode.word) ::
    ((config.ticketBaseUrl.map fun url => ("ticketBaseUrl", Json.string url)).toList ++
      if config.glyphs.isEmpty then [] else [("emojis", config.glyphs.toJson)])

/-- A configuration is written as the object of its members. -/
theorem toJson_eq (config : Config) : config.toJson = .object config.members := by
  rw [toJson, members]
  cases config.ticketBaseUrl <;> rfl

/-- The members of a configuration are among its fields, in their order. -/
theorem names_members (config : Config) : (config.members.map Prod.fst).Sublist fieldNames := by
  -- The address and the overrides may be left out, which makes four lists of names.
  rw [members]
  cases config.ticketBaseUrl <;> cases config.glyphs.isEmpty
  · exact (by decide : ["displayMode", "emojis"].Sublist fieldNames)
  · exact (by decide : ["displayMode"].Sublist fieldNames)
  · exact (by decide : fieldNames.Sublist fieldNames)
  · exact (by decide : ["displayMode", "ticketBaseUrl"].Sublist fieldNames)

/-- No member is written twice. -/
theorem nodup_names (config : Config) : (config.members.map Prod.fst).Nodup :=
  -- A sublist of distinct names has distinct names.
  List.Nodup.sublist config.names_members (by decide)

/-- The first two members are texts, and the third one is the object of the overrides. -/
theorem mem_members {config : Config} {name : String} {value : Json}
    (member : (name, value) ∈ config.members) :
    name = "emojis" ∧ value = config.glyphs.toJson ∨
      (name = "displayMode" ∨ name = "ticketBaseUrl") ∧ ∃ text, value = .string text := by
  -- The members are listed in the order in which they are written.
  rw [members, List.mem_cons, List.mem_append, Option.mem_toList, Option.map_eq_some_iff] at member
  rcases member with mode | ⟨url, _, address⟩ | glyphs
  · obtain ⟨rfl, rfl⟩ := Prod.mk.inj mode
    exact .inr ⟨.inl rfl, _, rfl⟩
  · obtain ⟨rfl, rfl⟩ := Prod.mk.inj address
    exact .inr ⟨.inr rfl, _, rfl⟩
  · split at glyphs
    · contradiction
    · obtain ⟨rfl, rfl⟩ := Prod.mk.inj (List.mem_singleton.1 glyphs)
      exact .inl ⟨rfl, rfl⟩

/-- A configuration is read back from its object. -/
theorem ofJson?_toJson (config : Config) : ofJson? config.toJson = some config := by
  -- The three fields are looked up by name, and each is read back on its own.
  rw [toJson_eq, ofJson?, fields?_object _ _ config.nodup_names]
  -- An address or overrides that are not written are the defaults.
  rcases config with ⟨mode, url, glyphs⟩
  have word : modeOfField? (some (.string mode.word)) = some mode := by
    simp [modeOfField?, asOption?, DisplayMode.parse_word, Except.toOption]
  have table := glyphs.ofJson?_toJson
  cases isEmpty : glyphs.isEmpty with
  | true =>
    obtain rfl := GlyphOverrides.eq_default isEmpty
    cases url <;> simp [members, fieldNames, isEmpty, List.lookup_cons, word, asOption?]
  | false =>
    cases url <;> simp [members, fieldNames, isEmpty, List.lookup_cons, word, asOption?, table]

/-- A configuration is read under its shape. -/
theorem reads_toJson (config : Config) : shape.Reads config.toJson config.toJson := by
  have known : ∀ member ∈ config.members, member.1 ∈ fieldNames := fun member inside =>
    config.names_members.subset (List.mem_map_of_mem inside)
  have reads := reads_fields "struct Config"
    [("displayMode", .defaulted, .optional (.text "a string")),
     ("ticketBaseUrl", .defaulted, .optional (.text "a string")),
     ("emojis", .defaulted, GlyphOverrides.shape)] config.members
  rw [knownMembers_eq_self known] at reads
  rw [toJson_eq]
  refine reads config.nodup_names (by simp) fun name presence shape value field member => ?_
  simp only [List.mem_cons, Prod.mk.injEq, List.not_mem_nil, or_false] at field
  rcases mem_members member with ⟨rfl, rfl⟩ | ⟨texts, text, rfl⟩
  · obtain ⟨_, rfl⟩ : presence = .defaulted ∧ shape = GlyphOverrides.shape := by simpa using field
    exact config.glyphs.reads_toJson
  · obtain ⟨_, rfl⟩ : presence = .defaulted ∧ shape = .optional (.text "a string") := by
      rcases texts with rfl | rfl <;> simpa using field
    exact reads_optional nofun (reads_text _ text)

/-- A configuration holds no numbers. -/
theorem wellFormed_toJson (config : Config) : WellFormed config.toJson := by
  -- A member is a text or the object of the overrides, and neither holds a number.
  rw [toJson_eq]
  refine .object fun member inside => ?_
  rcases mem_members inside with ⟨_, glyphs⟩ | ⟨_, text, string⟩
  · rw [glyphs]
    exact config.glyphs.wellFormed_toJson
  · rw [string]
    exact .string text

/-- A configuration is read from every text of its object, with spaces behind it. -/
theorem ofText_of_laidOut {config : Config} {text : String} {piece behind : List Char}
    (laid : LaidOut (.value config.toJson) piece) (spaces : IsSpaces behind)
    (whole : text.toList = piece ++ behind) : ofText text = .ok config := by
  -- The shape accepts the object, and the object is then read field by field.
  have read := ofText_eq config.reads_toJson isSpaces_nil laid spaces (by simpa using whole)
  rw [ofText, read]
  dsimp only
  rw [ofJson?_toJson]

/-- A configuration is read back from its compact text. -/
theorem ofText_compact (config : Config) : ofText config.toJson.compact = .ok config :=
  -- The compact text lays the object out with nothing behind it.
  ofText_of_laidOut (laidOut_compact config.wellFormed_toJson) isSpaces_nil
    (by rw [compact, String.toList_ofList, List.append_nil])

/-- A configuration is read back from its indented text. -/
theorem ofText_pretty (config : Config) : ofText config.toJson.pretty = .ok config :=
  -- The indented text is another layout of the same object.
  ofText_of_laidOut (laidOut_pretty config.wellFormed_toJson 0) isSpaces_nil
    (by rw [pretty, String.toList_ofList, List.append_nil])

end Config

namespace CommandLine

/-- What the command for the configuration prints on a host whose configuration is known. -/
theorem run_config {host : Host} {arguments : List String} {invocation : Invocation}
    {config : Config} (parsed : Invocation.parse arguments = .ok invocation)
    (asked : invocation.command = .config) (loaded : loadConfig host invocation.root = .ok config) :
    run host arguments = { exitCode := 0, output := line config.toJson.pretty } := by
  -- Nothing else that the host holds is read by this command.
  rw [run, parsed]
  simp only [Invocation.run, asked, runConfig, loaded]
  rfl

/-- A host whose file holds the line of a configuration's indented text, and whose variables do not
override it, has that configuration. -/
theorem loadConfig_of_printed {host : Host} {root : Path} {config : Config}
    (mode : host.environment.displayMode = none) (url : host.environment.ticketBaseUrl = none)
    (saved : host.read (ConfigStore.ofEnvironment root host.environment).path =
      .ok (line config.toJson.pretty).toUTF8.toList) :
    loadConfig host root = .ok config := by
  -- The end of the line counts as a space behind the text.
  have spaces : IsSpaces ['\n'] := List.forall_mem_singleton.2 rfl
  have read : Config.ofText (line config.toJson.pretty) = .ok config :=
    Config.ofText_of_laidOut (laidOut_pretty config.wellFormed_toJson 0) spaces (by
      rw [line, String.toList_append, pretty, String.toList_ofList]
      rfl)
  have uncached : (ConfigStore.ofEnvironment root host.environment).cached = none := by
    rw [ConfigStore.ofEnvironment]
    split <;> rfl
  have file (store : ConfigStore) :
      store.fromFile (.ok (line config.toJson.pretty).toUTF8.toList) = config := by
    rw [ConfigStore.fromFile, Config.load, Text.exactText?_toUTF8]
    dsimp only
    rw [read]
  have applied : config.applyEnvironment host.environment = .ok config := by
    simp [Config.applyEnvironment, mode, url]
  -- A store that has just been opened has to load.
  rw [loadConfig, Host.getConfig, ConfigStore.get, uncached, saved]
  dsimp only
  rw [file, applied]

end CommandLine

/-- A configuration survives printing and reading: every one is read back from its compact and its
indented text, what was read from any text is read back from the texts of its configuration, and a
file with what the command prints gives the same effective configuration where no variable overrides
it. -/
theorem Config.survives_printing :
    (∀ config : Config, Config.ofText config.toJson.compact = .ok config ∧
      Config.ofText config.toJson.pretty = .ok config) ∧
    (∀ text config, Config.ofText text = .ok config →
      Config.ofText config.toJson.compact = .ok config ∧
        Config.ofText config.toJson.pretty = .ok config) ∧
    ∀ host arguments invocation config,
      CommandLine.Invocation.parse arguments = .ok invocation → invocation.command = .config →
      CommandLine.loadConfig host invocation.root = .ok config →
      (CommandLine.run host arguments).exitCode = 0 ∧
        ∀ later root, later.environment.displayMode = none →
          later.environment.ticketBaseUrl = none →
          later.read (ConfigStore.ofEnvironment root later.environment).path =
            .ok (CommandLine.run host arguments).output.toUTF8.toList →
          CommandLine.loadConfig later root = .ok config := by
  -- A configuration is read back from each of its texts, whatever it was made from.
  have texts (config : Config) := And.intro config.ofText_compact config.ofText_pretty
  refine ⟨texts, fun text config _ => texts config, ?_⟩
  intro host arguments invocation config parsed asked loaded
  rw [CommandLine.run_config parsed asked loaded]
  exact ⟨rfl, fun later root mode url saved => CommandLine.loadConfig_of_printed mode url saved⟩

/-- A configuration with a table and a mode that a variable sets, saved in another workspace. -/
theorem Config.survives_printing_overridden :
    let file : Node :=
  -- The saved output is the file of the second host, and the law says what is loaded from it.
      .file ("\x7b\"emojis\":\x7b\"type\":\x7b\"bug\":\"\\u0042\",\"\":\"\"\x7d\x7d," ++
        "\"more\":[1]\x7d").toUTF8.toList
    let host := Host.ofDisk ⟨[("a", .directory [("todonukem.json", file)])]⟩
      { displayMode := some " TEXT\n" } none
    let arguments := ["-r", "a", "config"]
    let saved : Node := .file (CommandLine.run host arguments).output.toUTF8.toList
    let later := Host.ofDisk ⟨[("b", .directory [("todonukem.json", saved)])]⟩ {} none
    let config : Config :=
      { displayMode := .text, glyphs := { kind := .ofEntries [("bug", "B"), ("", "")] } }
    CommandLine.Invocation.parse arguments = .ok ⟨"a", .config⟩ ∧
      CommandLine.loadConfig host "a" = .ok config ∧
      CommandLine.loadConfig later "b" = .ok config := by
  intro file host arguments saved later config
  have parsed : CommandLine.Invocation.parse arguments = .ok ⟨"a", .config⟩ := by decide +kernel
  have loaded : CommandLine.loadConfig host "a" = .ok config := by
    have found : (CommandLine.loadConfig host "a").toOption = some config := by decide +kernel
    cases read : CommandLine.loadConfig host "a" with
    | ok _ => rw [read] at found; exact congrArg _ (Option.some.inj found)
    | error _ => rw [read] at found; contradiction
  obtain ⟨_, survives⟩ := Config.survives_printing.2.2 host arguments _ config parsed rfl loaded
  have read : later.read (ConfigStore.ofEnvironment "b" later.environment).path =
      .ok (CommandLine.run host arguments).output.toUTF8.toList := by
    decide +kernel
  exact ⟨parsed, loaded, survives later "b" rfl rfl read⟩

end TodoMarkers
