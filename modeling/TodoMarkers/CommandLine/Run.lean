import TodoMarkers.CommandLine.Invocation
import TodoMarkers.Decoration
import TodoMarkers.Host
import TodoMarkers.Index.Basic
import TodoMarkers.Insertion
import TodoMarkers.Position
import TodoMarkers.Record.Json
import TodoMarkers.Ticket

/-! What the commands print. -/

namespace TodoMarkers.CommandLine

/-- Why a command failed. -/
inductive Failure where
  /-- A filter names no key. -/
  | filter (value : String) (error : UnknownKey)
  /-- There is no configuration. -/
  | config (error : ConfigError)
  /-- A file could not be read. -/
  | document (path : Path) (error : FileError)
  /-- A block names no key. -/
  | block (written : String) (error : UnknownKey)
  /-- A block lacks its value. -/
  | blockValue (key : Metadata)

/-- What went wrong in general, and its cause where there is one. -/
def Failure.sentences : Failure → String × Option String
  | .filter value error => ("Invalid filter value '" ++ value ++ "'", some error.message)
  | .config error => ("Failed to load configuration", some error.message)
  | .document path error => ("Failed to read " ++ path, some error.message)
  | .block written error => ("Invalid meta block '" ++ written ++ "'", some error.message)
  | .blockValue key => ("Meta block '" ++ key.slug ++ "' needs a value (KEY=VALUE)", none)

/-- A text with four spaces before each of its lines. -/
def indented (text : String) : String :=
  "\n".intercalate ((Text.lines text.toList).map fun line => "    " ++ String.ofList line)

/-- The report of a failure. -/
def Failure.message (failure : Failure) : String :=
  let (sentence, cause) := failure.sentences
  match cause with
  | some cause => "Error: " ++ sentence ++ "\n\nCaused by:\n" ++ indented cause ++ "\n"
  | none => "Error: " ++ sentence ++ "\n"

/-- How a run ends. -/
structure Report where
  /-- The exit code. -/
  exitCode : Nat
  /-- What is printed. -/
  output : String := ""
  /-- What is reported as an error. -/
  error : Option String := none
  deriving DecidableEq, Repr

/-- The report of a command that succeeds, with what it prints, or fails. -/
def Report.ofResult : Except Failure String → Report
  | .ok output => { exitCode := 0, output }
  | .error failure => { exitCode := 1, error := some failure.message }

/-- The line that the version option prints. -/
def versionLine : String :=
  "todonukem 0.1.0\n"

/-- The report of arguments that stop before a command. -/
def Report.ofStop : Stop → Report
  | .misuse => { exitCode := 2 }
  | .help => { exitCode := 0 }
  | .version => { exitCode := 0, output := versionLine }

/-- A text and the end of its line. -/
def line (text : String) : String :=
  text ++ "\n"

/-- The word for a filter that asks for nothing. -/
def anyWord : String :=
  "all"

/-- Reads a filter on a slot. -/
def parseFilter {α : Type} (parse : String → Except UnknownKey α) (value : String) :
    Except Failure (Option α) :=
  if (Text.trim value.toList).map Char.toLower = anyWord.toList then .ok none
  else
    match parse value with
    | .ok key => .ok (some key)
    | .error error => .error (.filter value error)

/-- The filter of a listing. -/
def ListRequest.filter (request : ListRequest) : Except Failure MarkerFilter := do
  let priority ← parseFilter Priority.parse request.priority
  let kind ← parseFilter Kind.parse request.kind
  let context ← parseFilter Context.parse request.context
  let keys : MarkerFilter := { priority, kind, context }
  .ok ((keys.withAssignee request.assignee).withAuthor request.author)

/-- The options of a listing. -/
def ListRequest.options (request : ListRequest) (root : Path) : ScanOptions :=
  let options := (ScanOptions.ofRoots [root]).ignoring request.ignored
  -- Endings replace the standard ones, while ignored names are added to them.
  if request.extensions.isEmpty then options else options.withExtensions request.extensions

/-- The configuration of a workspace. -/
def loadConfig (host : Host) (root : Path) : Except Failure Config :=
  match (host.getConfig (ConfigStore.ofEnvironment root host.environment)).1 with
  | .ok config => .ok config
  | .error error => .error (.config error)

/-- One record as a listing shows it: its keys, its message or else its text, and its location. -/
def listLine (vocabulary : Vocabulary) (mode : DisplayMode) (record : MarkerRecord) : String :=
  let keys := [record.priority.map Key.priority, record.kind.map Key.kind,
    record.context.map Key.context].filterMap id
  let shown := " ".intercalate (keys.map (vocabulary.display mode))
  -- A marker of tokens alone has no message, and shows its text.
  let message := if record.rawText = "" then record.text else record.rawText
  (if shown = "" then "" else shown ++ " ") ++ message ++ "  (" ++ record.location ++ ")"

/-- Lists the markers of a workspace. -/
def runList (host : Host) (root : Path) (request : ListRequest) : Except Failure String := do
  let filter ← request.filter
  let config ← loadConfig host root
  let vocabulary := config.vocabulary
  let records := listWorkspace host.workspace (Grammar.ofVocabulary vocabulary)
    (request.options root) filter
  if request.json then
    .ok (line (Json.array (records.map MarkerRecord.toJson)).pretty)
  else if records.isEmpty then .ok (line "No TODOs found.")
  else
    .ok (String.join (records.map fun record =>
      line (listLine vocabulary config.displayMode record)))

/-- The text of a file, decoded as far as possible. -/
def readDocument (host : Host) (path : Path) : Except Failure String :=
  match host.read path with
  | .ok bytes => .ok (Text.lossyText bytes)
  | .error error => .error (.document path error)

/-- A position as an object with sorted names. -/
def positionJson (position : Position) : Json :=
  .object [("character", .natural position.character), ("line", .natural position.line)]

/-- The decorations of a file, with sorted names. -/
def decorationsJson (index : TextIndex) (decorations : Decorations) : Json :=
  let range (instruction : Instruction) : Json :=
    .object
      [("end", positionJson (index.position instruction.stop)),
       ("endUtf16", positionJson (index.utf16Position instruction.stop)),
       ("glyph", .string instruction.glyph),
       ("rangeEnd", .natural instruction.stop),
       ("rangeStart", .natural instruction.start),
       ("start", positionJson (index.position instruction.start)),
       ("startUtf16", positionJson (index.utf16Position instruction.start))]
  let group (group : KeyDecorations) : Json :=
    .object
      [("display", .string group.display),
       ("ranges", .array (group.instructions.map range)),
       ("vocabularyKey", .string group.key.token)]
  .array ((decorations.groups.filter fun group => !group.instructions.isEmpty).map group)

/-- Prints the decorations of a file. -/
def runDecorate (host : Host) (root file : Path) (mode : Option DisplayMode) :
    Except Failure String := do
  let config ← loadConfig host root
  let text ← readDocument host file
  -- A mode on the command line goes before that of the configuration.
  let decorator := Decorator.ofVocabulary config.vocabulary (mode.getD config.displayMode)
  let chars := text.toList
  .ok (line (decorationsJson (.ofText chars) (decorator.update chars)).pretty)

/-- The ticket links of a file, with sorted names. -/
def linksJson (index : TextIndex) (links : List TicketLink) : Json :=
  .array (links.map fun link =>
    .object
      [("end", positionJson (index.position link.stop)),
       ("endUtf16", positionJson (index.utf16Position link.stop)),
       ("start", positionJson (index.position link.start)),
       ("startUtf16", positionJson (index.utf16Position link.start)),
       ("ticketId", .string link.ticketId),
       ("tooltip", .string link.tooltip),
       ("url", .string link.url)])

/-- Prints the ticket links of a file. -/
def runLinks (host : Host) (root file : Path) : Except Failure String := do
  let config ← loadConfig host root
  let text ← readDocument host file
  let chars := text.toList
  .ok (line (linksJson (.ofText chars) (Ticket.links chars config.ticketBaseUrl)).pretty)

/-- Reads a block that is written as a key, or as a key, an equals sign and a value. -/
def parseBlock (written : String) : Except Failure MetadataBlock :=
  let key := String.ofList (written.toList.takeWhile (· != '='))
  let value := String.ofList ((written.toList.dropWhile (· != '=')).drop 1)
  match Metadata.parse key with
  | .error error => .error (.block written error)
  | .ok key =>
    if key.takesValue && (Text.trim value.toList).isEmpty then .error (.blockValue key)
    else .ok ⟨key, value⟩

/-- The name of a user that the host does not tell. -/
def unknownUser : String :=
  "unknown"

/-- The blocks that name the user. -/
def NewRequest.userBlocks (request : NewRequest) (user : String) : List MetadataBlock :=
  (if request.selfAssignee then [⟨.assignee, user⟩] else []) ++
    (if request.selfAuthor then [⟨.author, user⟩] else [])

/-- The language of a new marker line. -/
def NewRequest.languageName (request : NewRequest) : String :=
  match request.language, request.file with
  | some language, _ => language
  | none, some file => languageForExtension ((Path.extension? file).getD "")
  | none, none => "plaintext"

/-- Prints a new marker line. -/
def runNew (host : Host) (root : Path) (request : NewRequest) : Except Failure String := do
  let blocks ← request.blocks.mapM parseBlock
  let user := (host.userName? root).getD unknownUser
  let draft : MarkerDraft :=
    { opener := commentOpener request.languageName
      priority := request.priority
      kind := request.kind
      context := request.context
      message := request.message
      blocks := blocks ++ request.userBlocks user }
  .ok (line draft.render)

/-- Prints the configuration. -/
def runConfig (host : Host) (root : Path) : Except Failure String := do
  let config ← loadConfig host root
  .ok (line config.toJson.pretty)

/-- Does what an invocation asks for. -/
def Invocation.run (host : Host) (invocation : Invocation) : Except Failure String :=
  match invocation.command with
  | .list request => runList host invocation.root request
  | .decorate file mode => runDecorate host invocation.root file mode
  | .links file => runLinks host invocation.root file
  | .new request => runNew host invocation.root request
  | .config => runConfig host invocation.root

/-- Runs a command line on a host. -/
def run (host : Host) (arguments : List String) : Report :=
  match Invocation.parse arguments with
  | .error stop => .ofStop stop
  | .ok invocation => .ofResult (invocation.run host)

end TodoMarkers.CommandLine
