import TodoMarkers.CommandLine.Options
import TodoMarkers.Path
import TodoMarkers.Vocabulary.DisplayMode
import TodoMarkers.Vocabulary.Parse

/-! What a command line asks for. -/

namespace TodoMarkers.CommandLine

/-- What to list. -/
structure ListRequest where
  /-- The priority filter, as it is written. -/
  priority : String := "all"
  /-- The kind filter, as it is written. -/
  kind : String := "all"
  /-- The context filter, as it is written. -/
  context : String := "all"
  /-- A part of the assignee's name. -/
  assignee : Option String := none
  /-- A part of the author's name. -/
  author : Option String := none
  /-- More directories to skip. -/
  ignored : List String := []
  /-- Other file names to read, unless there are none. -/
  extensions : List String := []
  /-- Whether to print JSON. -/
  json : Bool := false
  deriving DecidableEq, Repr

/-- What marker line to build. -/
structure NewRequest where
  /-- The language. -/
  language : Option String := none
  /-- A file whose name tells the language. -/
  file : Option Path := none
  /-- The key of the priority slot. -/
  priority : Priority
  /-- The key of the kind slot. -/
  kind : Kind
  /-- The key of the context slot. -/
  context : Context
  /-- The message. -/
  message : String
  /-- The blocks, as they are written. -/
  blocks : List String := []
  /-- Whether to name the user as the assignee. -/
  selfAssignee : Bool := false
  /-- Whether to name the user as the author. -/
  selfAuthor : Bool := false
  deriving DecidableEq, Repr

/-- What to do. -/
inductive Command where
  | list (request : ListRequest)
  | decorate (file : Path) (mode : Option DisplayMode)
  | links (file : Path)
  | new (request : NewRequest)
  | config
  deriving DecidableEq, Repr

/-- What to do, and in which workspace. -/
structure Invocation where
  /-- The root of the workspace. -/
  root : Path
  /-- What to do. -/
  command : Command
  deriving DecidableEq, Repr

/-- Holds of the values that may be paths. -/
def isPath (value : String) : Bool :=
  value != ""

/-- The options that every command understands. -/
def commonOptions : List OptionRule :=
  [{ name := "root", letter := some 'r', kind := .single, accepts := isPath },
   { name := "verbose", letter := some 'v', kind := .flag },
   { name := "help", letter := some 'h', kind := .help }]

/-- The options before the command. -/
def topGrammar : Grammar where
  options := commonOptions ++ [{ name := "version", letter := some 'V', kind := .version }]
  subcommands := ["list", "decorate", "links", "new", "config", "help"]

/-- The options for listing markers. -/
def listGrammar : Grammar where
  options := commonOptions ++
    [{ name := "priority", kind := .single }, { name := "type", kind := .single },
     { name := "context", kind := .single }, { name := "assignee", kind := .single },
     { name := "author", kind := .single }, { name := "ignore", kind := .repeated none },
     { name := "ext", kind := .repeated (some ',') }, { name := "json", kind := .flag }]

/-- The operand that names a file. -/
def fileOperand : OptionRule :=
  { name := "file", kind := .single, accepts := isPath }

/-- The options for decorating a file. -/
def decorateGrammar : Grammar where
  options := commonOptions ++
    [{ name := "mode", kind := .single, accepts := fun value => (DisplayMode.parse value).isOk }]
  operands := [fileOperand]

/-- The options for linking tickets. -/
def linksGrammar : Grammar where
  options := commonOptions
  operands := [fileOperand]

/-- The options for building a marker line. -/
def newGrammar : Grammar where
  options := commonOptions ++
    [{ name := "lang", kind := .single },
     { name := "file", kind := .single, accepts := isPath },
     { name := "priority", kind := .single, accepts := fun value => (Priority.parse value).isOk },
     { name := "type", kind := .single, accepts := fun value => (Kind.parse value).isOk },
     { name := "context", kind := .single, accepts := fun value => (Context.parse value).isOk },
     { name := "message", kind := .single },
     { name := "meta", kind := .repeated none },
     { name := "self-assignee", kind := .flag },
     { name := "self-author", kind := .flag }]

/-- The options for printing the configuration. -/
def configGrammar : Grammar where
  options := commonOptions

/-- What is asked of a listing. -/
def listRequest (given : Given) : ListRequest :=
  { priority := (valueOf? given "priority").getD "all"
    kind := (valueOf? given "type").getD "all"
    context := (valueOf? given "context").getD "all"
    assignee := valueOf? given "assignee"
    author := valueOf? given "author"
    ignored := valuesOf given "ignore"
    extensions := valuesOf given "ext"
    json := isGiven given "json" }

/-- What is asked of a new marker line; the slots and the message have to be given, and only one way
of telling the language may be. -/
def newRequest? (given : Given) : Option NewRequest :=
  if isGiven given "lang" && isGiven given "file" then none
  else do
    let priority ← (Priority.parse (← valueOf? given "priority")).toOption
    let kind ← (Kind.parse (← valueOf? given "type")).toOption
    let context ← (Context.parse (← valueOf? given "context")).toOption
    let message ← valueOf? given "message"
    some
      { language := valueOf? given "lang"
        file := valueOf? given "file"
        priority, kind, context, message
        blocks := valuesOf given "meta"
        selfAssignee := isGiven given "self-assignee"
        selfAuthor := isGiven given "self-author" }

/-- The options of a command and what it makes of their values, by the command's name. -/
def commandOf? (name : String) : Option (Grammar × (Given → Option Command)) :=
  match name with
  | "list" => some (listGrammar, fun given => some (.list (listRequest given)))
  | "decorate" =>
    some (decorateGrammar, fun given =>
      (valueOf? given "file").map fun file =>
        .decorate file ((valueOf? given "mode").bind fun mode => (DisplayMode.parse mode).toOption))
  | "links" => some (linksGrammar, fun given => (valueOf? given "file").map .links)
  | "new" => some (newGrammar, fun given => (newRequest? given).map .new)
  | "config" => some (configGrammar, fun _ => some .config)
  | _ => none

/-- What asking for help about some commands gives. -/
def helpAbout : List String → Stop
  | [] => .help
  | [name] => if topGrammar.subcommands.contains name then .help else .misuse
  | _ => .misuse

/-- Reads a command line. The root given after the command counts before the one in front of it. -/
def Invocation.parse (arguments : List String) : Except Stop Invocation := do
  let (top, rest) ← topGrammar.read arguments
  match rest with
  | none =>
    let _ ← top.finish
    .error .misuse
  | some ("help", topics) => .error (helpAbout topics)
  | some (name, rest) =>
    match commandOf? name with
    | none => .error .misuse
    | some (grammar, command) =>
      let (inner, _) ← grammar.read rest
      let given ← inner.finish
      match command given with
      | none => .error .misuse
      | some command =>
        let outer ← top.finish
        let root := (valueOf? given "root" <|> valueOf? outer "root").getD "."
        .ok { root, command }

end TodoMarkers.CommandLine
