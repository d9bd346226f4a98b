import TodoMarkers.Text.Occurrence

/-! Options and values on a command line, and how arguments are read as such. -/

namespace TodoMarkers.CommandLine

/-- What an option does. -/
inductive OptionKind where
  /-- It is given or not, at most once. -/
  | flag
  /-- It takes a value, at most once. -/
  | single
  /-- It takes a value each time it is given; a separator splits one value into several. -/
  | repeated (separator : Option Char)
  /-- It asks for help and ends the reading. -/
  | help
  /-- It asks for the version and ends the reading. -/
  | version
  deriving DecidableEq, Repr

/-- One option. -/
structure OptionRule where
  /-- The name, which two hyphens precede. -/
  name : String
  /-- The letter, which one hyphen precedes. -/
  letter : Option Char := none
  /-- What the option does. -/
  kind : OptionKind
  /-- Which values it accepts. -/
  accepts : String → Bool := fun _ => true

/-- Why reading ends early. -/
inductive Stop where
  /-- The arguments cannot be used. -/
  | misuse
  | help
  | version
  deriving DecidableEq, Repr

/-- What a command understands. -/
structure Grammar where
  /-- The options. -/
  options : List OptionRule
  /-- The values that are no option's, by position. -/
  operands : List OptionRule := []
  /-- The words that end the reading and hand the rest to another command. -/
  subcommands : List String := []

/-- The values that have been given, under the names of their options and in their order. -/
abbrev Given := List (String × String)

/-- The values of an option. -/
def valuesOf (given : Given) (name : String) : List String :=
  (given.filter fun pair => pair.1 == name).map Prod.snd

/-- The first value of an option. -/
def valueOf? (given : Given) (name : String) : Option String :=
  (valuesOf given name).head?

/-- Whether an option is given. -/
def isGiven (given : Given) (name : String) : Bool :=
  given.any fun pair => pair.1 == name

/-- How far the arguments have been read. -/
structure Progress where
  /-- The values that have been accepted. -/
  given : Given := []
  /-- An option or operand whose value, if it is there, has still to be accepted. -/
  held : Option (OptionRule × Option String) := none
  /-- The operands that are still to come. -/
  operands : List OptionRule
  /-- Whether every further argument is an operand. -/
  trailing : Bool := false

/-- Accepts a value of an option. -/
def accept (given : Given) (rule : OptionRule) (value : String) : Except Stop Given :=
  let add (values : List String) : Except Stop Given :=
    if values.all rule.accepts then .ok (given ++ values.map fun value => (rule.name, value))
    else .error .misuse
  match rule.kind with
  | .flag | .single => if isGiven given rule.name then .error .misuse else add [value]
  | .repeated none => add [value]
  | .repeated (some separator) =>
    add ((Text.split separator value.toList).map String.ofList)
  | .help => .error .help
  | .version => .error .version

/-- Accepts the value that is held; an option that still lacks its value is misused. -/
def settle (progress : Progress) : Except Stop Progress :=
  match progress.held with
  | none => .ok progress
  | some (_, none) => .error .misuse
  | some (rule, some value) =>
    match accept progress.given rule value with
    | .error stop => .error stop
    | .ok given => .ok { progress with given, held := none }

/-- Accepts an option together with its value, or a flag with an empty one. -/
def acceptNow (progress : Progress) (rule : OptionRule) (value : String) : Except Stop Progress :=
  match settle progress with
  | .error stop => .error stop
  | .ok settled =>
    match accept settled.given rule value with
    | .error stop => .error stop
    | .ok given => .ok { settled with given }

/-- Holds an option until its value is known. -/
def hold (progress : Progress) (rule : OptionRule) (value : Option String) :
    Except Stop Progress :=
  match settle progress with
  | .error stop => .error stop
  | .ok settled => .ok { settled with held := some (rule, value) }

/-- Whether an option takes a value. -/
def OptionKind.takesValue : OptionKind → Bool
  | .single | .repeated _ => true
  | .flag | .help | .version => false

/-- Reads an option by its name, with or without a value after an equals sign. -/
def readName (grammar : Grammar) (progress : Progress) (name : String) (value : Option String) :
    Except Stop Progress :=
  match grammar.options.find? fun rule => rule.name == name with
  | none => .error .misuse
  | some rule =>
    match rule.kind.takesValue, value with
    | true, some value => acceptNow progress rule value
    | true, none => hold progress rule none
    -- Not even an empty value may follow a flag.
    | false, some _ => .error .misuse
    | false, none => acceptNow progress rule ""

/-- Reads options by their letters; what follows the letter of an option with a value is that value,
after an equals sign if there is one. -/
def readLetters (grammar : Grammar) (progress : Progress) : List Char → Except Stop Progress
  | [] => .ok progress
  | letter :: rest =>
    match grammar.options.find? fun rule => rule.letter = some letter with
    | none => .error .misuse
    | some rule =>
      if rule.kind.takesValue then
        match rest with
        | [] => hold progress rule none
        | '=' :: value => acceptNow progress rule (String.ofList value)
        | value => acceptNow progress rule (String.ofList value)
      else
        match acceptNow progress rule "" with
        | .error stop => .error stop
        | .ok next => readLetters grammar next rest

/-- Reads an argument that is no option. -/
def readOperand (progress : Progress) (value : String) : Except Stop Progress :=
  match progress.operands with
  | [] => .error .misuse
  | rule :: others =>
    match hold progress rule (some value) with
    | .error stop => .error stop
    | .ok next => .ok { next with operands := others }

/-- Reads one argument. -/
def readArgument (grammar : Grammar) (progress : Progress) (argument : String) :
    Except Stop Progress :=
  if progress.trailing then readOperand progress argument
  else
    match argument.toList with
    | ['-', '-'] => .ok { progress with trailing := true }
    | '-' :: '-' :: rest =>
      let name := String.ofList (rest.takeWhile (· != '='))
      match rest.dropWhile (· != '=') with
      | [] => readName grammar progress name none
      | _ :: value => readName grammar progress name (some (String.ofList value))
    | '-' :: letter :: rest => readLetters grammar progress (letter :: rest)
    | _ =>
      -- A hyphen by itself is a value as well.
      match progress.held with
      | some (rule, none) => .ok { progress with held := some (rule, some argument) }
      | _ => readOperand progress argument

/-- Whether an argument names another command rather than a value. -/
def isSubcommand (grammar : Grammar) (progress : Progress) (argument : String) : Bool :=
  !progress.trailing && grammar.subcommands.contains argument &&
    match progress.held with
    -- Behind an option that lacks its value the name is that value.
    | some (_, none) => false
    | _ => true

/-- Reads arguments up to the first that names another command, and returns that and the rest. -/
def readArguments (grammar : Grammar) :
    Progress → List String → Except Stop (Progress × Option (String × List String))
  | progress, [] => .ok (progress, none)
  | progress, argument :: rest =>
    if isSubcommand grammar progress argument then .ok (progress, some (argument, rest))
    else
      match readArgument grammar progress argument with
      | .error stop => .error stop
      | .ok next => readArguments grammar next rest

/-- Reads arguments up to the first that names another command; values may still be held. -/
def Grammar.read (grammar : Grammar) (arguments : List String) :
    Except Stop (Progress × Option (String × List String)) :=
  readArguments grammar { operands := grammar.operands } arguments

/-- The values that have been given once all arguments are read. -/
def Progress.finish (progress : Progress) : Except Stop Given :=
  (settle progress).map Progress.given

end TodoMarkers.CommandLine
