import TodoMarkers.Config.Basic
import TodoMarkers.Path
import TodoMarkers.Text.Utf8

/-! Where a configuration comes from: a file, and the variables that override it. -/

namespace TodoMarkers

/-- The variables that a configuration depends on. -/
structure Environment where
  /-- The path of the configuration file. -/
  configPath : Option String := none
  /-- The display mode. -/
  displayMode : Option String := none
  /-- The address below which tickets are found. -/
  ticketBaseUrl : Option String := none
  deriving DecidableEq, Repr

namespace Environment

/-- The variable for the path of the configuration file. -/
def configPathName : String :=
  "TODONUKEM_CONFIG"

/-- The variable for the display mode. -/
def displayModeName : String :=
  "TODONUKEM_DISPLAY_MODE"

/-- The variable for the address below which tickets are found. -/
def ticketBaseUrlName : String :=
  "TODONUKEM_TICKET_BASE_URL"

/-- Sets a variable, or unsets it where no value is given; other names are passed over. -/
def set (environment : Environment) (name : String) (value : Option String) : Environment :=
  if name = configPathName then { environment with configPath := value }
  else if name = displayModeName then { environment with displayMode := value }
  else if name = ticketBaseUrlName then { environment with ticketBaseUrl := value }
  else environment

end Environment

/-- Why there is no configuration. -/
inductive ConfigError where
  /-- The file is there but could not be read. -/
  | unreadable (path : Path) (error : FileError)
  /-- The file's text is no configuration. -/
  | malformed (path : Path) (text : String) (fault : Json.Fault)
  /-- A variable has a value that it may not have. -/
  | invalidValue (name message : String)

/-- The sentence that reports a missing configuration. -/
def ConfigError.message : ConfigError → String
  | .unreadable path error => "failed to read " ++ path ++ ": " ++ error.message
  | .malformed path text fault => "failed to parse " ++ path ++ ": " ++ fault.message text
  | .invalidValue name message => "invalid value for " ++ name ++ ": " ++ message

namespace Config

/-- The configuration of a file with some contents, absent when there is no file. -/
def load (path : Path) (contents : Except FileError (List UInt8)) :
    Except ConfigError (Option Config) :=
  match contents with
  -- A file that is not there is no failure.
  | .error .notFound => .ok none
  | .error error => .error (.unreadable path error)
  | .ok bytes =>
    match Text.exactText? bytes with
    | none => .error (.unreadable path .notText)
    | some text =>
      match ofText text with
      | .ok config => .ok (some config)
      | .error fault => .error (.malformed path text fault)

/-- The configuration under the variables that are set.

The display mode has to be a known one; an address is trimmed, and a blank one means none. -/
def applyEnvironment (config : Config) (environment : Environment) : Except ConfigError Config :=
  let addressed :=
    match environment.ticketBaseUrl with
    | some url => { config with ticketBaseUrl := Text.nonBlank? url }
    | none => config
  -- Any address is accepted, while the mode may be refused.
  match environment.displayMode with
  | none => .ok addressed
  | some value =>
    match DisplayMode.parse value with
    | .ok displayMode => .ok { addressed with displayMode }
    | .error error => .error (.invalidValue Environment.displayModeName error.message)

end Config

end TodoMarkers
