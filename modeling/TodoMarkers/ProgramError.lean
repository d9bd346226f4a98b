import TodoMarkers.Config.Environment
import TodoMarkers.Index.Basic

/-! The errors of every part, under one type. -/

namespace TodoMarkers

/-- A pattern that a vocabulary gives and that cannot be used. -/
structure GrammarError where
  /-- Why it cannot be used. -/
  reason : String
  deriving DecidableEq, Repr

/-- The sentence that reports a pattern that cannot be used. -/
def GrammarError.message (error : GrammarError) : String :=
  "failed to compile marker pattern: " ++ error.reason

/-- Any error. -/
inductive ProgramError where
  | config (error : ConfigError)
  | grammar (error : GrammarError)
  | index (error : IndexError)
  | file (error : FileError)
  /-- A JSON text with a fault. -/
  | json (text : String) (fault : Json.Fault)

namespace ProgramError

/-- The sentence of the part that failed. -/
def source : ProgramError → String
  | .config error => error.message
  | .grammar error => error.message
  | .index error => error.message
  | .file error => error.message
  | .json text fault => fault.message text

/-- The name of the part that failed. -/
def part : ProgramError → String
  | .config _ => "configuration"
  | .grammar _ => "grammar"
  | .index _ => "index"
  | .file _ => "I/O"
  | .json _ _ => "JSON"

/-- The sentence of the part that failed, with the part's name in front. -/
def message (error : ProgramError) : String :=
  error.part ++ " error: " ++ error.source

end ProgramError

end TodoMarkers
