import Std.Data.HashMap
import TodoMarkers.CommandLine.Run

/-! The program: it looks at the machine, lets the command line decide what to print, and prints
it. -/

namespace TodoMarkers

/-- What has been seen of a machine's files; a path that nobody has looked at counts as missing. -/
structure Snapshot where
  /-- The directories, by the paths under which they have been asked for. -/
  directories : Std.HashMap Path (Except FileError (List Entry)) := ∅
  /-- The files, by the paths under which they have been asked for. -/
  files : Std.HashMap Path (Except FileError (List UInt8)) := ∅

namespace Snapshot

/-- The snapshot as a host. No directory of a snapshot lies below itself, so a traversal visits each
of its paths at most once. No other program is run, so the user's name stays unknown. -/
def host (snapshot : Snapshot) (environment : Environment) : Host where
  list := fun path => snapshot.directories.getD path (.error .notFound)
  read := fun path => snapshot.files.getD path (.error .notFound)
  environment := environment
  askUserName := fun _ => none
  stepLimit := snapshot.directories.size + snapshot.files.size + 1

end Snapshot

/-- The failure with a number that the system gives it, and the system's words for it. Some calls
report the number with its sign changed. -/
def FileError.ofCode (code : UInt32) (words : String) : FileError :=
  match min code (-code) with
  | 2 => .notFound
  | 20 => .notDirectory
  | 21 => .isDirectory
  | 36 => .nameTooLong
  | 40 => .tooManyLinks
  | code => .other (words ++ " (os error " ++ toString code ++ ")")

/-- The failure that the system reports. -/
def FileError.ofReport : IO.Error → FileError
  | .otherError code words | .resourceBusy code words | .resourceVanished code words
  | .unsupportedOperation code words | .hardwareFault code words
  | .unsatisfiedConstraints code words | .illegalOperation code words
  | .protocolError code words | .timeExpired code words
  | .alreadyExists _ code words | .interrupted _ code words | .noFileOrDirectory _ code words
  | .invalidArgument _ code words | .permissionDenied _ code words
  | .resourceExhausted _ code words | .inappropriateType _ code words
  | .noSuchThing _ code words => ofCode code words
  | .unexpectedEof => .other "unexpected end of file"
  | .userError words => .other words

/-- Asks the system, and keeps a failure as a value. -/
def attempt {α : Type} (action : IO α) : IO (Except FileError α) := do
  match ← action.toBaseIO with
  | .ok value => return .ok value
  | .error error => return .error (.ofReport error)

/-- The bytes of a file. -/
def readFile (path : Path) : IO (Except FileError (List UInt8)) :=
  attempt do
    let bytes ← IO.FS.readBinFile path
    return bytes.toList

/-- What the system says that an entry is. -/
def EntryKind.ofFileType : IO.FS.FileType → EntryKind
  | .dir => .directory
  | .file => .file
  | .symlink | .other => .other

/-- The entries of a directory. -/
def listDirectory (path : Path) : IO (Except FileError (List Entry)) :=
  attempt do
    let here ← IO.currentDir
    let entries ← (here / path).readDir
    entries.toList.mapM fun entry => do
      let metadata ← entry.path.symlinkMetadata
      return ⟨entry.fileName, .ofFileType metadata.type⟩

namespace Snapshot

/-- Looks at a file. -/
def lookAt (snapshot : Snapshot) (path : Path) : IO Snapshot := do
  let contents ← readFile path
  return { snapshot with files := snapshot.files.insert path contents }

/-- Looks at what a scan visits. -/
partial def lookBelow (options : ScanOptions) (snapshot : Snapshot) : Visit → IO Snapshot
  | .file path => snapshot.lookAt path
  | .directory path => do
    let listing ← listDirectory path
    let seen := { snapshot with directories := snapshot.directories.insert path listing }
    let visits := (listing.toOption.getD []).filterMap (Workspace.visitOf? options path)
    visits.foldlM (lookBelow options) seen

end Snapshot

namespace CommandLine

/-- Looks at all files that an invocation may ask for. -/
def Invocation.look (invocation : Invocation) (environment : Environment) : IO Snapshot := do
  let store := ConfigStore.ofEnvironment invocation.root environment
  let configured ← Snapshot.lookAt {} store.path
  match invocation.command with
  | .list request =>
    configured.lookBelow (request.options invocation.root) (.directory invocation.root)
  | .decorate file _ | .links file => configured.lookAt file
  | .new _ | .config => return configured

/-- The variables of the machine. -/
def readEnvironment : IO Environment := do
  let configPath ← IO.getEnv Environment.configPathName
  let displayMode ← IO.getEnv Environment.displayModeName
  let ticketBaseUrl ← IO.getEnv Environment.ticketBaseUrlName
  return { configPath, displayMode, ticketBaseUrl }

/-- How to use the program. -/
def usage : String :=
  "\n".intercalate
    ["Usage: todonukem [--root PATH] [--verbose] COMMAND",
     "",
     "Commands:",
     "  list      Scan the workspace and list markers ordered by priority",
     "  decorate  Print the glyph decorations of a file as JSON",
     "  links     Print the ticket links of a file as JSON",
     "  new       Format a new marker line",
     "  config    Print the effective configuration as JSON",
     ""]

/-- Runs a command line on this machine, and returns the exit code. -/
def execute (arguments : List String) : IO UInt32 := do
  let environment ← readEnvironment
  let snapshot ←
    match Invocation.parse arguments with
    | .ok invocation => invocation.look environment
    | .error .help => IO.print usage; pure {}
    | .error .misuse => IO.eprint usage; pure {}
    | .error .version => pure {}
  let report := run (snapshot.host environment) arguments
  IO.print report.output
  if let some error := report.error then IO.eprint error
  return report.exitCode.toUInt32

end CommandLine

end TodoMarkers

/-- Runs the command line that the program is given. -/
def main (arguments : List String) : IO UInt32 :=
  TodoMarkers.CommandLine.execute arguments
