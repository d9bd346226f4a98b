import TodoMarkers.Text.Occurrence

/-! Paths as texts, names joined by slashes, and why what they lead to could not be read. -/

namespace TodoMarkers

/-- A path, kept as it is written. -/
abbrev Path := String

namespace Path

/-- Whether a path starts at the root of all files. -/
def isAbsolute (path : Path) : Bool :=
  path.toList.head? == some '/'

/-- A path below a base: an absolute one replaces the base, and one slash separates any other. -/
def join (base name : Path) : Path :=
  if isAbsolute name then name
  else if base.toList.getLast?.all (· == '/') then base ++ name
  else base ++ "/" ++ name

/-- The pieces of a path between its slashes, at least one; some may be empty. -/
def pieces (path : Path) : List String :=
  (Text.split '/' path.toList).map String.ofList

/-- The names along a path, without the empty ones and those that stay in place. -/
def components (path : Path) : List String :=
  (pieces path).filter fun name => name != "" && name != "."

/-- The last name of a path, absent when there is none or when it leads upwards. -/
def fileName? (path : Path) : Option String :=
  (components path).getLast?.filter (· != "..")

/-- What follows the last dot of the last name, if anything precedes that dot. -/
def extension? (path : Path) : Option String :=
  (fileName? path).bind fun name =>
    let reversed := name.toList.reverse
    match reversed.dropWhile (· != '.') with
    | _ :: _ :: _ => some (String.ofList (reversed.takeWhile (· != '.')).reverse)
    | _ => none

end Path

/-- A failed access to the file system. -/
inductive FileError where
  | notFound
  | notDirectory
  | isDirectory
  | nameTooLong
  | tooManyLinks
  /-- The path holds a zero character. -/
  | zeroInPath
  /-- The bytes are not a text in UTF-8. -/
  | notText
  /-- Any other failure, in the words of the system. -/
  | other (text : String)
  deriving DecidableEq, Repr

/-- The words for a failed access. -/
def FileError.message : FileError → String
  | .notFound => "No such file or directory (os error 2)"
  | .notDirectory => "Not a directory (os error 20)"
  | .isDirectory => "Is a directory (os error 21)"
  | .nameTooLong => "File name too long (os error 36)"
  | .tooManyLinks => "Too many levels of symbolic links (os error 40)"
  | .zeroInPath => "file name contained an unexpected NUL byte"
  | .notText => "stream did not contain valid UTF-8"
  | .other text => text

end TodoMarkers
