import TodoMarkers.Path
import TodoMarkers.Text.Blank
import TodoMarkers.Text.Occurrence

/-! What a scan looks at: its roots, the directories it skips, and the file names it reads. -/

namespace TodoMarkers

/-- What to scan. -/
structure ScanOptions where
  /-- The root directories, in the order in which they are scanned. -/
  roots : List Path
  /-- The directory names that are skipped. -/
  ignored : List String
  /-- The endings of the file names that are read. -/
  extensions : List String
  deriving DecidableEq, Repr

namespace ScanOptions

/-- Directories that are always skipped. -/
def standardIgnored : List String :=
  ["node_modules", ".git", "dist", "build", "out", ".vscode", ".history", "coverage"]

/-- The endings that are read unless others are asked for. -/
def standardExtensions : List String :=
  [".ts", ".tsx", ".js", ".jsx", ".py", ".java", ".cs", ".cpp", ".c", ".h", ".go", ".rs",
   ".swift", ".kt", ".php", ".rb", ".vue", ".svelte", ".html", ".css", ".scss", ".sass",
   ".json", ".md", ".txt"]

/-- The standard options for some roots. -/
def ofRoots (roots : List Path) : ScanOptions :=
  ⟨roots, standardIgnored, standardExtensions⟩

/-- Options that skip more directories. -/
def ignoring (options : ScanOptions) (names : List String) : ScanOptions :=
  { options with ignored := options.ignored ++ names.filter fun name =>
      !options.ignored.contains name }

/-- An ending without blanks and with a leading dot, absent when nothing but the dot is left. -/
def ending? (extension : String) : Option String :=
  let core := Text.trim extension.toList
  let dotted := if core.head? = some '.' then core else '.' :: core
  if dotted.length > 1 then some (String.ofList dotted) else none

/-- Options with other endings. -/
def withExtensions (options : ScanOptions) (extensions : List String) : ScanOptions :=
  { options with extensions := extensions.filterMap ending? }

/-- Whether a directory of this name is skipped. -/
def ignores (options : ScanOptions) (name : String) : Bool :=
  options.ignored.contains name

/-- Whether a file of this name is read. -/
def includes (options : ScanOptions) (name : String) : Bool :=
  options.extensions.any fun ending => ending.toList.isSuffixOf name.toList

/-- A file is read if its name ends in one of the endings. -/
theorem includes_eq_true_iff {options : ScanOptions} {name : String} :
    options.includes name = true ↔
      ∃ ending ∈ options.extensions, ending.toList <:+ name.toList := by
  -- The test goes through the endings one by one.
  simp only [includes, List.any_eq_true, List.isSuffixOf_iff_suffix]

end ScanOptions

end TodoMarkers
