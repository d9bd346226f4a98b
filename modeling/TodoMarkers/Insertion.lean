import TodoMarkers.Text.Blank
import TodoMarkers.Vocabulary.Key

/-! Marker lines built from answers: a comment opener, the keyword, the slots, a message, blocks. -/

namespace TodoMarkers

/-- What opens a line comment in a language. -/
def commentOpener (language : String) : String :=
  if language ∈ ["python", "ruby", "shell", "bash", "powershell", "yaml", "perl", "r"] then "#"
  else if language ∈ ["html", "xml"] then "<!--"
  else if language = "css" then "/*"
  else if language ∈ ["sql", "lua", "haskell"] then "--"
  else "//"

/-- The languages of file extensions. -/
def extensionLanguages : List (List String × String) :=
  [(["js", "jsx", "mjs", "cjs"], "javascript"), (["ts", "tsx"], "typescript"),
   (["java"], "java"), (["c", "h"], "c"), (["cpp", "cc", "hpp"], "cpp"), (["cs"], "csharp"),
   (["go"], "go"), (["rs"], "rust"), (["php"], "php"), (["swift"], "swift"), (["kt"], "kotlin"),
   (["dart"], "dart"), (["py"], "python"), (["rb"], "ruby"), (["sh"], "shell"),
   (["ps1"], "powershell"), (["yml", "yaml"], "yaml"), (["pl"], "perl"), (["r"], "r"),
   (["html", "htm", "vue", "svelte", "md"], "html"), (["xml"], "xml"), (["css"], "css"),
   (["scss"], "scss"), (["less"], "less"), (["sql"], "sql"), (["lua"], "lua"),
   (["hs"], "haskell")]

/-- The language of a file extension, in any case and with or without its dots. -/
def languageForExtension (extension : String) : String :=
  let bare := String.ofList ((extension.toList.dropWhile (· == '.')).map Char.toLower)
  match extensionLanguages.find? fun row => row.1.contains bare with
  | some row => row.2
  | none => "plaintext"

/-- One block after the message of a marker. -/
structure MetadataBlock where
  /-- The key of the block. -/
  key : Metadata
  /-- Its value, which bare flags ignore. -/
  value : String
  deriving DecidableEq, Repr

/-- The block as it is written. -/
def MetadataBlock.render (block : MetadataBlock) : String :=
  if block.key.takesValue then
    bracketed (block.key.slug ++ ": " ++ Text.trimmed block.value)
  else
    block.key.token

/-- The answers that make up a marker line. -/
structure MarkerDraft where
  /-- What opens the comment. -/
  opener : String
  /-- The key of the priority slot. -/
  priority : Priority
  /-- The key of the kind slot. -/
  kind : Kind
  /-- The key of the context slot. -/
  context : Context
  /-- The message. -/
  message : String
  /-- The blocks after the message. -/
  blocks : List MetadataBlock := []
  deriving DecidableEq, Repr

namespace MarkerDraft

/-- Adds a block after the others. -/
def withBlock (draft : MarkerDraft) (key : Metadata) (value : String) : MarkerDraft :=
  { draft with blocks := draft.blocks ++ [⟨key, value⟩] }

/-- The marker line, its blocks in the order in which they were added. -/
def render (draft : MarkerDraft) : String :=
  let head := draft.opener ++ " TODO: " ++ draft.priority.token ++ " " ++ draft.kind.token ++ " " ++
    draft.context.token ++ " " ++ Text.trimmed draft.message
  draft.blocks.foldl (fun line block => line ++ " " ++ block.render) head

end MarkerDraft

end TodoMarkers
