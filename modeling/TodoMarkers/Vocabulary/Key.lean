/-! The fixed keys that a marker may carry, in four categories. -/

namespace TodoMarkers

/-- The four categories of keys. -/
inductive Category where
  /-- How urgent a marker is. -/
  | priority
  /-- What sort of work it asks for. -/
  | kind
  /-- Which part of the work it concerns. -/
  | context
  /-- What else is known about it. -/
  | metadata
  deriving DecidableEq, Repr

/-- The urgency of a marker. -/
inductive Priority where
  | low | medium | high
  deriving DecidableEq, Repr

/-- The sort of work that a marker asks for. -/
inductive Kind where
  | feature | fix
  deriving DecidableEq, Repr

/-- The part of the work that a marker concerns. -/
inductive Context where
  | design | doc | test | perf | lang | sec | update | optimize | review
  deriving DecidableEq, Repr

/-- The blocks that may follow a marker's message. -/
inductive Metadata where
  | tbd | scope | ticket | until | assignee | author | version | docs | blockCommit
  deriving DecidableEq, Repr

/-- Any key, tagged with its category. -/
inductive Key where
  | priority (key : Priority)
  | kind (key : Kind)
  | context (key : Context)
  | metadata (key : Metadata)
  deriving DecidableEq, Repr

namespace Category

/-- The categories in scan order. -/
def all : List Category :=
  [.priority, .kind, .context, .metadata]

/-- The word for a category in configuration files and messages. -/
def word : Category → String
  | .priority => "priority"
  | .kind => "type"
  | .context => "context"
  | .metadata => "meta"

end Category

/-- A token is a slug in square brackets. -/
def bracketed (slug : String) : String :=
  "[" ++ slug ++ "]"

namespace Priority

/-- The priorities in scan order. -/
def all : List Priority :=
  [.low, .medium, .high]

/-- The word that stands between the brackets of a token. -/
def slug : Priority → String
  | .low => "low"
  | .medium => "medium"
  | .high => "high"

/-- The name shown to people. -/
def name : Priority → String
  | .low => "Low"
  | .medium => "Medium"
  | .high => "High"

/-- The glyph shown where no override applies. -/
def defaultGlyph : Priority → String
  | .low => "🟩"
  | .medium => "🔶"
  | .high => "🔴"

/-- The bracketed form of the key. -/
def token (key : Priority) : String :=
  bracketed key.slug

/-- Sort rank: high comes first. -/
def rank : Priority → Nat
  | .high => 1
  | .medium => 2
  | .low => 3

end Priority

namespace Kind

/-- The kinds in scan order. -/
def all : List Kind :=
  [.feature, .fix]

/-- The word that stands between the brackets of a token. -/
def slug : Kind → String
  | .feature => "feature"
  | .fix => "fix"

/-- The name shown to people. -/
def name : Kind → String
  | .feature => "Feature"
  | .fix => "Fix"

/-- The glyph shown where no override applies. -/
def defaultGlyph : Kind → String
  | .feature => "✨"
  | .fix => "🐛"

/-- The bracketed form of the key. -/
def token (key : Kind) : String :=
  bracketed key.slug

end Kind

namespace Context

/-- The contexts in scan order. -/
def all : List Context :=
  [.design, .doc, .test, .perf, .lang, .sec, .update, .optimize, .review]

/-- The word that stands between the brackets of a token. -/
def slug : Context → String
  | .design => "design"
  | .doc => "doc"
  | .test => "test"
  | .perf => "perf"
  | .lang => "lang"
  | .sec => "sec"
  | .update => "update"
  | .optimize => "optimize"
  | .review => "review"

/-- The name shown to people. -/
def name : Context → String
  | .design => "Design"
  | .doc => "Doc"
  | .test => "Test"
  | .perf => "Perf"
  | .lang => "Lang"
  | .sec => "Sec"
  | .update => "Update"
  | .optimize => "Optimize"
  | .review => "Review"

/-- The glyph shown where no override applies. -/
def defaultGlyph : Context → String
  | .design => "🎨"
  | .doc => "📚"
  | .test => "🧪"
  | .perf => "⚡"
  | .lang => "🌐"
  | .sec => "🔒"
  | .update => "🔄"
  | .optimize => "🛠\uFE0F"
  | .review => "👀"

/-- The bracketed form of the key. -/
def token (key : Context) : String :=
  bracketed key.slug

end Context

namespace Metadata

/-- The metadata keys in scan order. -/
def all : List Metadata :=
  [.tbd, .scope, .ticket, .until, .assignee, .author, .version, .docs, .blockCommit]

/-- The word that stands between the brackets of a token. -/
def slug : Metadata → String
  | .tbd => "tbd"
  | .scope => "scope"
  | .ticket => "ticket"
  | .until => "until"
  | .assignee => "assignee"
  | .author => "author"
  | .version => "version"
  | .docs => "docs"
  | .blockCommit => "block-commit"

/-- The name shown to people. -/
def name : Metadata → String
  | .tbd => "TBD"
  | .scope => "Scope"
  | .ticket => "Ticket"
  | .until => "Until"
  | .assignee => "Assignee"
  | .author => "Author"
  | .version => "Version"
  | .docs => "Docs"
  | .blockCommit => "BlockCommit"

/-- The glyph shown where no override applies. -/
def defaultGlyph : Metadata → String
  | .tbd => "💬"
  | .scope => "🎯"
  | .ticket => "🎫"
  | .until => "📅"
  | .assignee => "👤"
  | .author => "✍\uFE0F"
  | .version => "🔖"
  | .docs => "📚"
  | .blockCommit => "⛔"

/-- The bracketed form of the key. -/
def token (key : Metadata) : String :=
  bracketed key.slug

/-- Whether the block carries a value after a colon; the others are bare flags. -/
def takesValue : Metadata → Bool
  | .tbd | .blockCommit => false
  | _ => true

end Metadata

namespace Key

/-- Every key: the categories in scan order, and each category in its own order. -/
def all : List Key :=
  Priority.all.map .priority ++ Kind.all.map .kind ++ Context.all.map .context ++
    Metadata.all.map .metadata

/-- The category that a key belongs to. -/
def category : Key → Category
  | .priority _ => .priority
  | .kind _ => .kind
  | .context _ => .context
  | .metadata _ => .metadata

/-- The word that stands between the brackets of a token. -/
def slug : Key → String
  | .priority key => key.slug
  | .kind key => key.slug
  | .context key => key.slug
  | .metadata key => key.slug

/-- The name shown to people. -/
def name : Key → String
  | .priority key => key.name
  | .kind key => key.name
  | .context key => key.name
  | .metadata key => key.name

/-- The glyph shown where no override applies. -/
def defaultGlyph : Key → String
  | .priority key => key.defaultGlyph
  | .kind key => key.defaultGlyph
  | .context key => key.defaultGlyph
  | .metadata key => key.defaultGlyph

/-- The bracketed form of the key. -/
def token (key : Key) : String :=
  bracketed key.slug

end Key

end TodoMarkers
