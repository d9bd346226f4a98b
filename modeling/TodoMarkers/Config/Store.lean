import TodoMarkers.Config.Environment

/-! A configuration kept until it is asked for anew, with the last good one to fall back on. -/

namespace TodoMarkers

/-- The configuration of one workspace. -/
structure ConfigStore where
  /-- The path of the configuration file. -/
  path : Path
  /-- The configuration that is handed out until the next invalidation. -/
  cached : Option Config := none
  /-- The configuration that stands in for a file that cannot be used. -/
  lastGood : Option Config := none
  deriving DecidableEq

namespace ConfigStore

/-- The name of the configuration file. -/
def fileName : String :=
  "todonukem.json"

/-- A store for the configuration file of a workspace. -/
def ofRoot (root : Path) : ConfigStore :=
  { path := Path.join root fileName }

/-- A store for the configuration file that a variable names, or for that of the workspace. -/
def ofEnvironment (root : Path) (environment : Environment) : ConfigStore :=
  match environment.configPath.bind Text.nonBlank? with
  | some path => { path }
  | none => ofRoot root

/-- The configuration that the file gives: the defaults without a file, and the last good one, or
the defaults, where the file cannot be used. -/
def fromFile (store : ConfigStore) (contents : Except FileError (List UInt8)) : Config :=
  match Config.load store.path contents with
  | .ok (some config) => config
  | .ok none => {}
  | .error _ => store.lastGood.getD {}

/-- The cached configuration, or the one that the file and the variables give now.

A failure leaves the store as it is. -/
def get (store : ConfigStore) (contents : Except FileError (List UInt8))
    (environment : Environment) : Except ConfigError Config × ConfigStore :=
  match store.cached with
  | some config => (.ok config, store)
  | none =>
    match (store.fromFile contents).applyEnvironment environment with
    -- What is kept has the variables applied to it already.
    | .ok config => (.ok config, { store with cached := some config, lastGood := some config })
    | .error error => (.error error, store)

/-- Forgets the cached configuration. -/
def invalidate (store : ConfigStore) : ConfigStore :=
  { store with cached := none }

end ConfigStore

end TodoMarkers
