import TodoMarkers.Config.Store
import TodoMarkers.Disk
import TodoMarkers.Machine

/-! A configuration store in use: operations on it, between changes to its file and to variables. -/

namespace TodoMarkers

/-- One thing that happens to a store, to the disk, or to the variables. -/
inductive ConfigEvent where
  /-- Nodes are put at paths, or taken away where there is no node. -/
  | write (changes : List (Path × Option Node))
  /-- Variables are set, or unset where there is no value. -/
  | setVariables (changes : List (String × Option String))
  /-- Another store is opened, for the file of a workspace. -/
  | openRoot (root : Path)
  /-- Another store is opened, for a file. -/
  | openPath (path : Path)
  /-- Another store is opened, for the file that a variable names or for that of a workspace. -/
  | openEnvironment (root : Path)
  /-- The cached configuration is forgotten. -/
  | invalidate
  /-- The configuration is asked for. -/
  | get
  /-- A file is read, apart from the store. -/
  | load (path : Path)
  /-- The variables are applied to a configuration, apart from the store. -/
  | applyEnvironment (config : Config)

/-- What an event answers. -/
inductive ConfigAnswer where
  /-- The event has no result. -/
  | done
  /-- A configuration, absent when there is no file. -/
  | config (config : Option Config)
  /-- There is no configuration. -/
  | failed (error : ConfigError)

/-- A store, and what it depends on. -/
structure ConfigSession where
  /-- The disk as it is now. -/
  disk : Disk
  /-- The variables as they are now. -/
  environment : Environment
  /-- The store. -/
  store : ConfigStore

namespace ConfigSession

/-- The disk with changes applied in order. -/
def writeAll (disk : Disk) (changes : List (Path × Option Node)) : Disk :=
  changes.foldl (fun disk change => disk.write change.1 change.2) disk

/-- The variables with changes applied in order. -/
def setAll (environment : Environment) (changes : List (String × Option String)) : Environment :=
  changes.foldl (fun environment change => environment.set change.1 change.2) environment

/-- The answer to a result that is a configuration if all goes well. -/
def answerOf (result : Except ConfigError Config) : ConfigAnswer :=
  match result with
  | .ok config => .config (some config)
  | .error error => .failed error

/-- What an event does, and what it answers. -/
def step (session : ConfigSession) : ConfigEvent → ConfigAnswer × ConfigSession
  | .write changes => (.done, { session with disk := writeAll session.disk changes })
  | .setVariables changes =>
    (.done, { session with environment := setAll session.environment changes })
  | .openRoot root => (.done, { session with store := .ofRoot root })
  | .openPath path => (.done, { session with store := { path } })
  | .openEnvironment root =>
    (.done, { session with store := .ofEnvironment root session.environment })
  | .invalidate => (.done, { session with store := session.store.invalidate })
  | .get =>
    let (result, store) := session.store.get (session.disk.read session.store.path)
      session.environment
    (answerOf result, { session with store })
  | .load path =>
    match Config.load path (session.disk.read path) with
    | .ok config => (.config config, session)
    | .error error => (.failed error, session)
  | .applyEnvironment config =>
    (answerOf (config.applyEnvironment session.environment), session)

/-- Sessions, as they take one event after another. -/
def machine : Machine ConfigSession ConfigEvent (ConfigAnswer × ConfigSession) where
  step := step
  next := Prod.snd

/-- The answers of a sequence of events, and the sessions after them. -/
def run (session : ConfigSession) (events : List ConfigEvent) :
    List (ConfigAnswer × ConfigSession) :=
  machine.run session events

end ConfigSession

end TodoMarkers
