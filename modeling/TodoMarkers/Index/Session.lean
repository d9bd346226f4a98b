import TodoMarkers.Index.Basic
import TodoMarkers.Machine
import TodoMarkers.Workspace.FileTree

/-! An index in use: operations on it, between changes to the files that it scans. -/

namespace TodoMarkers

/-- One thing that happens to an index or to its files. -/
inductive IndexEvent where
  /-- Directories and files change, or go where no new value is given. -/
  | write (directories : List (Path × Option (List Entry))) (files : List (Path × Option String))
  /-- A refresh begins and completes. -/
  | refresh
  /-- A refresh begins. -/
  | start
  /-- The pending refresh completes. -/
  | finish
  /-- The pending refresh is given up. -/
  | abandon
  /-- Later refreshes take another grammar. -/
  | setGrammar (grammar : Grammar)
  /-- The snapshot is read. -/
  | snapshot
  /-- The snapshot is filtered and sorted. -/
  | query (filter : MarkerFilter)
  /-- The snapshot is put aside. -/
  | hold
  /-- The snapshot that was put aside is read. -/
  | held

/-- What an event answers. -/
inductive IndexAnswer where
  /-- The event has no result. -/
  | done
  /-- A refresh completed with this many records, or a snapshot of this size was put aside. -/
  | count (records : Nat)
  /-- A refresh was refused. -/
  | refused (error : IndexError)
  /-- A refresh has begun. -/
  | pending
  /-- There is no refresh to complete. -/
  | nothingPending
  /-- Whether there was a refresh to give up. -/
  | abandoned (any : Bool)
  /-- Some records. -/
  | records (records : List MarkerRecord)
  deriving DecidableEq, Repr

/-- An index, the files that it scans, and a snapshot that was put aside. -/
structure IndexSession where
  /-- The files as they are now. -/
  tree : FileTree
  /-- The index. -/
  index : MarkerIndex
  /-- The snapshot that was put aside last. -/
  held : List MarkerRecord := []

/-- What one event leaves behind. -/
structure IndexStep where
  /-- The session after the event. -/
  session : IndexSession
  /-- What the event answers. -/
  answer : IndexAnswer
  /-- What was asked of the files. -/
  visits : List Visit := []

namespace IndexSession

/-- A session whose index takes its first grammar and options. -/
def ofOptions (tree : FileTree) (grammar : Grammar) (options : ScanOptions) : IndexSession :=
  { tree, index := { options, grammar } }

/-- Applies changes to the files. -/
def write (session : IndexSession) (directories : List (Path × Option (List Entry)))
    (files : List (Path × Option String)) : IndexSession :=
  let tree := directories.foldl (fun tree change => tree.withDirectory change.1 change.2)
    session.tree
  let tree := files.foldl (fun tree change => tree.withFile change.1 change.2) tree
  { session with tree }

/-- A refresh from its beginning to its end. -/
def refresh (session : IndexSession) : IndexStep :=
  match session.index.refresh session.tree.workspace with
  | .ok (scan, index) => ⟨{ session with index }, .count scan.records.length, scan.visits⟩
  | .error error => ⟨session, .refused error, []⟩

/-- What an event does.

A refresh that has no root to wait for completes as soon as it begins. -/
def step (session : IndexSession) : IndexEvent → IndexStep
  | .write directories files => ⟨session.write directories files, .done, []⟩
  | .refresh => session.refresh
  | .start =>
    if session.index.options.roots.isEmpty then session.refresh
    else
      match session.index.start with
      | .ok index => ⟨{ session with index }, .pending, []⟩
      | .error error => ⟨session, .refused error, []⟩
  | .finish =>
    match session.index.finish session.tree.workspace with
    | some (scan, index) => ⟨{ session with index }, .count scan.records.length, scan.visits⟩
    | none => ⟨session, .nothingPending, []⟩
  | .abandon =>
    ⟨{ session with index := session.index.abandon }, .abandoned session.index.pending.isSome, []⟩
  | .setGrammar grammar =>
    ⟨{ session with index := session.index.setGrammar grammar }, .done, []⟩
  | .snapshot => ⟨session, .records session.index.snapshot, []⟩
  | .query filter => ⟨session, .records (session.index.query filter), []⟩
  | .hold =>
    ⟨{ session with held := session.index.snapshot }, .count session.index.snapshot.length, []⟩
  | .held => ⟨session, .records session.held, []⟩

/-- Sessions, as they take one event after another. -/
def machine : Machine IndexSession IndexEvent IndexStep where
  step := step
  next := IndexStep.session

/-- The steps of a sequence of events. -/
def run (session : IndexSession) (events : List IndexEvent) : List IndexStep :=
  machine.run session events

end IndexSession

end TodoMarkers
