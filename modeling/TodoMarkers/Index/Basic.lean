import TodoMarkers.Query
import TodoMarkers.Workspace.Scan

/-! An index of the markers of a workspace, replaced as a whole by each refresh that completes. -/

namespace TodoMarkers

/-- Why a refresh was refused. -/
inductive IndexError where
  /-- Another refresh has not ended yet. -/
  | scanInProgress
  deriving DecidableEq, Repr

/-- The sentence that reports a refused refresh. -/
def IndexError.message : IndexError → String
  | .scanInProgress => "a workspace scan is already in progress"

/-- Where an index is in its life. -/
inductive IndexPhase where
  /-- No refresh has completed. -/
  | empty
  /-- A refresh has begun and not ended. -/
  | scanning
  /-- The snapshot is that of the last completed refresh. -/
  | ready
  deriving DecidableEq, Repr

/-- The markers of a workspace, as the last completed refresh found them. -/
structure MarkerIndex where
  /-- What a refresh scans. -/
  options : ScanOptions
  /-- The grammar that the next refresh takes. -/
  grammar : Grammar
  /-- Whether a refresh has completed. -/
  refreshed : Bool := false
  /-- The records of the last completed refresh. -/
  snapshot : List MarkerRecord := []
  /-- The grammar of the refresh that has begun and not ended. -/
  pending : Option Grammar := none
  deriving DecidableEq, Repr

namespace MarkerIndex

/-- The phase of an index. -/
def phase (index : MarkerIndex) : IndexPhase :=
  if index.pending.isSome then .scanning else if index.refreshed then .ready else .empty

/-- The index with a new grammar for later refreshes. -/
def setGrammar (index : MarkerIndex) (grammar : Grammar) : MarkerIndex :=
  { index with grammar }

/-- Begins a refresh under the grammar in force, unless one is pending. -/
def start (index : MarkerIndex) : Except IndexError MarkerIndex :=
  match index.pending with
  | some _ => .error .scanInProgress
  -- The grammar is taken here, so one that is set later waits for the next refresh.
  | none => .ok { index with pending := some index.grammar }

/-- Completes the pending refresh by a scan of the workspace as it is now. -/
def finish (index : MarkerIndex) (workspace : Workspace) : Option (Scan × MarkerIndex) :=
  index.pending.map fun grammar =>
    let scan := workspace.scan grammar index.options
    (scan, { index with refreshed := true, snapshot := scan.records, pending := none })

/-- Gives the pending refresh up. -/
def abandon (index : MarkerIndex) : MarkerIndex :=
  { index with pending := none }

/-- Begins a refresh and completes it at once, unless one is pending. -/
def refresh (index : MarkerIndex) (workspace : Workspace) :
    Except IndexError (Scan × MarkerIndex) :=
  match index.pending with
  | some _ => .error .scanInProgress
  | none =>
    let scan := workspace.scan index.grammar index.options
    .ok (scan, { index with refreshed := true, snapshot := scan.records })

/-- The snapshot's records that satisfy a filter, by rank. -/
def query (index : MarkerIndex) (filter : MarkerFilter) : List MarkerRecord :=
  TodoMarkers.query filter index.snapshot

end MarkerIndex

/-- Scans a workspace once and returns the records that satisfy a filter, by rank. -/
def listWorkspace (workspace : Workspace) (grammar : Grammar) (options : ScanOptions)
    (filter : MarkerFilter) : List MarkerRecord :=
  query filter (workspace.scan grammar options).records

end TodoMarkers
