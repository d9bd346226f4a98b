import TodoMarkers.Index.Basic

/-! The stages of refreshes that share an index: a call claims the index by a flag before it scans,
and gives the flag back when it ends, whether it has completed or is dropped. -/

namespace TodoMarkers

/-- How far a call for a refresh has come. -/
inductive RefreshCall where
  /-- It has not run yet. -/
  | waiting
  /-- It has claimed the index. -/
  | claimed
  /-- It scans under the grammar that it took. -/
  | scanning (grammar : Grammar)
  /-- Its scan has found these records. -/
  | found (records : List MarkerRecord)
  /-- It was refused. -/
  | refused
  /-- It has put its records, of this number, in place of the snapshot. -/
  | completed (count : Nat)
  /-- It was dropped before its end. -/
  | dropped

namespace RefreshCall

/-- A call has claimed the index and not given it back. -/
def holds : RefreshCall → Bool
  | .claimed | .scanning _ | .found _ => true
  | _ => false

/-- A call does not run any more. -/
def ended : RefreshCall → Bool
  | .refused | .completed _ | .dropped => true
  | _ => false

end RefreshCall

/-- An index that calls for refreshes share. -/
structure SharedIndex where
  /-- What a refresh scans. -/
  options : ScanOptions
  /-- The grammar that the next refresh takes. -/
  grammar : Grammar
  /-- Whether a call has claimed the index. -/
  flag : Bool := false
  /-- Whether a refresh has completed. -/
  ready : Bool := false
  /-- The records of the last completed refresh. -/
  snapshot : List MarkerRecord := []
  /-- How far each call has come; all that may ever run wait from the start. -/
  calls : Nat → RefreshCall := fun _ => .waiting

/-- One thing that happens to a shared index. -/
inductive SharedEvent where
  /-- A call runs on to its next stage, in the workspace as it is then. -/
  | advance (call : Nat) (workspace : Workspace)
  /-- A call is dropped. -/
  | drop (call : Nat)
  /-- Later scans take another grammar. -/
  | setGrammar (grammar : Grammar)

namespace SharedIndex

/-- The phase of an index: the flag counts before the completed refreshes. -/
def phase (index : SharedIndex) : IndexPhase :=
  if index.flag then .scanning else if index.ready then .ready else .empty

/-- The index with a call in another stage. -/
def withCall (index : SharedIndex) (call : Nat) (stage : RefreshCall) : SharedIndex :=
  { index with calls := fun other => if other = call then stage else index.calls other }

/-- Lets a call run on to its next stage. -/
def advance (index : SharedIndex) (call : Nat) (workspace : Workspace) : SharedIndex :=
  match index.calls call with
  | .waiting =>
    if index.flag then index.withCall call .refused
    else { index with flag := true }.withCall call .claimed
  | .claimed => index.withCall call (.scanning index.grammar)
  | .scanning grammar => index.withCall call (.found (workspace.scan grammar index.options).records)
  -- A call cannot be dropped between its new snapshot and the end of its claim.
  | .found records =>
    { index with ready := true, snapshot := records, flag := false }.withCall call
      (.completed records.length)
  | .refused | .completed _ | .dropped => index

/-- Drops a call, which gives the flag back if the call has claimed the index. -/
def drop (index : SharedIndex) (call : Nat) : SharedIndex :=
  match index.calls call with
  | .waiting => index.withCall call .dropped
  | .claimed | .scanning _ | .found _ => { index with flag := false }.withCall call .dropped
  | .refused | .completed _ | .dropped => index

/-- The index after an event. -/
def step (index : SharedIndex) : SharedEvent → SharedIndex
  | .advance call workspace => index.advance call workspace
  | .drop call => index.drop call
  | .setGrammar grammar => { index with grammar }

/-- The index after some events. -/
def after (index : SharedIndex) (events : List SharedEvent) : SharedIndex :=
  events.foldl step index

end SharedIndex

end TodoMarkers
