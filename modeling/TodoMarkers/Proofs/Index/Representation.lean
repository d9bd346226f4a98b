import TodoMarkers.Proofs.Index.Calls
import TodoMarkers.Proofs.Index.Provenance

/-! Every index in use is one that calls share: what happens to it are stages that calls run
through. -/

namespace TodoMarkers

namespace SharedIndex

/-- A shared index is as another one shows itself, whose pending refresh is a call that scans. -/
structure Represents (shared : SharedIndex) (index : MarkerIndex) : Prop where
  /-- Both scan the same. -/
  options : shared.options = index.options
  /-- The grammar in force is the same. -/
  grammar : shared.grammar = index.grammar
  /-- A refresh has completed in both, or in none. -/
  ready : shared.ready = index.refreshed
  /-- The snapshot is the same. -/
  snapshot : shared.snapshot = index.snapshot
  /-- The flag is set exactly while a refresh is pending. -/
  flag : shared.flag = index.pending.isSome
  /-- The pending refresh is a call that scans under its grammar. -/
  scanning : ∀ taken, index.pending = some taken → ∃ call, shared.calls call = .scanning taken
  /-- There are calls that have not run. -/
  waiting : ∃ bound, ∀ call, bound ≤ call → shared.calls call = .waiting

variable {shared : SharedIndex} {index : MarkerIndex} {call : Nat} {stage : RefreshCall}
  {taken : Grammar}

/-- A call that runs leaves others that have not run. -/
theorem waiting_withCall (waiting : ∃ bound, ∀ call, bound ≤ call → shared.calls call = .waiting) :
    ∃ bound, ∀ other, bound ≤ other → (shared.withCall call stage).calls other = .waiting := by
  -- The bound is moved past the call that runs.
  obtain ⟨bound, rest⟩ := waiting
  refine ⟨max bound (call + 1), fun other large => ?_⟩
  rw [calls_withCall_of_ne (by omega), rest other (by omega)]

/-- A call that is put in one stage after another is in the last one. -/
@[simp] theorem withCall_withCall {first : RefreshCall} :
    (shared.withCall call first).withCall call stage = shared.withCall call stage := by
  -- The later stage overwrites the earlier one at the one number that changes.
  simp only [withCall, mk.injEq, true_and]
  funext other
  split <;> rfl

/-- A call that runs alone claims the index and takes the grammar in force. -/
theorem after_begin (waiting : shared.calls call = .waiting) (free : shared.flag = false)
    (workspace : Workspace) :
    shared.after [.advance call workspace, .advance call workspace] =
      { shared with flag := true }.withCall call (.scanning shared.grammar) := by
  -- Nothing else happens between the claim and the reading of the grammar.
  rw [after_cons, step_of_free waiting free, after_cons, step, advance, calls_withCall_self]
  exact withCall_withCall

/-- A call that scans ends by putting what it has found in place of the snapshot. -/
theorem after_finish (scanning : shared.calls call = .scanning taken) (workspace : Workspace) :
    let records := (workspace.scan taken shared.options).records
    shared.after [.advance call workspace, .advance call workspace] =
      { shared with ready := true, snapshot := records, flag := false }.withCall call
        (.completed records.length) := by
  -- The call advances twice, once to find the records and once to store them.
  intro records
  have found : shared.step (.advance call workspace) = shared.withCall call (.found records) := by
    rw [step, advance, scanning]
  -- The scan is the first of the two stages, and both concern the one call.
  rw [after_cons, found, after_cons, step, advance, calls_withCall_self]
  exact @withCall_withCall { shared with ready := true, snapshot := records, flag := false } call
    (.completed records.length) (.found records)

/-- A refresh begins as a call that claims the index. -/
theorem Represents.begin (represents : shared.Represents index) (idle : index.pending = none)
    (workspace : Workspace) :
    ∃ events, (shared.after events).Represents { index with pending := some index.grammar } := by
  -- The call is one that has not run yet.
  obtain ⟨bound, rest⟩ := represents.waiting
  have free : shared.flag = false := by rw [represents.flag, idle, Option.isSome_none]
  refine ⟨[.advance bound workspace, .advance bound workspace], ?_⟩
  rw [after_begin (rest bound (Nat.le_refl bound)) free]
  exact
    { options := represents.options
      grammar := represents.grammar
      ready := represents.ready
      snapshot := represents.snapshot
      flag := rfl
      scanning := fun taken some_ => ⟨bound, by
        rw [calls_withCall_self, represents.grammar, Option.some.inj some_]⟩
      waiting := waiting_withCall ⟨bound, rest⟩ }

/-- A pending refresh completes as the call that scans. -/
theorem Represents.finish (represents : shared.Represents index)
    (pending : index.pending = some taken) (workspace : Workspace) :
    ∃ events, (shared.after events).Represents { index with
      refreshed := true
      snapshot := (workspace.scan taken index.options).records
      pending := none } := by
  -- The call that scans is known, and it is the one to advance.
  obtain ⟨call, scanning⟩ := represents.scanning taken pending
  refine ⟨[.advance call workspace, .advance call workspace], ?_⟩
  rw [after_finish scanning]
  exact
    { options := represents.options
      grammar := represents.grammar
      ready := rfl
      snapshot := by rw [← represents.options]; rfl
      flag := rfl
      scanning := fun taken some_ => by simp at some_
      waiting := waiting_withCall represents.waiting }

/-- A refresh that runs without a pause begins and completes as one call. -/
theorem Represents.refresh (represents : shared.Represents index) (idle : index.pending = none)
    (workspace : Workspace) :
    ∃ events, (shared.after events).Represents { index with
      refreshed := true
      snapshot := (workspace.scan index.grammar index.options).records
      pending := none } := by
  -- The call runs through its four stages at once.
  obtain ⟨first, begun⟩ := represents.begin idle workspace
  obtain ⟨second, completed⟩ := begun.finish rfl workspace
  exact ⟨first ++ second, by simpa only [after, List.foldl_append] using completed⟩

/-- A pending refresh is given up as the call that scans is dropped. -/
theorem Represents.abandon (represents : shared.Represents index) :
    ∃ events, (shared.after events).Represents index.abandon := by
  -- The call to drop is the one that scans, if there is one.
  cases pending : index.pending with
  | none =>
    -- There is no call to drop, and nothing to give up.
    have same : index.abandon = index := by rw [MarkerIndex.abandon, ← pending]
    exact ⟨[], same.symm ▸ represents⟩
  | some taken =>
    obtain ⟨call, scanning⟩ := represents.scanning taken pending
    refine ⟨[.drop call], ?_⟩
    have dropped : shared.after [.drop call] =
        { shared with flag := false }.withCall call .dropped :=
      step_drop_of_holds (by rw [scanning]; rfl)
    rw [dropped]
    exact
      { options := represents.options
        grammar := represents.grammar
        ready := represents.ready
        snapshot := represents.snapshot
        flag := rfl
        scanning := fun taken some_ => by simp [MarkerIndex.abandon] at some_
        waiting := waiting_withCall represents.waiting }

/-- A new grammar is set alike in both. -/
theorem Represents.setGrammar (represents : shared.Represents index) (grammar : Grammar) :
    ∃ events, (shared.after events).Represents (index.setGrammar grammar) :=
  -- No call takes part, so one event does.
  ⟨[.setGrammar grammar],
    { options := represents.options
      grammar := rfl
      ready := represents.ready
      snapshot := represents.snapshot
      flag := represents.flag
      scanning := represents.scanning
      waiting := represents.waiting }⟩

end SharedIndex

namespace IndexSession

open SharedIndex

variable {shared : SharedIndex} {session : IndexSession}

/-- A refresh from its beginning to its end is one call, or is refused. -/
theorem represents_refresh (represents : shared.Represents session.index) :
    ∃ events, (shared.after events).Represents session.refresh.session.index := by
  -- A refused refresh leaves the index as it is, so no call is needed for it.
  cases pending : session.index.pending with
  | none =>
    rw [refresh_of_idle pending]
    exact represents.refresh pending session.tree.workspace
  | some taken =>
    rw [refresh_of_pending pending]
    exact ⟨[], represents⟩

/-- What an event does to an index are stages that calls run through. -/
theorem represents_step (represents : shared.Represents session.index) (event : IndexEvent) :
    ∃ events, (shared.after events).Represents (session.step event).session.index := by
  -- What is refused, and what only reads, is no stage of a call that scans.
  cases event with
  | refresh => exact represents_refresh represents
  | start =>
    by_cases roots : session.index.options.roots = []
    · rw [step_start_of_no_roots roots]
      exact represents_refresh represents
    · cases pending : session.index.pending with
      | none =>
        rw [step_start_of_idle roots pending]
        exact represents.begin pending session.tree.workspace
      | some taken =>
        rw [step_start_of_pending roots pending]
        exact ⟨[], represents⟩
  | finish =>
    cases pending : session.index.pending with
    | none =>
      rw [step_finish_of_idle pending]
      exact ⟨[], represents⟩
    | some taken =>
      rw [step_finish_of_pending pending]
      exact represents.finish pending session.tree.workspace
  | abandon => exact represents.abandon
  | setGrammar grammar => exact represents.setGrammar grammar
  | _ => exact ⟨[], represents⟩

/-- After every history an index is one that calls have come to share. -/
theorem exists_represents_after (tree : FileTree) (grammar : Grammar) (options : ScanOptions)
    (events : List IndexEvent) :
    ∃ calls, SharedIndex.Represents (SharedIndex.after { options, grammar } calls)
      ((ofOptions tree grammar options).after events).index := by
  -- The calls of the longer history are those of the shorter one, with what the last event adds.
  induction events using List.reverseRecOn with
  | nil =>
    exact ⟨[],
      { options := rfl
        grammar := rfl
        ready := rfl
        snapshot := rfl
        flag := rfl
        scanning := fun taken some_ => by simp [after, ofOptions] at some_
        waiting := ⟨0, fun _ _ => rfl⟩ }⟩
  | append_singleton events event ih =>
    obtain ⟨calls, represents⟩ := ih
    obtain ⟨more, longer⟩ := represents_step represents event
    rw [after, machine.after_concat]
    refine ⟨calls ++ more, ?_⟩
    rw [SharedIndex.after, List.foldl_append]
    exact longer

end IndexSession

end TodoMarkers
