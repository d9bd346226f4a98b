import TodoMarkers.Proofs.Index.Representation

/-! At most one refresh is pending, and one that is given up leaves nothing behind. -/

namespace TodoMarkers

namespace IndexHistory

variable {options : ScanOptions} {events began : List IndexEvent} {event : IndexEvent}

/-- Some refresh has completed. -/
def Completed (options : ScanOptions) (events : List IndexEvent) : Prop :=
  ∃ read event later began, events = read ++ event :: later ∧ Completes options read event began

/-- Before anything happens, no refresh has completed. -/
theorem not_completed_nil : ¬ Completed options [] := by
  -- A completed refresh has an event that completed it.
  rintro ⟨read, event, later, began, whole, _⟩
  simp at whole

/-- A refresh has completed if one had before, or if the last event completes one. -/
theorem completed_snoc_iff : Completed options (events ++ [event]) ↔
    Completed options events ∨ ∃ began, Completes options events event began := by
  -- The completing event is either the last one or among those before.
  constructor
  · rintro ⟨read, other, later, began, whole, completes⟩
    rcases snoc_eq_append_cons_iff.1 whole with ⟨_, rfl, rfl⟩ | ⟨rest, rfl, rfl⟩
    · exact .inr ⟨began, completes⟩
    · exact .inl ⟨read, other, rest, began, rfl, completes⟩
  · rintro (⟨read, other, later, began, rfl, completes⟩ | ⟨began, completes⟩)
    · exact ⟨read, other, later ++ [event], began, by simp, completes⟩
    · exact ⟨events, event, [], began, rfl, completes⟩

/-- While a refresh is pending, only the event that ends it can complete one. -/
theorem Pending.not_completes (pending : Pending options events began) (open_ : ¬ event.Ends)
    (other : List IndexEvent) : ¬ Completes options events event other := by
  -- Other events complete a refresh only if none is pending.
  intro completes
  cases event with
  | refresh | start => exact pending.not_idle completes.1
  | finish => exact open_ trivial
  | _ => exact completes

/-- No refresh completes from the beginning of the pending one on. -/
theorem Pending.completed_iff (pending : Pending options events began) :
    Completed options events ↔ Completed options began := by
  obtain ⟨roots, idle, later, rfl, before⟩ := pending
  -- The induction adds one event at the end, which finds the same refresh pending.
  induction later using List.reverseRecOn with
  | nil =>
    have nothing : ∀ other, ¬ Completes options began .start other := fun _ completes =>
      roots completes.2.1
    rw [completed_snoc_iff, or_iff_left (not_exists.2 nothing)]
  | append_singleton later event ih =>
    have open_ : ∀ other ∈ later, ¬ other.Ends := fun other member =>
      before other (List.mem_append_left _ member)
    have waits : Pending options (began ++ .start :: later) began :=
      ⟨roots, idle, later, rfl, open_⟩
    have nothing := waits.not_completes (before event (by simp))
    rw [← List.cons_append, ← List.append_assoc, completed_snoc_iff, ih open_,
      or_iff_left (not_exists.2 nothing)]

end IndexHistory

open IndexHistory

namespace MarkerIndex

variable {index : MarkerIndex}

/-- An index is scanned exactly while a refresh has left it its grammar. -/
theorem phase_eq_scanning_iff : index.phase = .scanning ↔ index.pending.isSome = true :=
  -- A grammar is held as long as the refresh that has left it is under way.
  IndexPhase.eq_scanning_iff

/-- An index is ready exactly if it has been refreshed and no refresh is under way. -/
theorem phase_eq_ready_iff :
    index.phase = .ready ↔ index.pending.isSome = false ∧ index.refreshed = true :=
  -- A refresh that has completed has marked the index.
  IndexPhase.eq_ready_iff

/-- An index is empty exactly if it has not been refreshed and no refresh is under way. -/
theorem phase_eq_empty_iff :
    index.phase = .empty ↔ index.pending.isSome = false ∧ index.refreshed = false :=
  -- Without a refresh that has completed the index is not marked.
  IndexPhase.eq_empty_iff

/-- Without a refresh under way, the phase is settled by whether one has completed. -/
theorem phase_of_idle (idle : index.pending = none) :
    index.phase = if index.refreshed then .ready else .empty := by
  -- Without a grammar of a refresh the phase rests on the other flag.
  rw [phase, idle]
  rfl

end MarkerIndex

namespace IndexSession

section Step

variable {firstTree : FileTree} {firstGrammar : Grammar} {options : ScanOptions}
  {events began : List IndexEvent} {session : IndexSession}

/-- The index holds a grammar exactly while a refresh is pending. -/
theorem Tracks.pending_iff (tracks : Tracks firstTree firstGrammar options events session) :
    session.index.pending.isSome = true ↔ ∃ began, Pending options events began := by
  -- A grammar that is held belongs to a pending refresh, and without one the history is idle.
  cases pending : session.index.pending with
  | none =>
    refine iff_of_false (by simp) ?_
    rintro ⟨began, waits⟩
    exact waits.not_idle (tracks.idle pending)
  | some taken =>
    obtain ⟨began, waits, _⟩ := tracks.pending taken pending
    exact iff_of_true rfl ⟨began, waits⟩

/-- Nothing that waits for an idle index completes while a refresh is pending. -/
theorem Tracks.not_idle (tracks : Tracks firstTree firstGrammar options events session)
    {taken : Grammar} (pending : session.index.pending = some taken) : ¬ Idle options events := by
  -- A grammar is held on behalf of a refresh that the history shows to be pending.
  obtain ⟨began, waits, _⟩ := tracks.pending taken pending
  exact waits.not_idle

/-- A refresh from its beginning to its end completes exactly if none is pending. -/
theorem Tracks.refreshed_refresh (tracks : Tracks firstTree firstGrammar options events session) :
    session.refresh.session.index.refreshed = true ↔
      session.index.refreshed = true ∨ Idle options events := by
  -- An idle index accepts the refresh, and any other one refuses it and stays.
  cases pending : session.index.pending with
  | none =>
    rw [refresh_of_idle pending]
    exact iff_of_true rfl (.inr (tracks.idle pending))
  | some taken =>
    rw [refresh_of_pending pending, or_iff_left (tracks.not_idle pending)]

/-- A step marks the index as refreshed exactly if it completes a refresh. -/
theorem Tracks.refreshed_step (tracks : Tracks firstTree firstGrammar options events session)
    (event : IndexEvent) :
    (session.step event).session.index.refreshed = true ↔
      session.index.refreshed = true ∨ ∃ began, Completes options events event began := by
  -- What completes a refresh sets the mark; everything else keeps it.
  have kept (nothing : ∀ began, ¬ Completes options events event began) :
      session.index.refreshed = true ↔
        session.index.refreshed = true ∨ ∃ began, Completes options events event began :=
    (or_iff_left (not_exists.2 nothing)).symm
  cases event with
  | refresh =>
    rw [step, tracks.refreshed_refresh]
    simp [Completes]
  | start =>
    by_cases none : session.index.options.roots = []
    · rw [step_start_of_no_roots none, tracks.refreshed_refresh]
      rw [tracks.scanned] at none
      simp [Completes, none]
    · have nothing : ∀ began, ¬ Completes options events .start began := fun _ completes =>
        none (tracks.scanned ▸ completes.2.1)
      cases pending : session.index.pending with
      | none =>
        rw [step_start_of_idle none pending]
        exact kept nothing
      | some taken =>
        rw [step_start_of_pending none pending]
        exact kept nothing
  | finish =>
    cases pending : session.index.pending with
    | none =>
      rw [step_finish_of_idle pending]
      exact kept fun _ completes => Pending.not_idle completes (tracks.idle pending)
    | some taken =>
      obtain ⟨began, waits, _⟩ := tracks.pending taken pending
      rw [step_finish_of_pending pending]
      exact iff_of_true rfl (.inr ⟨began, waits⟩)
  | _ => exact kept fun _ => id

end Step

/-- An index is marked as refreshed exactly if a refresh has completed. -/
theorem refreshed_after_iff (tree : FileTree) (grammar : Grammar) (options : ScanOptions)
    (events : List IndexEvent) :
    ((ofOptions tree grammar options).after events).index.refreshed = true ↔
      Completed options events := by
  -- Induction on the events from the end, since it is the last one that may complete a refresh.
  induction events using List.reverseRecOn with
  | nil => exact iff_of_false (by simp [after, ofOptions]) not_completed_nil
  | append_singleton events event ih =>
    rw [after, machine.after_concat, completed_snoc_iff, ← ih]
    exact (tracks_after tree grammar options events).refreshed_step event

/-- An index is scanned exactly while the one pending refresh is, which excludes every other one and
leaves nothing behind when it is given up.

The phase of an index is settled by the history: a pending refresh makes it scanned, and else a
completed one makes it ready. Attempts at another refresh are refused and change nothing. Giving the
pending one up changes nothing else, restores the phase from before it began, and the next refresh
is accepted. The index is one that calls have come to share through a flag, and however they are
scheduled and dropped, the flag is held by one of them at most. -/
theorem refresh_exclusion (tree : FileTree) (grammar : Grammar) (options : ScanOptions)
    (before : List IndexEvent) :
    let first := ofOptions tree grammar options
    let session := first.after before
    (session.index.phase = .scanning ↔ ∃ began, Pending options before began) ∧
      (session.index.phase = .ready ↔
        (¬ ∃ began, Pending options before began) ∧ Completed options before) ∧
      (session.index.phase = .empty ↔
        (¬ ∃ began, Pending options before began) ∧ ¬ Completed options before) ∧
      (∀ began, Pending options before began →
        (∀ other, Pending options before other → other = began) ∧
        session.step .refresh = ⟨session, .refused .scanInProgress, []⟩ ∧
        session.step .start = ⟨session, .refused .scanInProgress, []⟩ ∧
        let dropped := (session.step .abandon).session
        dropped = { session with index := { session.index with pending := none } } ∧
          dropped.index.phase = (first.after began).index.phase ∧
          (∃ count, (dropped.step .refresh).answer = .count count) ∧
          (dropped.step .start).answer = .pending) ∧
      (∃ calls, SharedIndex.Represents (SharedIndex.after { options, grammar } calls)
        session.index) ∧
      ∀ calls, SharedIndex.Exclusive { options, grammar } calls := by
  -- The session tracks its history, so each phase is read off what the history has pending.
  intro first session
  have tracks : Tracks tree grammar options before session :=
    tracks_after tree grammar options before
  have waits := tracks.pending_iff
  have free : session.index.pending.isSome = false ↔ ¬ ∃ began, Pending options before began := by
    rw [← waits, Bool.not_eq_true]
  have marked : session.index.refreshed = true ↔ Completed options before :=
    refreshed_after_iff tree grammar options before
  have unmarked : session.index.refreshed = false ↔ ¬ Completed options before := by
    rw [← marked, Bool.not_eq_true]
  refine ⟨MarkerIndex.phase_eq_scanning_iff.trans waits,
    MarkerIndex.phase_eq_ready_iff.trans (and_congr free marked),
    MarkerIndex.phase_eq_empty_iff.trans (and_congr free unmarked), ?_,
    exists_represents_after tree grammar options before,
    SharedIndex.exclusive_after options grammar⟩
  intro began pending
  obtain ⟨taken, held⟩ := Option.isSome_iff_exists.1 (waits.2 ⟨began, pending⟩)
  have roots : session.index.options.roots ≠ [] := tracks.scanned ▸ pending.1
  have given : (session.step .abandon).session.index.pending = none := rfl
  have rooted : (session.step .abandon).session.index.options.roots ≠ [] := roots
  refine ⟨fun other again => again.unique pending, refresh_of_pending held,
    step_start_of_pending roots held, rfl, ?_, ?_, ?_⟩
  · -- When the refresh began, none was pending, and none has completed since.
    have start : Tracks tree grammar options began (first.after began) :=
      tracks_after tree grammar options began
    have idle : (first.after began).index.pending = none := by
      rw [← Option.not_isSome_iff_eq_none, start.pending_iff]
      rintro ⟨other, waited⟩
      exact waited.not_idle pending.2.1
    have same : session.index.refreshed = (first.after began).index.refreshed := by
      rw [Bool.eq_iff_iff, marked, pending.completed_iff]
      exact (refreshed_after_iff tree grammar options began).symm
    rw [MarkerIndex.phase_of_idle idle, MarkerIndex.phase_of_idle given, ← same]
    rfl
  · exact ⟨_, congrArg IndexStep.answer (refresh_of_idle given)⟩
  · exact congrArg IndexStep.answer (step_start_of_idle rooted given)

end IndexSession

end TodoMarkers
