import TodoMarkers.Proofs.Index.History

/-! The snapshot of an index is, after every run, what the refresh that completed last has found. -/

namespace TodoMarkers

open IndexHistory

namespace IndexSession

/-- The session after some events. -/
def after (session : IndexSession) (events : List IndexEvent) : IndexSession :=
  machine.after session events

/-- What a session does when a refresh completes: it shows what the scan has found. -/
def showing (session : IndexSession) (scan : Scan) : IndexStep :=
  ⟨{ session with index := { session.index with
      refreshed := true, snapshot := scan.records, pending := none } },
    .count scan.records.length, scan.visits⟩

section Outcomes

variable {session : IndexSession} {taken : Grammar}

/-- A refresh completes at once while nothing is pending. -/
theorem refresh_of_idle (idle : session.index.pending = none) :
    session.refresh = session.showing
      (session.tree.workspace.scan session.index.grammar session.index.options) := by
  -- The flag of an idle index is free, so the whole scan takes place within the event.
  simp [refresh, MarkerIndex.refresh, showing, idle]

/-- A refresh is refused while another one is pending. -/
theorem refresh_of_pending (pending : session.index.pending = some taken) :
    session.refresh = ⟨session, .refused .scanInProgress, []⟩ := by
  -- The flag is asked for before anything is scanned.
  rw [refresh, MarkerIndex.refresh, pending]

/-- Without a root to wait for, a refresh that begins also completes. -/
theorem step_start_of_no_roots (none : session.index.options.roots = []) :
    session.step .start = session.refresh := by
  -- The scan has nothing to wait for, so it runs to its end in the same event.
  rw [step, none, List.isEmpty_nil, if_pos rfl]

/-- With a root to wait for, a refresh that begins becomes pending. -/
theorem step_start_of_idle (roots : session.index.options.roots ≠ [])
    (idle : session.index.pending = none) :
    session.step .start =
      ⟨{ session with index := { session.index with pending := some session.index.grammar } },
        .pending, []⟩ := by
  -- The index takes its grammar along and waits for its roots to be read.
  rw [step, if_neg (by simpa using roots), MarkerIndex.start, idle]

/-- A refresh does not begin while another one is pending. -/
theorem step_start_of_pending (roots : session.index.options.roots ≠ [])
    (pending : session.index.pending = some taken) :
    session.step .start = ⟨session, .refused .scanInProgress, []⟩ := by
  -- With a root the event is left to the index, which refuses while it holds a grammar.
  rw [step, if_neg (by simpa using roots), MarkerIndex.start, pending]

/-- Without a pending refresh there is nothing to complete. -/
theorem step_finish_of_idle (idle : session.index.pending = none) :
    session.step .finish = ⟨session, .nothingPending, []⟩ := by
  -- No grammar has been taken that a scan could use.
  rw [step, MarkerIndex.finish, idle, Option.map_none]

/-- A pending refresh scans under the grammar that it took. -/
theorem step_finish_of_pending (pending : session.index.pending = some taken) :
    session.step .finish =
      session.showing (session.tree.workspace.scan taken session.index.options) := by
  -- The scan runs on the files of this event, with the grammar of the beginning.
  rw [step, MarkerIndex.finish, pending, Option.map_some, showing]

end Outcomes

/-- A session is what a history makes of the files, the options and the grammar that it starts
with. -/
structure Tracks (firstTree : FileTree) (firstGrammar : Grammar) (options : ScanOptions)
    (events : List IndexEvent) (session : IndexSession) : Prop where
  /-- The files are those of the history. -/
  files : session.tree = filesAt firstTree events
  /-- What a refresh scans never changes. -/
  scanned : session.index.options = options
  /-- The next refresh takes the grammar in force. -/
  inForce : session.index.grammar = grammarAt firstGrammar events
  /-- Without a pending grammar no refresh is pending. -/
  idle : session.index.pending = none → Idle options events
  /-- The pending grammar was in force when the pending refresh began. -/
  pending : ∀ taken, session.index.pending = some taken →
    ∃ began, Pending options events began ∧ taken = grammarAt firstGrammar began
  /-- The snapshot is that of the last completed refresh. -/
  snapshot : Shows firstTree firstGrammar options events session.index.snapshot
  /-- What has been put aside is what was shown then. -/
  held : Held firstTree firstGrammar options events session.held

/-- A step takes a session on to a history with one more event, and answers a number of records
exactly if a refresh completes or a snapshot is put aside. -/
structure Advances (firstTree : FileTree) (firstGrammar : Grammar) (options : ScanOptions)
    (events : List IndexEvent) (event : IndexEvent) (result : IndexStep) : Prop where
  /-- The session after the step is that of the longer history. -/
  tracks : Tracks firstTree firstGrammar options (events ++ [event]) result.session
  /-- The number that a completed refresh answers is that of the records it shows. -/
  counts : ∀ count, result.answer = .count count ↔
    (event = .hold ∨ ∃ began, Completes options events event began) ∧
      count = result.session.index.snapshot.length

section Step

variable {firstTree : FileTree} {firstGrammar : Grammar} {options : ScanOptions}
  {events began : List IndexEvent} {session next : IndexSession} {event : IndexEvent}
  {answer : IndexAnswer} {visits : List Visit}

/-- The first session is what the empty history makes of its own beginnings. -/
theorem tracks_ofOptions (firstTree : FileTree) (firstGrammar : Grammar) (options : ScanOptions) :
    Tracks firstTree firstGrammar options [] (ofOptions firstTree firstGrammar options) where
  -- Nothing has happened that could be pending, shown or put aside.
  files := rfl
  scanned := rfl
  inForce := rfl
  idle := fun _ => idle_nil
  pending := fun taken some_ => by simp [ofOptions] at some_
  snapshot := .inl ⟨fun middle other rest whole => by simp at whole, rfl⟩
  held := .inl ⟨by simp, rfl⟩

/-- A refresh that completes replaces the snapshot by what it has found. -/
theorem Tracks.complete (tracks : Tracks firstTree firstGrammar options events session)
    (completes : Completes options events event began) :
    Advances firstTree firstGrammar options events event (session.showing
      (session.tree.workspace.scan (grammarAt firstGrammar began) session.index.options)) where
  -- The event is about refreshes, so files, grammar and what was put aside stay as they were.
  tracks :=
    { files := by rw [filesAt_of_refreshes completes.refreshes]; exact tracks.files
      scanned := tracks.scanned
      inForce := by rw [grammarAt_of_refreshes completes.refreshes]; exact tracks.inForce
      idle := fun _ => completes.idle
      pending := fun taken some_ => by simp [showing] at some_
      snapshot := by
        rw [tracks.files, tracks.scanned]
        exact shows_of_completes completes
      held := tracks.held.snoc completes.refreshes.ne_hold }
  counts := by
    intro count
    simp only [showing, IndexAnswer.count.injEq]
    exact ⟨fun same => ⟨.inr ⟨began, completes⟩, same.symm⟩, fun both => both.2.symm⟩

/-- A step that completes nothing and answers no number takes the session on if the next one is that
of the longer history. -/
theorem Tracks.advances_of_nothing
    (tracks : Tracks firstTree firstGrammar options (events ++ [event]) next)
    (nothing : ∀ began, ¬ Completes options events event began) (other : event ≠ .hold)
    (uncounted : ∀ count, answer ≠ .count count) :
    Advances firstTree firstGrammar options events event ⟨next, answer, visits⟩ where
  -- Both sides of the claim about counts are false.
  tracks := tracks
  counts := by
    intro count
    refine ⟨fun same => absurd same (uncounted count), ?_⟩
    intro both
    rcases both with ⟨same | ⟨began, completes⟩, _⟩
    · contradiction
    · exact absurd completes (nothing began)

/-- An event that neither begins, ends nor completes a refresh may change the files and the grammar
in force alone. -/
theorem Tracks.pass (tracks : Tracks firstTree firstGrammar options events session)
    (files : next.tree = event.filesAfter session.tree)
    (index : next.index = session.index.setGrammar (event.grammarAfter session.index.grammar))
    (held : Held firstTree firstGrammar options (events ++ [event]) next.held)
    (begins : session.index.pending = none → event ≠ .start) (open_ : ¬ event.Ends)
    (nothing : ∀ began, ¬ Completes options events event began) :
    Tracks firstTree firstGrammar options (events ++ [event]) next where
  -- What is pending, shown and put aside lasts through an event that does not concern it.
  files := by rw [files, tracks.files, filesAt_snoc]
  scanned := by rw [index]; exact tracks.scanned
  inForce := by rw [index, grammarAt_snoc, ← tracks.inForce]; rfl
  idle := by
    intro none
    rw [index] at none
    exact (tracks.idle none).snoc fun _ => begins none
  pending := by
    intro taken some_
    rw [index] at some_
    obtain ⟨began, pending, same⟩ := tracks.pending taken some_
    exact ⟨began, pending.snoc open_, same⟩
  snapshot := by rw [index]; exact tracks.snapshot.snoc nothing
  held := held

/-- A refresh that begins without completing takes the grammar in force. -/
theorem Tracks.begin (tracks : Tracks firstTree firstGrammar options events session)
    (idle : session.index.pending = none) (roots : options.roots ≠ []) :
    Tracks firstTree firstGrammar options (events ++ [.start])
      { session with index := { session.index with pending := some session.index.grammar } } where
  -- Only the grammar that the refresh takes along is new.
  files := by rw [filesAt_snoc]; exact tracks.files
  scanned := tracks.scanned
  inForce := by rw [grammarAt_snoc]; exact tracks.inForce
  idle := fun none => by simp at none
  pending := by
    intro taken some_
    obtain rfl : session.index.grammar = taken := by simpa using some_
    exact ⟨events, (tracks.idle idle).pending roots, tracks.inForce⟩
  snapshot := tracks.snapshot.snoc fun _ completes => roots completes.2.1
  held := tracks.held.snoc (by simp)

/-- A refresh that ends without completing leaves nothing but the absence of a pending one. -/
theorem Tracks.drop (tracks : Tracks firstTree firstGrammar options events session)
    (ends : event.Ends) (nothing : ∀ began, ¬ Completes options events event began) :
    Tracks firstTree firstGrammar options (events ++ [event])
      { session with index := session.index.abandon } where
  -- The end leaves nothing pending, and everything else lasts.
  files := by rw [filesAt_of_refreshes ends.refreshes]; exact tracks.files
  scanned := tracks.scanned
  inForce := by rw [grammarAt_of_refreshes ends.refreshes]; exact tracks.inForce
  idle := fun _ => idle_of_ends ends
  pending := fun taken some_ => by simp [MarkerIndex.abandon] at some_
  snapshot := tracks.snapshot.snoc nothing
  held := tracks.held.snoc ends.refreshes.ne_hold

/-- While a refresh is pending, an attempt at another one is refused, and changes nothing. -/
theorem Tracks.refuse (tracks : Tracks firstTree firstGrammar options events session)
    {taken : Grammar} (pending : session.index.pending = some taken)
    (attempt : event = .refresh ∨ event = .start) :
    Advances firstTree firstGrammar options events event
      ⟨session, .refused .scanInProgress, []⟩ := by
  -- A refresh completes by itself only while nothing is pending.
  obtain ⟨began, waits, _⟩ := tracks.pending taken pending
  rcases attempt with rfl | rfl
  all_goals
    refine Tracks.advances_of_nothing (tracks.pass rfl rfl (tracks.held.snoc (by simp))
      (by simp [pending]) id ?_) ?_ (by simp) (by simp)
    all_goals
      intro _ completes
      exact waits.not_idle completes.1

/-- Every step takes a session from one history to the next. -/
theorem Tracks.advances (tracks : Tracks firstTree firstGrammar options events session)
    (event : IndexEvent) :
    Advances firstTree firstGrammar options events event (session.step event) := by
  -- Events about refreshes turn on whether one is pending; all others pass.
  cases event with
  | refresh =>
    rw [step]
    cases pending : session.index.pending with
    | none =>
      rw [refresh_of_idle pending, tracks.inForce]
      exact tracks.complete ⟨tracks.idle pending, rfl⟩
    | some taken =>
      rw [refresh_of_pending pending]
      exact tracks.refuse pending (.inl rfl)
  | start =>
    by_cases roots : session.index.options.roots = []
    · rw [step_start_of_no_roots roots]
      cases pending : session.index.pending with
      | none =>
        rw [refresh_of_idle pending, tracks.inForce]
        exact tracks.complete ⟨tracks.idle pending, tracks.scanned ▸ roots, rfl⟩
      | some taken =>
        rw [refresh_of_pending pending]
        exact tracks.refuse pending (.inr rfl)
    · cases pending : session.index.pending with
      | none =>
        rw [step_start_of_idle roots pending]
        rw [tracks.scanned] at roots
        exact (tracks.begin pending roots).advances_of_nothing
          (fun _ completes => roots completes.2.1) (by simp) (by simp)
      | some taken =>
        rw [step_start_of_pending roots pending]
        exact tracks.refuse pending (.inr rfl)
  | finish =>
    cases pending : session.index.pending with
    | none =>
      -- The index has nothing to give up, and is left as it is.
      have nothing : ∀ began, ¬ Completes options events .finish began := fun _ completes =>
        Pending.not_idle completes (tracks.idle pending)
      have same : { session with index := session.index.abandon } = session := by
        rw [MarkerIndex.abandon, ← pending]
      have ends : IndexEvent.Ends .finish := trivial
      have dropped := tracks.drop ends nothing
      rw [same] at dropped
      rw [step_finish_of_idle pending]
      exact dropped.advances_of_nothing nothing (by simp) (by simp)
    | some taken =>
      obtain ⟨began, waits, rfl⟩ := tracks.pending taken pending
      rw [step_finish_of_pending pending]
      exact tracks.complete waits
  | abandon =>
    refine Tracks.advances_of_nothing ?_ (fun _ => id) (by simp) (by simp)
    exact tracks.drop trivial fun _ => id
  | hold =>
    refine ⟨tracks.pass rfl rfl (held_of_shows tracks.snapshot) (by simp) id fun _ => id, ?_⟩
    intro count
    simp [step, eq_comm]
  | _ =>
    refine Tracks.advances_of_nothing ?_ (fun _ => id) (by simp) (by simp)
    exact tracks.pass rfl rfl (tracks.held.snoc (by simp)) (by simp) id fun _ => id

end Step

/-- After every history a session is what the history makes of its beginnings. -/
theorem tracks_after (firstTree : FileTree) (firstGrammar : Grammar) (options : ScanOptions)
    (events : List IndexEvent) :
    Tracks firstTree firstGrammar options events
      ((ofOptions firstTree firstGrammar options).after events) := by
  -- The induction adds one event at the end, and the invariant carries over its step.
  induction events using List.reverseRecOn with
  | nil => exact tracks_ofOptions firstTree firstGrammar options
  | append_singleton events event ih =>
    rw [after, machine.after_concat]
    exact (ih.advances event).tracks

/-- The snapshot of an index comes, in every run, from the refresh that completed last.

The records of that refresh are shown before and after each step. A step answers a number of records
exactly if it completes a refresh or puts the snapshot aside, and then it is the snapshot's. Queries
filter and sort the snapshot, and what was put aside is what was shown at that time. -/
theorem run_provenance (firstTree : FileTree) (firstGrammar : Grammar) (options : ScanOptions)
    (before : List IndexEvent) (event : IndexEvent) (rest : List IndexEvent) :
    let first := ofOptions firstTree firstGrammar options
    let session := first.after before
    let result := session.step event
    (first.run (before ++ event :: rest))[before.length]? = some result ∧
      (∀ records, Shows firstTree firstGrammar options before records ↔
        records = session.index.snapshot) ∧
      (∀ records, Shows firstTree firstGrammar options (before ++ [event]) records ↔
        records = result.session.index.snapshot) ∧
      (∀ count, result.answer = .count count ↔
        (event = .hold ∨ ∃ began, Completes options before event began) ∧
          count = result.session.index.snapshot.length) ∧
      (event = .snapshot → result.answer = .records session.index.snapshot) ∧
      (∀ filter, event = .query filter →
        result.answer = .records (sortByPriority (filter.select session.index.snapshot))) ∧
      (event = .held → ∃ records, Held firstTree firstGrammar options before records ∧
        result.answer = .records records) := by
  -- The session tracks its history before the event and after it, and a history shows one snapshot.
  intro first session result
  have tracks : Tracks firstTree firstGrammar options before session :=
    tracks_after firstTree firstGrammar options before
  have advances : Advances firstTree firstGrammar options before event result :=
    tracks.advances event
  refine ⟨machine.run_getElem? first before event rest, ?_, ?_, advances.counts, ?_, ?_, ?_⟩
  · intro records
    exact ⟨fun shows => shows.unique tracks.snapshot, fun same => same ▸ tracks.snapshot⟩
  · intro records
    have snapshot := advances.tracks.snapshot
    exact ⟨fun shows => shows.unique snapshot, fun same => same ▸ snapshot⟩
  · rintro rfl
    rfl
  · rintro filter rfl
    rfl
  · rintro rfl
    exact ⟨session.held, tracks.held, rfl⟩

/-- A grammar that is set while a refresh is pending waits for the next one. -/
example (tree : FileTree) (first second : Grammar) (rest : List Path) :
    let options := ScanOptions.ofRoots ("src" :: rest)
    ((ofOptions tree first options).after [.start, .setGrammar second, .finish]).index.snapshot =
      (tree.workspace.scan first options).records := by
  rfl

end IndexSession

end TodoMarkers
