import Mathlib.Data.List.Induction
import TodoMarkers.Index.Calls

/-! At most one call at a time has claimed an index, and no call gives back what another one has
claimed. -/

namespace TodoMarkers

namespace RefreshCall

/-- A call that has claimed the index has not ended. -/
theorem ended_of_holds {stage : RefreshCall} (holds : stage.holds = true) :
    stage.ended = false := by
  -- The stages in which a call holds the index all come before its end.
  cases stage with
  | claimed | scanning _ | found _ => rfl
  | _ => contradiction

end RefreshCall

namespace IndexPhase

variable {busy done : Bool}

/-- An index is scanned exactly while a scan is under way, whatever has been done before. -/
theorem eq_scanning_iff :
    (if busy then scanning else if done then ready else empty) = scanning ↔ busy = true := by
  -- The two flags make four cases, each of which names its phase.
  cases busy <;> cases done <;> simp

/-- An index is ready exactly if nothing is under way and something has been done. -/
theorem eq_ready_iff : (if busy then scanning else if done then ready else empty) = ready ↔
    busy = false ∧ done = true := by
  -- Of the four cases one is ready.
  cases busy <;> cases done <;> simp

/-- An index is empty exactly if nothing is under way and nothing has been done. -/
theorem eq_empty_iff : (if busy then scanning else if done then ready else empty) = empty ↔
    busy = false ∧ done = false := by
  -- Of the four cases one is empty.
  cases busy <;> cases done <;> simp

end IndexPhase

namespace SharedIndex

variable {index : SharedIndex} {call other : Nat} {stage : RefreshCall} {workspace : Workspace}

/-- The call that is put in another stage is in that stage. -/
@[simp] theorem calls_withCall_self : (index.withCall call stage).calls call = stage :=
  -- The change puts the stage at the call's own number.
  if_pos rfl

/-- All other calls stay in their stages. -/
theorem calls_withCall_of_ne (different : other ≠ call) :
    (index.withCall call stage).calls other = index.calls other :=
  -- The change asks for the number of the call that moves.
  if_neg different

/-- What one event can do to a shared index. -/
inductive Change (index : SharedIndex) : SharedIndex → Prop where
  /-- Nothing happens, except that later scans may take another grammar. -/
  | grammar (grammar : Grammar) : Change index { index with grammar }
  /-- A call goes on, or ends, without a change to what it has claimed. -/
  | run (call : Nat) (first stage : RefreshCall) (before : index.calls call = first)
      (open_ : first.ended = false) (same : stage.holds = first.holds)
      (incomplete : ∀ count, stage ≠ .completed count) :
      Change index (index.withCall call stage)
  /-- A call claims the index. -/
  | claim (call : Nat) (waiting : index.calls call = .waiting) (free : index.flag = false) :
      Change index ({ index with flag := true }.withCall call .claimed)
  /-- A call that has claimed the index is dropped. -/
  | release (call : Nat) (holds : (index.calls call).holds = true) :
      Change index ({ index with flag := false }.withCall call .dropped)
  /-- A call completes. -/
  | complete (call : Nat) (records : List MarkerRecord) (found : index.calls call = .found records) :
      Change index ({ index with ready := true, snapshot := records, flag := false }.withCall call
        (.completed records.length))

/-- Every event does one of these things. -/
theorem step_change (index : SharedIndex) (event : SharedEvent) :
    index.Change (index.step event) := by
  -- An event about a call turns on the stage of that call alone, and on the flag if it waits.
  cases event with
  | setGrammar grammar => exact .grammar grammar
  | advance call workspace =>
    rw [step, advance]
    cases stage : index.calls call with
    | waiting =>
      dsimp only
      split
      next => exact .run call _ .refused stage rfl rfl (by simp)
      next free => exact .claim call stage (by simpa using free)
    | claimed | scanning _ => exact .run call _ _ stage rfl rfl (by simp)
    | found records => exact .complete call records stage
    | refused | completed _ | dropped => exact .grammar index.grammar
  | drop call =>
    rw [step, drop]
    cases stage : index.calls call with
    | waiting => exact .run call _ .dropped stage rfl rfl (by simp)
    | claimed | scanning _ | found _ => exact .release call (by rw [stage]; rfl)
    | refused | completed _ | dropped => exact .grammar index.grammar

/-- The flag and the stages of the calls agree, as do the mark of a completed refresh and the calls
that have completed. -/
structure Sound (index : SharedIndex) : Prop where
  /-- The flag is set exactly if a call has claimed the index, and then it is one call alone. -/
  claim : ∃ owner, ∀ call, (index.calls call).holds = (index.flag && call == owner)
  /-- The index is marked exactly if a call has completed. -/
  ready : index.ready = true ↔ ∃ call count, index.calls call = .completed count

/-- A call that has claimed the index has set the flag. -/
theorem Sound.flag (sound : index.Sound) (holds : (index.calls call).holds = true) :
    index.flag = true := by
  -- Holding is the flag together with being its owner.
  obtain ⟨owner, claim⟩ := sound.claim
  rw [claim, Bool.and_eq_true] at holds
  exact holds.1

/-- No two calls have claimed the index. -/
theorem Sound.unique (sound : index.Sound) (holds : (index.calls call).holds = true)
    (others : (index.calls other).holds = true) : call = other := by
  -- Both calls are the owner of the flag.
  obtain ⟨owner, claim⟩ := sound.claim
  rw [claim, Bool.and_eq_true, beq_iff_eq] at holds others
  exact holds.2.trans others.2.symm

/-- The flag is set exactly if a call has claimed the index. -/
theorem Sound.flag_iff (sound : index.Sound) :
    index.flag = true ↔ ∃ call, (index.calls call).holds = true := by
  -- A flag that is set has its owner for a holder.
  refine ⟨fun set => ?_, fun ⟨_, holds⟩ => sound.flag holds⟩
  obtain ⟨owner, claim⟩ := sound.claim
  exact ⟨owner, by rw [claim, set, beq_self_eq_true, Bool.and_true]⟩

/-- The flag is not set exactly if no call has claimed the index. -/
theorem Sound.free_iff (sound : index.Sound) :
    index.flag = false ↔ ∀ call, (index.calls call).holds = false := by
  -- It is the negation of what holds of a flag that is set.
  simpa using not_congr sound.flag_iff

/-- Before any call has run, none has claimed the index and none has completed. -/
theorem sound_of_waiting (options : ScanOptions) (grammar : Grammar) :
    Sound { options, grammar } where
  -- The flag is not set, so any number does for its owner.
  claim := ⟨0, fun _ => rfl⟩
  ready := by simp

variable {next : SharedIndex}

/-- A call that goes on without completing leaves the completed calls what they are. -/
theorem exists_completed_withCall (open_ : (index.calls call).ended = false)
    (incomplete : ∀ count, stage ≠ .completed count) :
    (∃ other count, (index.withCall call stage).calls other = .completed count) ↔
      ∃ other count, index.calls other = .completed count := by
  -- The call that moves completes neither before nor after, and all others stay as they are.
  refine exists_congr fun other => exists_congr fun count => ?_
  by_cases mine : other = call
  · rw [mine, calls_withCall_self]
    refine iff_of_false (incomplete count) fun completed => ?_
    rw [completed] at open_
    contradiction
  · rw [calls_withCall_of_ne mine]

/-- Once the call that has claimed the index has given it back, no call has claimed it. -/
theorem Sound.holds_withCall (sound : index.Sound) (holds : (index.calls call).holds = true)
    (given : stage.holds = false) (other : Nat) :
    ((index.withCall call stage).calls other).holds = false := by
  -- The only holder has moved on to a stage that holds nothing.
  by_cases mine : other = call
  · rw [mine, calls_withCall_self, given]
  · rw [calls_withCall_of_ne mine, ← Bool.not_eq_true]
    exact fun others => mine (sound.unique others holds)

/-- Whatever happens, the flag and the mark stay in agreement with the calls. -/
theorem Sound.change (sound : index.Sound) (change : index.Change next) : next.Sound := by
  -- Only a call that claims the index sets the flag, and only its owner takes the flag back.
  obtain ⟨owner, claim⟩ := sound.claim
  cases change with
  | grammar grammar => exact ⟨⟨owner, claim⟩, sound.ready⟩
  | run call first stage before open_ same incomplete =>
    refine ⟨⟨owner, fun other => ?_⟩,
      sound.ready.trans (exists_completed_withCall (before ▸ open_) incomplete).symm⟩
    by_cases mine : other = call
    · rw [mine, calls_withCall_self, same, ← before]
      exact claim call
    · rw [calls_withCall_of_ne mine]
      exact claim other
  | claim call waiting free =>
    -- Nobody has claimed the index before, so the call becomes the only owner.
    refine ⟨⟨call, fun other => ?_⟩,
      sound.ready.trans (exists_completed_withCall (by rw [waiting]; rfl) (by simp)).symm⟩
    by_cases mine : other = call
    · rw [mine, calls_withCall_self, beq_self_eq_true]
      rfl
    · rw [calls_withCall_of_ne mine]
      simp [claim, free, mine, withCall]
  | release call holds =>
    -- The call was the only owner, so the flag may go.
    exact ⟨⟨owner, fun other => sound.holds_withCall holds rfl other⟩, sound.ready.trans
      (exists_completed_withCall (RefreshCall.ended_of_holds holds) (by simp)).symm⟩
  | complete call records found =>
    have holds : (index.calls call).holds = true := by rw [found]; rfl
    exact ⟨⟨owner, fun other => sound.holds_withCall holds rfl other⟩,
      iff_of_true rfl ⟨call, records.length, calls_withCall_self⟩⟩

/-- The flag and the mark agree with the calls after every run. -/
theorem sound_after (sound : index.Sound) (events : List SharedEvent) :
    (index.after events).Sound := by
  -- One event after the other keeps the agreement.
  induction events generalizing index with
  | nil => exact sound
  | cons event events ih => exact ih (sound.change (step_change index event))

/-- Whatever happens, at most one call moves on, and it has not ended before. -/
theorem Change.mover (change : index.Change next) : next.calls = index.calls ∨
    ∃ call stage, (index.calls call).ended = false ∧
      next.calls = (index.withCall call stage).calls := by
  -- Each kind of change moves a stated call, or sets the grammar and moves none.
  cases change with
  | grammar grammar => exact .inl rfl
  | run call first stage before open_ same incomplete =>
    exact .inr ⟨call, stage, before ▸ open_, rfl⟩
  | claim call waiting free => exact .inr ⟨call, .claimed, by rw [waiting]; rfl, rfl⟩
  | release call holds => exact .inr ⟨call, .dropped, RefreshCall.ended_of_holds holds, rfl⟩
  | complete call records found =>
    exact .inr ⟨call, .completed records.length, by rw [found]; rfl, rfl⟩

/-- A call that has ended stays as it is. -/
theorem Change.calls_of_ended (change : index.Change next)
    (ended : (index.calls call).ended = true) : next.calls call = index.calls call := by
  -- The call that moves had not ended, so it is another one.
  rcases change.mover with same | ⟨mover, stage, open_, same⟩
  · rw [same]
  · have different : call ≠ mover := by
      rintro rfl
      rw [ended] at open_
      contradiction
    rw [same, calls_withCall_of_ne different]

/-- The first event of a run comes before the others. -/
theorem after_cons (index : SharedIndex) (event : SharedEvent) (events : List SharedEvent) :
    index.after (event :: events) = (index.step event).after events :=
  rfl

/-- A call that has ended stays as it is through every run. -/
theorem calls_after_of_ended (events : List SharedEvent)
    (ended : (index.calls call).ended = true) :
    (index.after events).calls call = index.calls call := by
  -- Induction on the events: what has ended is left by each step as it ended.
  induction events generalizing index with
  | nil => rfl
  | cons event events ih =>
    have same := (step_change index event).calls_of_ended ended
    exact (ih (same ▸ ended)).trans same

/-- A call that has claimed the index keeps it, and no refresh completes, or the call ends. -/
theorem Sound.change_of_holds (sound : index.Sound) (change : index.Change next)
    (holds : (index.calls call).holds = true) :
    ((next.calls call).holds = true ∧ next.ready = index.ready) ∨
      (next.calls call).ended = true := by
  -- Whatever sets the mark or gives the flag back is done by this call, which ends with it.
  cases change with
  | grammar grammar => exact .inl ⟨holds, rfl⟩
  | run mover first stage before open_ same incomplete =>
    refine .inl ⟨?_, rfl⟩
    by_cases mine : call = mover
    · rw [mine, calls_withCall_self, same, ← before, ← mine, holds]
    · rw [calls_withCall_of_ne mine, holds]
  | claim mover waiting free => exact absurd (sound.flag holds) (by simp [free])
  | release mover held =>
    rw [sound.unique holds held, calls_withCall_self]
    exact .inr rfl
  | complete mover records found =>
    rw [sound.unique holds (by rw [found]; rfl), calls_withCall_self]
    exact .inr rfl

/-- No refresh completes as long as one call keeps the index. -/
theorem Sound.ready_of_holds (sound : index.Sound) (events : List SharedEvent)
    (holds : (index.calls call).holds = true)
    (still : ((index.after events).calls call).holds = true) :
    (index.after events).ready = index.ready := by
  -- Had the call ended on the way, it would not have the index in the end.
  induction events generalizing index with
  | nil => rfl
  | cons event events ih =>
    have change := step_change index event
    rcases sound.change_of_holds change holds with ⟨kept, same⟩ | ended
    · exact (ih (sound.change change) kept still).trans same
    · have stays := calls_after_of_ended events ended
      rw [after_cons, stays] at still
      rw [RefreshCall.ended_of_holds still] at ended
      contradiction

/-- How the calls of a run share an index. -/
structure Exclusive (first : SharedIndex) (events : List SharedEvent) : Prop where
  /-- The index is scanned exactly while a call has claimed it. -/
  scanning : (first.after events).phase = .scanning ↔
    ∃ call, ((first.after events).calls call).holds = true
  /-- It is ready exactly if no call has claimed it and one has completed. -/
  ready : (first.after events).phase = .ready ↔
    (∀ call, ((first.after events).calls call).holds = false) ∧
      ∃ call count, (first.after events).calls call = .completed count
  /-- No two calls have claimed it. -/
  alone : ∀ call other, ((first.after events).calls call).holds = true →
    ((first.after events).calls other).holds = true → call = other
  /-- A call that runs while another one has claimed the index is refused; nothing else changes. -/
  refused : ∀ call other workspace, (first.after events).calls call = .waiting →
    ((first.after events).calls other).holds = true →
    (first.after events).step (.advance call workspace) =
      (first.after events).withCall call .refused
  /-- The call that has claimed the index gives back the flag alone when it is dropped. -/
  released : ∀ call, ((first.after events).calls call).holds = true →
    (first.after events).step (.drop call) =
      { first.after events with flag := false }.withCall call .dropped
  /-- The phase is then the one before the call claimed the index. -/
  restored : ∀ call before workspace later, events = before ++ .advance call workspace :: later →
    (first.after before).calls call = .waiting →
    ((first.after events).calls call).holds = true →
    ((first.after events).step (.drop call)).phase = (first.after before).phase
  /-- The next call that runs then claims the index. -/
  reclaimed : ∀ call other workspace, ((first.after events).calls call).holds = true →
    (first.after events).calls other = .waiting →
    (((first.after events).step (.drop call)).step (.advance other workspace)).calls other = .claimed

/-- While the flag is set, a call that has not run is refused. -/
theorem step_of_taken (waiting : index.calls call = .waiting) (taken : index.flag = true) :
    index.step (.advance call workspace) = index.withCall call .refused := by
  -- Setting a flag that is set already fails.
  rw [step, advance, waiting]
  exact if_pos taken

/-- While the flag is not set, a call that has not run claims the index. -/
theorem step_of_free (waiting : index.calls call = .waiting) (free : index.flag = false) :
    index.step (.advance call workspace) = { index with flag := true }.withCall call .claimed := by
  -- Setting a flag that is not set succeeds, and the call that has set it holds it.
  rw [step, advance, waiting]
  exact if_neg (by simp [free])

/-- A call that has claimed the index gives back the flag when it is dropped. -/
theorem step_drop_of_holds (holds : (index.calls call).holds = true) :
    index.step (.drop call) = { index with flag := false }.withCall call .dropped := by
  -- Dropping tells the stages that hold the index from the others.
  rw [step, drop]
  cases stage : index.calls call with
  | claimed | scanning _ | found _ => rfl
  | _ => rw [stage] at holds; contradiction

/-- An index is scanned exactly while its flag is set. -/
theorem phase_eq_scanning_iff : index.phase = .scanning ↔ index.flag = true :=
  -- The flag says that a scan is under way.
  IndexPhase.eq_scanning_iff

/-- An index is ready exactly if its flag is not set and its mark is. -/
theorem phase_eq_ready_iff : index.phase = .ready ↔ index.flag = false ∧ index.ready = true :=
  -- The mark says that a scan has been done.
  IndexPhase.eq_ready_iff

/-- While the flag is not set, the phase is settled by the mark alone. -/
theorem phase_of_free (free : index.flag = false) :
    index.phase = if index.ready then .ready else .empty := by
  -- The phase looks at the flag first.
  rw [phase, free]
  rfl

/-- A call that has claimed the index and is dropped leaves the phase from before its claim. -/
theorem Sound.phase_drop (sound : index.Sound) (later : List SharedEvent)
    (waiting : index.calls call = .waiting)
    (holds : (((index.step (.advance call workspace)).after later).calls call).holds = true) :
    (((index.step (.advance call workspace)).after later).step (.drop call)).phase =
      index.phase := by
  -- The call has claimed a free index, and the mark does not change while it holds it.
  cases taken : index.flag with
  | true =>
    -- A call that was refused does not claim the index any more.
    rw [step_of_taken waiting taken] at holds
    have refused : ((index.withCall call .refused).calls call).ended = true := by
      rw [calls_withCall_self]
      rfl
    rw [calls_after_of_ended later refused, calls_withCall_self] at holds
    contradiction
  | false =>
    have claimed := sound.change (step_change index (.advance call workspace))
    have first : ((index.step (.advance call workspace)).calls call).holds = true := by
      rw [step_of_free waiting taken, calls_withCall_self]
      rfl
    have same := claimed.ready_of_holds later first holds
    rw [step_of_free waiting taken] at same
    rw [step_drop_of_holds holds, phase_of_free rfl, phase_of_free taken,
      step_of_free waiting taken]
    exact congrArg (fun ready => if ready = true then _ else _) same

/-- The calls of every run share an index exclusively. -/
theorem exclusive_after (options : ScanOptions) (grammar : Grammar) (events : List SharedEvent) :
    Exclusive { options, grammar } events := by
  -- Every run keeps the state sound, and soundness gives each of the fields.
  have sound := sound_after (sound_of_waiting options grammar) events
  refine
    { scanning := phase_eq_scanning_iff.trans sound.flag_iff
      ready := phase_eq_ready_iff.trans (and_congr sound.free_iff sound.ready)
      alone := fun call other => sound.unique
      refused := fun call other workspace waiting holds => step_of_taken waiting (sound.flag holds)
      released := fun call => step_drop_of_holds
      restored := ?_
      reclaimed := ?_ }
  · rintro call before workspace later rfl waiting holds
    have earlier := sound_after (sound_of_waiting options grammar) before
    rw [after, List.foldl_append] at holds ⊢
    exact earlier.phase_drop later waiting holds
  · intro call other workspace holds waiting
    have different : other ≠ call := by
      rintro rfl
      rw [waiting] at holds
      contradiction
    rw [step_drop_of_holds holds, step_of_free _ rfl, calls_withCall_self]
    rw [calls_withCall_of_ne different]
    exact waiting

end SharedIndex

end TodoMarkers
