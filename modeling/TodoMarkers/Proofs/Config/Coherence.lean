import TodoMarkers.Proofs.Config.Loads

/-! What a store hands out until it is invalidated, and what a request that fails leaves behind. -/

namespace TodoMarkers

/-- Only a display mode that is not known is refused, and the variable that sets it is named. -/
theorem Config.applyEnvironment_eq_error {config : Config} {environment : Environment}
    {error : ConfigError} (failed : config.applyEnvironment environment = .error error) :
    ¬ environment.Valid ∧
      ∃ message, error = .invalidValue Environment.displayModeName message := by
  -- Valid variables can always be applied, so an error leaves only a mode that is not known.
  have invalid : ¬ environment.Valid := fun valid => by
    rw [valid.applied config] at failed
    contradiction
  refine ⟨invalid, ?_⟩
  -- The address has no part in it, so the case split is on the mode alone.
  cases set : environment.displayMode with
  | none => exact absurd (fun isSet => by simp [set] at isSet) invalid
  | some value =>
    simp only [applyEnvironment, set] at failed
    cases parsed : DisplayMode.parse value with
    | ok mode => simp [parsed] at failed
    | error unknown =>
      rw [parsed] at failed
      exact ⟨unknown.message, (Except.error.inj failed).symm⟩

/-- An event after which the same store is in use, with whatever it has cached. -/
def ConfigEvent.keepsCache : ConfigEvent → Bool
  | .invalidate | .openRoot _ | .openPath _ | .openEnvironment _ => false
  | _ => true

namespace ConfigSession

open ConfigLoad

/-- The events of a run, each with its answer and the session after it. -/
def steps (session : ConfigSession) (events : List ConfigEvent) :
    List (ConfigEvent × ConfigAnswer × ConfigSession) :=
  events.zip (session.run events)

/-- Some steps, and what is left of them without any number of requests that failed. -/
inductive LeavesOutFailures : List (ConfigEvent × ConfigAnswer × ConfigSession) →
    List (ConfigEvent × ConfigAnswer × ConfigSession) → Prop where
  /-- Nothing is left out of no steps. -/
  | nil : LeavesOutFailures [] []
  /-- Any step may stay. -/
  | keep (step : ConfigEvent × ConfigAnswer × ConfigSession)
      {steps left : List (ConfigEvent × ConfigAnswer × ConfigSession)} :
      LeavesOutFailures steps left → LeavesOutFailures (step :: steps) (step :: left)
  /-- A request for the configuration may go if it failed. -/
  | drop (error : ConfigError) (next : ConfigSession)
      {steps left : List (ConfigEvent × ConfigAnswer × ConfigSession)} :
      LeavesOutFailures steps left →
        LeavesOutFailures ((.get, .failed error, next) :: steps) left

variable {session next : ConfigSession}

/-- A request that fails finds nothing cached and a display mode that is not known, and the session
stays as it is. -/
theorem step_get_failed {error : ConfigError} (failed : (session.step .get).1 = .failed error) :
    (session.step .get).2 = session ∧ session.store.cached = none ∧
      ¬ session.environment.Valid ∧
      ∃ message, error = .invalidValue Environment.displayModeName message := by
  -- A cached configuration or a load with a result would have been handed out.
  cases cached : session.store.cached with
  | some config =>
    rw [step_get_of_cached cached] at failed
    contradiction
  | none =>
    cases loaded : session.loadNow.result (session.store.lastGood.getD {}) with
    | ok config =>
      rw [step_get_of_result cached loaded] at failed
      contradiction
    | error reason =>
      -- The error is that of the variables, because the file always gives some configuration.
      rw [step_get_of_failure cached loaded] at failed ⊢
      obtain ⟨invalid, named⟩ := Config.applyEnvironment_eq_error loaded
      rw [ConfigAnswer.failed.inj failed] at named
      exact ⟨rfl, rfl, invalid, named⟩

/-- A request fails exactly if nothing is cached and the display mode is not a known one. -/
theorem exists_step_get_failed_iff :
    (∃ error, (session.step .get).1 = .failed error) ↔
      session.store.cached = none ∧ ¬ session.environment.Valid := by
  -- A load always has some configuration at hand, so only the variables can make it fail.
  constructor
  · rintro ⟨error, failed⟩
    obtain ⟨_, uncached, invalid, _⟩ := step_get_failed failed
    exact ⟨uncached, invalid⟩
  · rintro ⟨uncached, invalid⟩
    obtain ⟨error, fails⟩ := Environment.applyEnvironment_of_invalid invalid
    have failed : session.loadNow.result (session.store.lastGood.getD {}) = .error error := fails _
    exact ⟨error, by rw [step_get_of_failure uncached failed]⟩

/-- What is handed out is cached from then on. -/
theorem cached_step_get {config : Config} (given : (session.step .get).1 = .config (some config)) :
    (session.step .get).2.store.cached = some config := by
  -- What is handed out was either cached before or is stored by the load that found it.
  cases cached : session.store.cached with
  | some held =>
    -- It was cached before, and the store stays as it is.
    rw [step_get_of_cached cached] at given ⊢
    obtain rfl : held = config := by simpa using given
    exact cached
  | none =>
    cases loaded : session.loadNow.result (session.store.lastGood.getD {}) with
    | ok found =>
      rw [step_get_of_result cached loaded] at given ⊢
      exact ConfigAnswer.config.inj given
    | error error =>
      rw [step_get_of_failure cached loaded] at given
      contradiction

/-- With a cached configuration no event changes the store, unless it invalidates the store or opens
another one. -/
theorem step_store_of_cached {config : Config} {event : ConfigEvent}
    (cached : session.store.cached = some config) (keeps : event.keepsCache = true) :
    (session.step event).2.store = session.store := by
  -- Changes to the disk and to variables do not reach a store before it loads.
  cases event with
  | get => rw [step_get_of_cached cached]
  | load path => rw [step_load]
  | write changes => rfl
  | setVariables changes => rfl
  | applyEnvironment given => rfl
  | _ => contradiction

/-- With a cached configuration a store comes unchanged through all such events. -/
theorem after_store_of_cached {config : Config} {events : List ConfigEvent}
    (cached : session.store.cached = some config)
    (keeps : ∀ event ∈ events, event.keepsCache = true) :
    (session.after events).store = session.store := by
  -- The first event leaves the store as it is, so the others find it with the same cache.
  induction events generalizing session with
  | nil => rfl
  | cons event rest ih =>
    have same := step_store_of_cached cached (keeps event List.mem_cons_self)
    have still : (session.step event).2.store.cached = some config := by rw [same, cached]
    calc (session.after (event :: rest)).store
        = ((session.step event).2.after rest).store := rfl
      _ = (session.step event).2.store :=
          ih still fun other member => keeps other (List.mem_cons_of_mem _ member)
      _ = session.store := same

/-- The first step of a run, and then the steps from the session after it. -/
theorem steps_cons (session : ConfigSession) (event : ConfigEvent) (rest : List ConfigEvent) :
    session.steps (event :: rest) =
      (event, session.step event) :: (session.step event).2.steps rest :=
  rfl

/-- Without requests that failed, the steps of a run are the steps of the other events. -/
theorem steps_of_leavesOutFailures {events : List ConfigEvent}
    {left : List (ConfigEvent × ConfigAnswer × ConfigSession)}
    (leaves : LeavesOutFailures (session.steps events) left) :
    session.steps (left.map Prod.fst) = left := by
  -- The session of a run goes through the events one by one, so it stays arbitrary.
  induction events generalizing session left with
  | nil =>
    cases leaves
    rfl
  | cons event rest ih =>
    rw [steps_cons] at leaves
    generalize same : session.step event = result at leaves
    cases leaves with
    | keep _ others =>
      rw [List.map_cons, steps_cons, same, ih others]
    | drop error next others =>
      -- The session after the request is the one before it, from which the others start.
      have failed : (session.step .get).1 = .failed error := by rw [same]
      have unchanged := (step_get_failed failed).1
      rw [same] at unchanged
      obtain rfl : next = session := unchanged
      exact ih others

/-- A request for the configuration either fixes it until the next invalidation, or does nothing.

It fails exactly if nothing is cached and the display mode is not a known one, and then the session
stays as it is. What it hands out is handed out again by every later request up to the next
invalidation, whatever happens to files and variables in between. Any number of requests that
failed can be left out of a run, and the answers of all other steps and the sessions after them stay
the same. -/
theorem get_coherent (session : ConfigSession) :
    ((∃ error, (session.step .get).1 = .failed error) ↔
      session.store.cached = none ∧ ¬ session.environment.Valid) ∧
    (∀ error, (session.step .get).1 = .failed error →
      (∃ message, error = .invalidValue Environment.displayModeName message) ∧
        (session.step .get).2 = session) ∧
    (∀ (before between rest : List ConfigEvent) (config : Config) (next : ConfigSession),
      let events := before ++ .get :: (between ++ .get :: rest)
      (session.run events)[before.length]? = some (.config (some config), next) →
      (∀ event ∈ between, event.keepsCache = true) →
      ∃ later, (session.run events)[before.length + 1 + between.length]? =
        some (.config (some config), later)) ∧
    ∀ (events : List ConfigEvent) (left : List (ConfigEvent × ConfigAnswer × ConfigSession)),
      LeavesOutFailures (session.steps events) left →
        session.steps (left.map Prod.fst) = left := by
  -- Each part is a lemma on single steps or runs, and the third puts two requests on one run.
  refine ⟨exists_step_get_failed_iff, ?_, ?_, ?_⟩
  · intro error failed
    obtain ⟨unchanged, _, _, named⟩ := step_get_failed failed
    exact ⟨named, unchanged⟩
  · intro before between rest config next events handed keeps
    rw [run, machine.run_getElem?, Option.some.injEq] at handed
    have given : ((session.after before).step .get).1 = .config (some config) :=
      congrArg Prod.fst handed
    have cached := cached_step_get given
    -- The second request comes after the first one and everything in between.
    have split : events = (before ++ .get :: between) ++ .get :: rest := by simp [events]
    have place : before.length + 1 + between.length = (before ++ .get :: between).length := by
      simp only [List.length_append, List.length_cons]
      omega
    have reached : session.after (before ++ .get :: between) =
        ((session.after before).step .get).2.after between :=
      machine.after_append session before (.get :: between)
    have still : (session.after (before ++ .get :: between)).store.cached = some config := by
      rw [reached, after_store_of_cached cached keeps, cached]
    rw [split, place, run, machine.run_getElem?]
    exact ⟨_, congrArg some (step_get_of_cached still)⟩
  · intro events left leaves
    exact steps_of_leavesOutFailures leaves

/-- A request under an unknown display mode is left out of a run, and the request after it answers
as it did. -/
theorem get_coherent_unknown_mode :
    let first := opened ⟨[]⟩ {} "./todonukem.json"
    let set : ConfigEvent := .setVariables [(Environment.displayModeName, some "loud")]
    let unset : ConfigEvent := .setVariables [(Environment.displayModeName, none)]
    ∃ left, LeavesOutFailures (first.steps [set, .get, unset, .get]) left ∧ left.length = 3 ∧
      first.steps [set, unset, .get] = left ∧
      ∃ next, left[2]? = some (.get, .config (some {}), next) := by
  -- The failing step is found by the first two parts, and the fourth leaves it out.
  intro first set unset
  let session := first.after [set]
  obtain ⟨error, failed⟩ := (get_coherent session).1.2 ⟨rfl, by decide +kernel⟩
  have unchanged := ((get_coherent session).2.1 error failed).2
  have failing : session.step .get = (.failed error, session) := Prod.ext failed unchanged
  have whole : first.steps [set, .get, unset, .get] =
      (set, first.step set) :: (.get, .failed error, session) :: session.steps [unset, .get] := by
    rw [steps_cons, steps_cons, show (first.step set).2 = session from rfl, failing]
  have leaves : LeavesOutFailures (first.steps [set, .get, unset, .get])
      ((set, first.step set) :: session.steps [unset, .get]) := by
    rw [whole]
    exact .keep _ (.drop error session (.keep _ (.keep _ .nil)))
  -- Without a file and without variables the defaults are handed out.
  have remembers : (first.after [set, unset]).Remembers [] := remembers_after ⟨[]⟩ {} _ [set, unset]
  have defaults : remembered [(first.after [set, unset]).loadNow] = {} := by decide +kernel
  have handed := step_get_of_valid remembers rfl (by decide +kernel)
  rw [defaults] at handed
  exact ⟨_, leaves, rfl, (get_coherent first).2.2.2 _ _ leaves, _,
    congrArg (fun answer => some (ConfigEvent.get, answer, _)) handed⟩

end ConfigSession

end TodoMarkers
