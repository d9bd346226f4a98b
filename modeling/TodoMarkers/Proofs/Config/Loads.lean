import Mathlib.Data.List.Induction
import TodoMarkers.Config.Session

/-! The loads of a store in a history, and what the store remembers of them. -/

namespace TodoMarkers

namespace Environment

/-- The display mode that a variable sets. -/
def mode? (environment : Environment) : Option DisplayMode :=
  environment.displayMode.bind fun value => (DisplayMode.parse value).toOption

/-- The address that a variable sets, which may be none. -/
def address? (environment : Environment) : Option (Option String) :=
  environment.ticketBaseUrl.map Text.nonBlank?

/-- The display mode is a known one where it is set. -/
def Valid (environment : Environment) : Prop :=
  environment.displayMode.isSome → environment.mode?.isSome

instance (environment : Environment) : Decidable environment.Valid :=
  inferInstanceAs (Decidable (_ → _))

/-- A configuration with the values that variables set in place of its own. -/
def override (environment : Environment) (config : Config) : Config where
  displayMode := environment.mode?.getD config.displayMode
  ticketBaseUrl := environment.address?.getD config.ticketBaseUrl
  glyphs := config.glyphs

variable {environment : Environment}

/-- Variables with values that they may have replace those of every configuration. -/
theorem Valid.applied (valid : environment.Valid) (config : Config) :
    config.applyEnvironment environment = .ok (environment.override config) := by
  -- A value that is not a known one is excluded; all others are read off.
  simp only [Config.applyEnvironment, override, mode?, address?]
  cases set : environment.displayMode with
  | none => cases environment.ticketBaseUrl <;> rfl
  | some value =>
    have known := valid (by simp [set])
    rw [mode?, set, Option.bind_some] at known
    cases parsed : DisplayMode.parse value with
    | ok mode => cases environment.ticketBaseUrl <;> simp [parsed, Except.toOption]
    | error error => simp [parsed, Except.toOption] at known

/-- An unknown display mode is reported alike for every configuration. -/
theorem applyEnvironment_of_invalid (invalid : ¬ environment.Valid) :
    ∃ error, ∀ config : Config, config.applyEnvironment environment = .error error := by
  -- The value is read apart from the configuration, and only its own text is reported.
  rw [Valid, Classical.not_imp] at invalid
  obtain ⟨isSet, unknown⟩ := invalid
  obtain ⟨value, set⟩ := Option.isSome_iff_exists.1 isSet
  rw [mode?, set, Option.bind_some] at unknown
  cases parsed : DisplayMode.parse value with
  | ok mode => simp [parsed, Except.toOption] at unknown
  | error error =>
    refine ⟨.invalidValue displayModeName error.message, fun config => ?_⟩
    simp [Config.applyEnvironment, set, parsed]

end Environment

/-- One load of a configuration file. -/
structure ConfigLoad where
  /-- The configuration that was read, absent when there was no file. -/
  outcome : Except ConfigError (Option Config)
  /-- The variables at that time. -/
  environment : Environment

namespace ConfigLoad

/-- There was no file. -/
def Missing (load : ConfigLoad) : Prop :=
  load.outcome = .ok none

instance (load : ConfigLoad) : Decidable load.Missing :=
  match found : load.outcome with
  | .ok none => .isTrue found
  | .ok (some _) => .isFalse (by simp [Missing, found])
  | .error _ => .isFalse (by simp [Missing, found])

/-- The configuration that was parsed. -/
def parsed? (load : ConfigLoad) : Option Config :=
  match load.outcome with
  | .ok (some config) => some config
  | _ => none

/-- The configuration that a load takes without falling back: the parsed one, or the defaults
without a file. -/
def given? (load : ConfigLoad) : Option Config :=
  match load.outcome with
  | .ok config => some (config.getD {})
  | .error _ => none

/-- What a load comes to, with a configuration to fall back on. -/
def result (load : ConfigLoad) (fallback : Config) : Except ConfigError Config :=
  (load.given?.getD fallback).applyEnvironment load.environment

/-- What a store falls back on behind its loads, the last one first: the result of the last one that
had a result. -/
def remembered : List ConfigLoad → Config
  | [] => {}
  | load :: earlier =>
    match load.result (remembered earlier) with
    | .ok config => config
    | .error _ => remembered earlier

/-- The configuration that the last load took that did not fall back, or the defaults. -/
def taken (loads : List ConfigLoad) : Config :=
  (loads.findSome? given?).getD {}

/-- The value that variables had at the last load that found them set, unless a later load did not
fall back. -/
def lingering {Value : Type} (value? : Environment → Option Value) : List ConfigLoad → Option Value
  | [] => none
  | load :: earlier =>
    match value? load.environment, load.given? with
    | some value, _ => some value
    | none, some _ => none
    | none, none => lingering value? earlier

/-- The display mode that some loads leave to a later one that falls back. -/
def modeLeft (loads : List ConfigLoad) : DisplayMode :=
  (lingering Environment.mode? loads).getD (taken loads).displayMode

/-- The address that some loads leave to a later one that falls back. -/
def addressLeft (loads : List ConfigLoad) : Option String :=
  (lingering Environment.address? loads).getD (taken loads).ticketBaseUrl

variable {load : ConfigLoad} {earlier loads : List ConfigLoad}

/-- With variables that are unset or known, a load has a result that the store remembers. -/
theorem result_of_valid (valid : load.environment.Valid) (fallback : Config) :
    load.result fallback = .ok (load.environment.override (load.given?.getD fallback)) :=
  -- The variables are applied to whatever the file or the fallback gave.
  valid.applied _

/-- What a store remembers is what the last usable file gave, under the values that variables have
left behind since. -/
theorem remembered_eq (valid : ∀ load ∈ loads, load.environment.Valid) :
    remembered loads =
      { displayMode := modeLeft loads
        ticketBaseUrl := addressLeft loads
        glyphs := (taken loads).glyphs } := by
  -- A load adds its variables on top, and starts over from its file where that can be used.
  induction loads with
  | nil => rfl
  | cons load earlier ih =>
    have before := ih fun other member => valid other (List.mem_cons_of_mem _ member)
    rw [remembered, result_of_valid (valid load (by simp))]
    simp only [Environment.override, modeLeft, addressLeft, taken, lingering, List.findSome?_cons]
    cases given : load.given? with
    | some config =>
      -- A usable file puts an end to what earlier loads have left.
      cases load.environment.mode? <;> cases load.environment.address? <;> rfl
    | none =>
      -- Without one, what is not set now stays what they have left.
      rw [Option.getD_none, before, modeLeft, addressLeft, taken]
      cases load.environment.mode? <;> cases load.environment.address? <;> rfl

end ConfigLoad

namespace ConfigSession

open ConfigLoad

/-- A session with a store that has just been opened for a file. -/
def opened (disk : Disk) (environment : Environment) (path : Path) : ConfigSession :=
  { disk, environment, store := { path } }

/-- The session after some events. -/
def after (session : ConfigSession) (events : List ConfigEvent) : ConfigSession :=
  machine.after session events

/-- The load of the file as it is now, under the variables as they are now. -/
def loadNow (session : ConfigSession) : ConfigLoad where
  outcome := Config.load session.store.path (session.disk.read session.store.path)
  environment := session.environment

/-- The loads of the store in use after an event, the last one first. -/
def loadsAfter (session : ConfigSession) (loads : List ConfigLoad) :
    ConfigEvent → List ConfigLoad
  | .get => if session.store.cached.isNone then session.loadNow :: loads else loads
  | .openRoot _ | .openPath _ | .openEnvironment _ => []
  | _ => loads

/-- The loads of the store in use after some events, the last one first. -/
def loads (session : ConfigSession) (earlier : List ConfigLoad) : List ConfigEvent → List ConfigLoad
  | [] => earlier
  | event :: rest => loads (session.step event).2 (session.loadsAfter earlier event) rest

variable {session : ConfigSession} {earlier : List ConfigLoad}

/-- The loads after one more event. -/
theorem loads_concat (session : ConfigSession) (earlier : List ConfigLoad)
    (events : List ConfigEvent) (event : ConfigEvent) :
    session.loads earlier (events ++ [event]) =
      (session.after events).loadsAfter (session.loads earlier events) event := by
  -- The first event takes both sides to the session and the loads that the others start from.
  induction events generalizing session earlier with
  | nil => rfl
  | cons first events ih => rw [List.cons_append, loads, ih]; rfl

/-- A load finds no file exactly if the path leads nowhere. -/
theorem missing_loadNow_iff :
    session.loadNow.Missing ↔ session.disk.read session.store.path = .error .notFound := by
  -- A file that is there gives a configuration or an error, whatever is in it.
  simp only [Missing, loadNow, Config.load]
  rcases session.disk.read session.store.path with error | bytes
  · cases error <;> simp
  · cases text : Text.exactText? bytes with
    | none => simp [text]
    | some text' => cases found : Config.ofText text' <;> simp [text, found]

/-- A load parses a configuration exactly if the file's bytes are a text of it. -/
theorem parsed?_loadNow_eq_some_iff {config : Config} :
    session.loadNow.parsed? = some config ↔
      ∃ bytes text, session.disk.read session.store.path = .ok bytes ∧
        Text.exactText? bytes = some text ∧ Config.ofText text = .ok config := by
  -- The three ways to fail are a file that cannot be read, bytes that are no text, and a fault.
  simp only [parsed?, loadNow, Config.load]
  rcases session.disk.read session.store.path with error | bytes
  · cases error <;> simp
  · cases text : Text.exactText? bytes with
    | none => simp [text]
    | some text' => cases found : Config.ofText text' <;> simp [text, found]

/-- The store remembers what its loads leave it. -/
def Remembers (session : ConfigSession) (loads : List ConfigLoad) : Prop :=
  session.store.lastGood.getD {} = remembered loads

/-- A file that is read apart from the store leaves the session as it is. -/
@[simp] theorem step_load (session : ConfigSession) (path : Path) :
    (session.step (.load path)).2 = session := by
  -- Neither answer of the read touches the session.
  simp only [step]
  split <;> rfl

/-- What is cached is handed out, and the store stays as it is. -/
theorem step_get_of_cached {config : Config} (cached : session.store.cached = some config) :
    session.step .get = (.config (some config), session) := by
  -- A request looks at the cache first.
  simp [step, ConfigStore.get, cached, answerOf]

/-- Without a cached configuration the file is loaded; a result is cached and remembered, and a
failure leaves the store as it is. -/
theorem get_of_uncached {store : ConfigStore} (uncached : store.cached = none)
    (contents : Except FileError (List UInt8)) (environment : Environment) :
    store.get contents environment =
      match (ConfigLoad.mk (Config.load store.path contents) environment).result
          (store.lastGood.getD {}) with
      | .ok config => (.ok config, { store with cached := some config, lastGood := some config })
      | .error error => (.error error, store) := by
  -- Whatever the file gives, both sides apply the variables to the same configuration.
  simp only [ConfigStore.get, uncached, ConfigStore.fromFile, result, given?]
  rcases Config.load store.path contents with error | (none | config) <;> rfl

/-- A load with a result hands it out, and the store keeps it. -/
theorem step_get_of_result {config : Config} (uncached : session.store.cached = none)
    (loaded : session.loadNow.result (session.store.lastGood.getD {}) = .ok config) :
    session.step .get = (.config (some config),
      { session with store := { session.store with
          cached := some config, lastGood := some config } }) := by
  -- With nothing cached the request is the load, and the store keeps its result twice.
  rw [loadNow] at loaded
  simp only [step, get_of_uncached uncached, loaded]
  rfl

/-- A load without a result fails, and the session stays as it is. -/
theorem step_get_of_failure {error : ConfigError} (uncached : session.store.cached = none)
    (failed : session.loadNow.result (session.store.lastGood.getD {}) = .error error) :
    session.step .get = (.failed error, session) := by
  -- With nothing cached the request is the load, and an error leaves the store unwritten.
  rw [loadNow] at failed
  simp only [step, get_of_uncached uncached, failed]
  rfl

/-- With variables that are unset or known, a load hands out what the store is to remember. -/
theorem step_get_of_valid (remembers : session.Remembers earlier)
    (uncached : session.store.cached = none) (valid : session.environment.Valid) :
    (session.step .get).1 = .config (some (remembered (session.loadNow :: earlier))) := by
  -- The result replaces what was remembered, so it is also what is remembered behind the load.
  have loaded (fallback : Config) : session.loadNow.result fallback =
      .ok (session.environment.override (session.loadNow.given?.getD fallback)) :=
    result_of_valid valid fallback
  rw [step_get_of_result uncached (loaded _), remembers, remembered, loaded]

/-- A step keeps what a store remembers in line with its loads. -/
theorem Remembers.step (remembers : session.Remembers earlier) (event : ConfigEvent) :
    (session.step event).2.Remembers (session.loadsAfter earlier event) := by
  -- Only a load and the opening of another store change what is remembered.
  cases event with
  | get =>
    cases cached : session.store.cached with
    | some config => simpa [step_get_of_cached cached, loadsAfter, cached] using remembers
    | none =>
      rw [loadsAfter, cached, Option.isNone_none, if_pos rfl]
      cases loaded : session.loadNow.result (session.store.lastGood.getD {}) with
      | ok config =>
        -- The store keeps the result, which is what the loads leave it.
        rw [step_get_of_result cached loaded, Remembers, remembered, ← remembers, loaded]
        rfl
      | error error =>
        -- A load that fails counts for nothing.
        rw [step_get_of_failure cached loaded, Remembers, remembered, ← remembers, loaded]
  | openEnvironment root =>
    simp only [ConfigSession.step, loadsAfter, Remembers, ConfigStore.ofEnvironment]
    split <;> rfl
  | openRoot root => rfl
  | openPath path => rfl
  | load path => exact (step_load session path).symm ▸ remembers
  | _ => exact remembers

/-- After every history a store remembers what its loads leave it. -/
theorem remembers_after (disk : Disk) (environment : Environment) (path : Path)
    (events : List ConfigEvent) :
    ((opened disk environment path).after events).Remembers
      ((opened disk environment path).loads [] events) := by
  -- The induction adds one event at the end, and a step keeps the two in line.
  induction events using List.reverseRecOn with
  | nil => rfl
  | append_singleton events event ih =>
    rw [after, machine.after_concat, loads_concat]
    exact ih.step event

end ConfigSession

end TodoMarkers
