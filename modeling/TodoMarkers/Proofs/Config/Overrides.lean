import TodoMarkers.Proofs.Config.Loads

/-! What is left of the variables of earlier loads: two runs over the same files, whose variables
differ, and what their loads hand out. -/

namespace TodoMarkers

/-- Two configurations are alike under variables exactly if they agree where none is set. -/
theorem Environment.override_eq_override_iff {environment : Environment} {config other : Config} :
    environment.override config = environment.override other ↔
      (environment.mode?.isSome ∨ config.displayMode = other.displayMode) ∧
      (environment.address?.isSome ∨ config.ticketBaseUrl = other.ticketBaseUrl) ∧
      config.glyphs = other.glyphs := by
  -- A variable that is set hides the difference in its own value, and in no other.
  simp only [override, Config.mk.injEq]
  cases environment.mode? <;> cases environment.address? <;> simp

namespace ConfigEvent

/-- An event that sets variables. -/
def setsVariables : ConfigEvent → Bool
  | .setVariables _ => true
  | _ => false

/-- What happens in a history apart from variables that are set. -/
def withoutVariables (events : List ConfigEvent) : List ConfigEvent :=
  events.filter fun event => !event.setsVariables

end ConfigEvent

namespace ConfigLoad

variable {loads others : List ConfigLoad}

/-- Which configuration was taken last depends on the files alone. -/
theorem taken_of_outcomes (same : loads.map (·.outcome) = others.map (·.outcome)) :
    taken loads = taken others := by
  -- What a load gives can be read off its outcome.
  have byOutcome (loads : List ConfigLoad) : loads.findSome? given? =
      (loads.map (·.outcome)).findSome? fun outcome => given? ⟨outcome, {}⟩ := by
    rw [List.findSome?_map]
    rfl
  rw [taken, byOutcome, same, ← byOutcome, taken]

end ConfigLoad

namespace ConfigSession

open ConfigLoad ConfigEvent

/-- A session and one without variables have come through the same files, with loads at the same
times as long as the variables are unset or known. -/
structure Mirrors (session mirror : ConfigSession) (loads mirrored : List ConfigLoad) : Prop where
  /-- The disks are the same. -/
  disk : session.disk = mirror.disk
  /-- The stores are those of one file. -/
  path : session.store.path = mirror.store.path
  /-- No variable is set in the mirror. -/
  bare : mirror.environment = {}
  /-- Both stores have a cached configuration, or none has. -/
  cached : (∀ load ∈ loads, load.environment.Valid) →
    session.store.cached.isNone = mirror.store.cached.isNone
  /-- The loads found the same. -/
  outcomes : (∀ load ∈ loads, load.environment.Valid) →
    loads.map (·.outcome) = mirrored.map (·.outcome)

variable {session mirror : ConfigSession} {loads mirrored : List ConfigLoad}

/-- The file of a store stays the same when the configuration is asked for. -/
theorem step_get_path (session : ConfigSession) :
    (session.step .get).2.store.path = session.store.path := by
  -- The store is kept as it is, or gets another cached and another remembered configuration.
  simp only [step, ConfigStore.get]
  split
  · rfl
  · split <;> rfl

/-- A load under variables that are unset or known leaves a cached configuration. -/
theorem step_get_cached (valid : session.environment.Valid) :
    (session.step .get).2.store.cached.isNone = false := by
  -- A cached configuration stays, and without one the load has a result to keep.
  cases cached : session.store.cached with
  | some config => rw [step_get_of_cached cached, cached]; rfl
  | none => rw [step_get_of_result cached (result_of_valid valid _)]; rfl

/-- Sessions keep to the same files when the configuration is asked for in both. -/
theorem Mirrors.step_get (mirrors : Mirrors session mirror loads mirrored) :
    Mirrors (session.step .get).2 (mirror.step .get).2 (session.loadsAfter loads .get)
      (mirror.loadsAfter mirrored .get) where
  -- Only what is cached and what was loaded can change at a request.
  disk := mirrors.disk
  path := by rw [step_get_path, step_get_path, mirrors.path]
  bare := mirrors.bare
  cached := by
    -- Behind the step both stores have a cached configuration.
    intro valid
    have unset : mirror.environment.Valid := mirrors.bare ▸ (by decide)
    cases cached : session.store.cached with
    | some config =>
      rw [step_get_of_cached cached, step_get_cached unset, cached]
      rfl
    | none =>
      rw [loadsAfter, cached, Option.isNone_none, if_pos rfl] at valid
      rw [step_get_cached (valid _ List.mem_cons_self), step_get_cached unset]
  outcomes := by
    -- Both stores load or none does, because both had a cached configuration or none had.
    intro valid
    cases cached : session.store.cached with
    | some config =>
      rw [loadsAfter, cached, Option.isNone_some, if_neg Bool.false_ne_true] at valid ⊢
      have both := mirrors.cached valid
      rw [cached, Option.isNone_some] at both
      rw [loadsAfter, ← both, if_neg Bool.false_ne_true]
      exact mirrors.outcomes valid
    | none =>
      rw [loadsAfter, cached, Option.isNone_none, if_pos rfl] at valid ⊢
      have before : ∀ load ∈ loads, load.environment.Valid := fun load member =>
        valid load (List.mem_cons_of_mem _ member)
      have both := mirrors.cached before
      rw [cached, Option.isNone_none] at both
      rw [loadsAfter, ← both, if_pos rfl, List.map_cons, List.map_cons, mirrors.outcomes before]
      simp only [loadNow, mirrors.disk, mirrors.path]

/-- Sessions keep to the same files when one more event happens to both, unless it takes the file
from a variable. -/
theorem Mirrors.step (mirrors : Mirrors session mirror loads mirrored) {event : ConfigEvent}
    (files : event.setsVariables = false) (fixed : ∀ root, event ≠ .openEnvironment root) :
    Mirrors (session.step event).2 (mirror.step event).2 (session.loadsAfter loads event)
      (mirror.loadsAfter mirrored event) := by
  -- Apart from loads, only a change to the disk, another store and an invalidation matter.
  obtain ⟨disk, path, bare, cached, outcomes⟩ := mirrors
  cases event with
  | get => exact Mirrors.step_get ⟨disk, path, bare, cached, outcomes⟩
  | write changes => exact ⟨by simp [ConfigSession.step, disk], path, bare, cached, outcomes⟩
  | setVariables changes => contradiction
  | openRoot root => exact ⟨disk, rfl, bare, fun _ => rfl, fun _ => rfl⟩
  | openPath path => exact ⟨disk, rfl, bare, fun _ => rfl, fun _ => rfl⟩
  | openEnvironment root => exact absurd rfl (fixed root)
  | invalidate => exact ⟨disk, path, bare, fun _ => rfl, outcomes⟩
  | load other =>
    rw [step_load, step_load]
    exact ⟨disk, path, bare, cached, outcomes⟩
  | applyEnvironment config => exact ⟨disk, path, bare, cached, outcomes⟩

/-- A run keeps to the files of the run without its variables. -/
theorem mirrors_after (disk : Disk) (environment : Environment) (path : Path)
    {events : List ConfigEvent} (fixed : ∀ root, .openEnvironment root ∉ events) :
    Mirrors ((opened disk environment path).after events)
      ((opened disk {} path).after (withoutVariables events))
      ((opened disk environment path).loads [] events)
      ((opened disk {} path).loads [] (withoutVariables events)) := by
  -- The induction adds one event at the end, which is left out on the right if it sets variables.
  induction events using List.reverseRecOn with
  | nil => exact ⟨rfl, rfl, rfl, fun _ => rfl, fun _ => rfl⟩
  | append_singleton events event ih =>
    have mirrors := ih fun root member => fixed root (List.mem_append_left _ member)
    have other : ∀ root, event ≠ .openEnvironment root := fun root same =>
      fixed root (by simp [same])
    rw [withoutVariables, List.filter_append, after, machine.after_concat, loads_concat]
    cases sets : event.setsVariables with
    | false =>
      rw [List.filter_cons_of_pos (by simpa using sets), List.filter_nil, after,
        machine.after_concat, loads_concat]
      exact mirrors.step sets other
    | true =>
      rw [List.filter_cons_of_neg (by simpa using sets), List.filter_nil, List.append_nil]
      cases event with
      | setVariables changes =>
        exact ⟨mirrors.disk, mirrors.path, mirrors.bare, mirrors.cached, mirrors.outcomes⟩
      | _ => contradiction

/-- Two runs over the same files load the same configurations at the same times, as long as the
variables are unset or known at every load. -/
theorem loads_of_same_files (disk : Disk) (path : Path) {one other : Environment}
    {events others : List ConfigEvent} (same : withoutVariables events = withoutVariables others)
    (fixed : ∀ root, .openEnvironment root ∉ events)
    (valid : ∀ load ∈ (opened disk one path).loads [] events, load.environment.Valid)
    (otherValid : ∀ load ∈ (opened disk other path).loads [] others, load.environment.Valid) :
    let session := (opened disk one path).after events
    let second := (opened disk other path).after others
    session.disk = second.disk ∧ session.store.path = second.store.path ∧
      session.store.cached.isNone = second.store.cached.isNone ∧
      ((opened disk one path).loads [] events).map (·.outcome) =
        ((opened disk other path).loads [] others).map (·.outcome) := by
  -- Both runs are compared with the one that has their events without the variables.
  have otherFixed : ∀ root, .openEnvironment root ∉ others := by
    intro root member
    have kept : .openEnvironment root ∈ withoutVariables others :=
      List.mem_filter.2 ⟨member, rfl⟩
    rw [← same] at kept
    exact fixed root (List.mem_filter.1 kept).1
  have mirrors := mirrors_after disk one path fixed
  have otherMirrors := mirrors_after disk other path otherFixed
  rw [← same] at otherMirrors
  exact ⟨mirrors.disk.trans otherMirrors.disk.symm, mirrors.path.trans otherMirrors.path.symm,
    (mirrors.cached valid).trans (otherMirrors.cached otherValid).symm,
    (mirrors.outcomes valid).trans (otherMirrors.outcomes otherValid).symm⟩

/-- Two loads of one file under the same variables answer alike exactly if a variable has a value
that is not known, the file can be used, or the stores remember the same where no variable is
set. -/
theorem step_get_eq_iff {second : ConfigSession} {others : List ConfigLoad}
    (remembers : session.Remembers loads) (otherRemembers : second.Remembers others)
    (uncached : session.store.cached = none) (otherUncached : second.store.cached = none)
    (same : session.loadNow = second.loadNow) :
    (session.step .get).1 = (second.step .get).1 ↔
      ¬ session.environment.Valid ∨ session.loadNow.given?.isSome ∨
      session.environment.override (remembered loads) =
        session.environment.override (remembered others) := by
  -- An unknown value fails both requests, and else each is its store's last outcome.
  have environment : session.environment = second.environment :=
    congrArg ConfigLoad.environment same
  by_cases valid : session.environment.Valid
  · -- A usable file settles the answer; else it rests on what each store remembers.
    rw [step_get_of_valid remembers uncached valid,
      step_get_of_valid otherRemembers otherUncached (environment ▸ valid), ← same]
    simp only [remembered, result_of_valid (show session.loadNow.environment.Valid from valid),
      ConfigAnswer.config.injEq, Option.some.injEq, valid, not_true_eq_false, false_or]
    cases session.loadNow.given? with
    | none => simp [loadNow]
    | some config => simp
  · -- The same value is reported by both.
    obtain ⟨error, fails⟩ := Environment.applyEnvironment_of_invalid valid
    have failed (fallback : Config) : session.loadNow.result fallback = .error error := fails _
    rw [step_get_of_failure uncached (failed _),
      step_get_of_failure otherUncached (same ▸ failed _)]
    exact iff_of_true rfl (.inl valid)

/-- What is left of earlier variables when the file of a store is loaded in any run, and what
becomes of it in another run over the same files.

A value that is not set now is the one that variables had when they were set last, unless a later
load did not fall back on it. Another run under the same variables loads at the same time, and
answers alike exactly if the file can be used, or if what is not set now has been left alike by the
earlier loads of both. -/
theorem get_of_same_files (disk : Disk) (path : Path) (one other : Environment)
    (before others rest : List ConfigEvent) :
    let first := opened disk one path
    let session := first.after before
    let earlier := first.loads [] before
    let now := session.loadNow
    let second := (opened disk other path).after others
    let otherEarlier := (opened disk other path).loads [] others
    withoutVariables before = withoutVariables others →
    (∀ root, .openEnvironment root ∉ before) →
    (∀ load ∈ earlier ++ otherEarlier, load.environment.Valid) →
    session.environment = second.environment →
    session.store.cached = none →
    (first.run (before ++ .get :: rest))[before.length]? = some (session.step .get) ∧
      (now.environment.Valid → (session.step .get).1 = .config (some
        { displayMode := modeLeft (now :: earlier)
          ticketBaseUrl := addressLeft (now :: earlier)
          glyphs := (taken (now :: earlier)).glyphs })) ∧
      second.store.cached = none ∧ second.loadNow = now ∧
      ((session.step .get).1 = (second.step .get).1 ↔
        ¬ now.environment.Valid ∨ now.given?.isSome ∨
        (now.environment.mode?.isSome ∨ modeLeft earlier = modeLeft otherEarlier) ∧
        (now.environment.address?.isSome ∨ addressLeft earlier = addressLeft otherEarlier)) := by
  intro first session earlier now second otherEarlier same fixed valid current uncached
  -- The two sessions differ in what their stores remember, and in nothing else that counts.
  have own : ∀ load ∈ earlier, load.environment.Valid := fun load member =>
    valid load (List.mem_append_left _ member)
  have its : ∀ load ∈ otherEarlier, load.environment.Valid := fun load member =>
    valid load (List.mem_append_right _ member)
  have remembers : session.Remembers earlier := remembers_after disk one path before
  have otherRemembers : second.Remembers otherEarlier := remembers_after disk other path others
  obtain ⟨disks, paths, cached, outcomes⟩ := loads_of_same_files disk path same fixed own its
  have otherUncached : second.store.cached = none := by
    rw [← Option.isNone_iff_eq_none, ← cached, uncached, Option.isNone_none]
  have sameLoad : now = second.loadNow := by
    simp only [now, loadNow]
    rw [disks, paths, current]
  refine ⟨machine.run_getElem? first before .get rest, ?_, otherUncached, sameLoad.symm, ?_⟩
  · intro known
    rw [step_get_of_valid remembers uncached known, remembered_eq]
    exact fun load member => (List.mem_cons.1 member).elim (fun same => same ▸ known) (own load)
  · -- The glyphs are those of the files, which no variable replaces.
    have usual : taken earlier = taken otherEarlier := taken_of_outcomes outcomes
    rw [step_get_eq_iff remembers otherRemembers uncached otherUncached sameLoad,
      Environment.override_eq_override_iff, remembered_eq own, remembered_eq its, usual, eq_self,
      and_true]
    exact Iff.rfl

/-- A variable that is set at an earlier load does not matter once the file has been replaced. -/
theorem get_of_same_files_replaced :
    let good : Node := .file "\x7b\"displayMode\":\"text\"\x7d".toUTF8.toList
    let disk : Disk := ⟨[("todonukem.json", good)]⟩
    let file := "./todonukem.json"
    let set : ConfigEvent := .setVariables [(Environment.displayModeName, some "emoji-text")]
    let unset : ConfigEvent := .setVariables [(Environment.displayModeName, none)]
    let replace : ConfigEvent := .write [("todonukem.json", some (.file "\x7b\x7d".toUTF8.toList))]
    (((opened disk {} file).after [set, .get, unset, replace, .invalidate]).step .get).1 =
      (((opened disk {} file).after [.get, replace, .invalidate]).step .get).1 := by
  -- The new file can be used, which is one of the conditions of the law.
  intro good disk file set unset replace
  obtain ⟨_, _, _, _, alike⟩ := get_of_same_files disk file {} {}
    [set, .get, unset, replace, .invalidate] [.get, replace, .invalidate] [] rfl (by simp)
    (by decide +kernel) (by decide +kernel) (by decide +kernel)
  exact alike.2 (.inr (.inl (by decide +kernel)))

/-- A variable that is set at an earlier load reappears as a value of the file that it replaced. -/
theorem get_after_override :
    let good : Node := .file "\x7b\"displayMode\":\"text\"\x7d".toUTF8.toList
    let first := opened ⟨[("todonukem.json", good)]⟩ {} "./todonukem.json"
    let set : ConfigEvent := .setVariables [(Environment.displayModeName, some "emoji-text")]
    let unset : ConfigEvent := .setVariables [(Environment.displayModeName, none)]
    let spoil : ConfigEvent := .write [("todonukem.json", some (.file "\x7b broken".toUTF8.toList))]
    let before := [set, .get, unset, spoil, .invalidate]
    let others := [.get, spoil, .invalidate]
    let session := first.after before
    let second := first.after others
    withoutVariables before = withoutVariables others ∧
      (∀ load ∈ session.loadNow :: first.loads [] before ++ first.loads [] others,
        load.environment.Valid ∧ ¬ load.Missing) ∧
      session.environment = {} ∧ second.environment = {} ∧
      session.store.cached = none ∧ second.store.cached = none ∧
      (session.step .get).1 = .config (some { displayMode := .emojiText }) ∧
      (second.step .get).1 = .config (some { displayMode := .text }) := by
  -- Both runs are evaluated to what their stores remember at the request.
  intro good first set unset spoil before others session second
  have remembers : session.Remembers (first.loads [] before) :=
    remembers_after first.disk {} _ before
  have otherRemembers : second.Remembers (first.loads [] others) :=
    remembers_after first.disk {} _ others
  have uncached : session.store.cached = none := by decide +kernel
  have otherUncached : second.store.cached = none := by decide +kernel
  -- The broken file gives nothing in either run, so what is remembered comes out.
  have left : remembered (session.loadNow :: first.loads [] before) =
      { displayMode := .emojiText } := by decide +kernel
  have otherLeft : remembered (second.loadNow :: first.loads [] others) =
      { displayMode := .text } := by decide +kernel
  refine ⟨rfl, ?_, by decide +kernel, by decide +kernel, uncached, otherUncached, ?_, ?_⟩
  · decide +kernel
  · rw [step_get_of_valid remembers uncached (by decide +kernel), left]
  · rw [step_get_of_valid otherRemembers otherUncached (by decide +kernel), otherLeft]

end ConfigSession

end TodoMarkers
