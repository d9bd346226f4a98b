import TodoMarkers.Proofs.Config.Loads

/-! The configuration that a store falls back on while no variable is set. -/

namespace TodoMarkers

/-- Neither variable with a value of the configuration is set. -/
def Environment.Bare (environment : Environment) : Prop :=
  environment.displayMode = none ∧ environment.ticketBaseUrl = none

instance (environment : Environment) : Decidable environment.Bare :=
  inferInstanceAs (Decidable (_ ∧ _))

/-- Variables that are unset have no value that is not known. -/
theorem Environment.Bare.valid {environment : Environment} (bare : environment.Bare) :
    environment.Valid := by
  -- Without a display mode there is none to be unknown.
  intro set
  rw [bare.1] at set
  contradiction

namespace ConfigLoad

/-- The configuration that the last load parsed that could parse any, or the defaults. -/
def lastParsed (loads : List ConfigLoad) : Config :=
  (loads.findSome? parsed?).getD {}

/-- The loads since the one that parsed a configuration last. -/
def unparsed (loads : List ConfigLoad) : List ConfigLoad :=
  loads.takeWhile fun load => load.parsed?.isNone

variable {load : ConfigLoad} {loads : List ConfigLoad}

/-- A variable that is never set leaves no value behind. -/
theorem lingering_of_unset {Value : Type} {value? : Environment → Option Value}
    (unset : ∀ load ∈ loads, value? load.environment = none) : lingering value? loads = none := by
  -- Each load either settles the values by its file, or passes the question on.
  induction loads with
  | nil => rfl
  | cons load earlier ih =>
    have before := ih fun other member => unset other (List.mem_cons_of_mem _ member)
    rw [lingering, unset load List.mem_cons_self]
    cases load.given? with
    | none => exact before
    | some _ => rfl

/-- While no variable is set, a store remembers what the last load took that did not fall back. -/
theorem remembered_of_bare (bare : ∀ load ∈ loads, load.environment.Bare) :
    remembered loads = taken loads := by
  -- Neither variable has ever left a value, so the files alone count.
  have noMode : ∀ load ∈ loads, load.environment.mode? = none := fun load member => by
    rw [Environment.mode?, (bare load member).1, Option.bind_none]
  have noAddress : ∀ load ∈ loads, load.environment.address? = none := fun load member => by
    rw [Environment.address?, (bare load member).2, Option.map_none]
  rw [remembered_eq fun load member => (bare load member).valid, modeLeft, addressLeft,
    lingering_of_unset noMode, lingering_of_unset noAddress]
  rfl

/-- A load that parses nothing leaves the configuration that was parsed last. -/
theorem lastParsed_cons (unusable : load.parsed? = none) :
    lastParsed (load :: loads) = lastParsed loads := by
  -- The search passes over a load that gives nothing.
  rw [lastParsed, List.findSome?_cons, unusable, lastParsed]

/-- As long as the file has not been missing since, the last load that did not fall back is the one
that parsed a configuration last. -/
theorem taken_of_present (present : ∀ load ∈ unparsed loads, ¬ load.Missing) :
    taken loads = lastParsed loads := by
  -- Such a load either failed, and both pass it over, or it parsed the configuration.
  induction loads with
  | nil => rfl
  | cons load earlier ih =>
    obtain ⟨outcome, environment⟩ := load
    rcases outcome with error | (missing | config)
    · exact ih fun other member => present other (by simpa [unparsed, parsed?] using .inr member)
    · have none : Missing ⟨.ok none, environment⟩ := rfl
      exact absurd none (present _ (by simp [unparsed, parsed?]))
    · rfl

/-- Once the file has been missing, the last load that did not fall back gave the defaults. -/
theorem taken_of_missing (gone : ∃ load ∈ unparsed loads, load.Missing) : taken loads = {} := by
  -- A load that failed is passed over, and one that parsed a configuration ends the search.
  induction loads with
  | nil => simp [unparsed] at gone
  | cons load earlier ih =>
    obtain ⟨outcome, environment⟩ := load
    rcases outcome with error | (missing | config)
    · exact ih (by simpa [unparsed, parsed?, Missing] using gone)
    · rfl
    · simp [unparsed, parsed?] at gone

/-- The last load that did not fall back is the one that parsed a configuration last, unless the
file has been missing since and that configuration is not the defaults. -/
theorem taken_eq_lastParsed_iff :
    taken loads = lastParsed loads ↔
      lastParsed loads = {} ∨ ∀ load ∈ unparsed loads, ¬ load.Missing := by
  -- Once the file has been missing the defaults are remembered, whatever was parsed before.
  by_cases gone : ∃ load ∈ unparsed loads, load.Missing
  · rw [taken_of_missing gone, eq_comm, or_iff_left (by simpa using gone)]
  · have present : ∀ load ∈ unparsed loads, ¬ load.Missing := by simpa using gone
    exact iff_of_true (taken_of_present present) (.inr present)

end ConfigLoad

namespace ConfigSession

open ConfigLoad

/-- The configuration that a load hands out in any run in which no variable is set at a load.

It is the one that the last load took that did not fall back, this load included, where a missing
file gives the defaults. A file that cannot be used is therefore replaced by the configuration that
was parsed last exactly if the file has not been missing since, or if that configuration is the
defaults in any case. -/
theorem get_of_bare (disk : Disk) (environment : Environment) (path : Path)
    (before rest : List ConfigEvent) :
    let first := opened disk environment path
    let session := first.after before
    let earlier := first.loads [] before
    let now := session.loadNow
    session.store.cached = none → (∀ load ∈ now :: earlier, load.environment.Bare) →
    ∃ config next,
      (first.run (before ++ .get :: rest))[before.length]? = some (.config (some config), next) ∧
      config = taken (now :: earlier) ∧
      (now.parsed? = none → (config = lastParsed earlier ↔
        lastParsed earlier = {} ∨ ∀ load ∈ unparsed (now :: earlier), ¬ load.Missing)) := by
  -- No variable takes part, so what the store remembers is what its last usable load took.
  intro first session earlier now uncached bare
  have remembers : session.Remembers earlier := remembers_after disk environment path before
  have valid : session.environment.Valid := (bare now List.mem_cons_self).valid
  -- The load is remembered as well, so what it hands out is what the store remembers behind it.
  have handed := step_get_of_valid remembers uncached valid
  rw [remembered_of_bare bare] at handed
  refine ⟨taken (now :: earlier), (session.step .get).2, ?_, rfl, ?_⟩
  · rw [run, machine.run_getElem?]
    exact congrArg some (Prod.ext handed rfl)
  · intro unusable
    rw [← lastParsed_cons unusable]
    exact taken_eq_lastParsed_iff

/-- A file that is broken after a load is replaced by the configuration that it held. -/
theorem get_of_bare_broken :
    let good : Node := .file "\x7b\"displayMode\":\"text\"\x7d".toUTF8.toList
    let broken : Node := .file "\x7b broken".toUTF8.toList
    let first := opened ⟨[("todonukem.json", good)]⟩ {} "./todonukem.json"
    ∃ next, (first.run
        [.get, .write [("todonukem.json", some broken)], .invalidate, .get])[3]? =
      some (.config (some { displayMode := .text }), next) := by
  -- The law is applied at the second request, with the broken file on the disk.
  intro good broken first
  -- The broken file gives nothing, so the load before it counts.
  obtain ⟨config, next, handed, same, _⟩ := get_of_bare first.disk {} "./todonukem.json"
    [.get, .write [("todonukem.json", some broken)], .invalidate] [] (by decide +kernel)
    (by decide +kernel)
  have text : config = { displayMode := .text } := same.trans (by decide +kernel)
  exact ⟨next, text ▸ handed⟩

/-- Once the file has been missing, the configuration that was parsed before is lost. -/
theorem get_after_removal :
    let good : Node := .file "\x7b\"displayMode\":\"text\"\x7d".toUTF8.toList
    let first := opened ⟨[("todonukem.json", good)]⟩ {} "./todonukem.json"
    let before : List ConfigEvent := [.get, .write [("todonukem.json", none)], .invalidate]
    let session := first.after before
    let earlier := first.loads [] before
    session.store.cached = none ∧ (∀ load ∈ session.loadNow :: earlier, load.environment.Bare) ∧
      session.loadNow.parsed? = none ∧ lastParsed earlier = { displayMode := .text } ∧
      (session.step .get).1 = .config (some {}) := by
  -- What the store remembers is evaluated over all of its loads.
  intro good first before session earlier
  have remembers : session.Remembers earlier := remembers_after first.disk {} _ before
  have uncached : session.store.cached = none := by decide +kernel
  have bare : ∀ load ∈ session.loadNow :: earlier, load.environment.Bare := by decide +kernel
  -- The missing file counts as one that gives the defaults.
  have defaults : remembered (session.loadNow :: earlier) = {} := by decide +kernel
  refine ⟨uncached, bare, by decide +kernel, by decide +kernel, ?_⟩
  rw [step_get_of_valid remembers uncached (bare _ List.mem_cons_self).valid, defaults]

end ConfigSession

end TodoMarkers
