import Mathlib.Logic.Function.Iterate
import TodoMarkers.Proofs.Workspace.Order
import TodoMarkers.Workspace.Explore

/-! The loop over a stack of visits does what the recursion over directories does: it ends if and
only if the recursion does, with the same records and the same visits in the same order. -/

namespace TodoMarkers

open Scan

namespace Workspace

variable {workspace : Workspace} {grammar : Grammar} {options : ScanOptions} {depth : Nat}
  {found : Scan} {path : Path} {stack visits left later gone : List Visit}

section Recursion

/-- What a visit and everything below it finds. -/
def exploreVisit (workspace : Workspace) (grammar : Grammar) (options : ScanOptions) (depth : Nat) :
    Visit → Option Scan
  | .directory path => workspace.explore grammar options depth path
  | .file path => some (workspace.exploreFile grammar path)

/-- What some visits and everything below them find. -/
def exploreAll (workspace : Workspace) (grammar : Grammar) (options : ScanOptions) (depth : Nat)
    (visits : List Visit) : Option Scan :=
  inTurn (visits.map (workspace.exploreVisit grammar options depth))

/-- The first visit comes before the others, and all of them have to be there. -/
theorem exploreAll_cons_eq_some_iff {visit : Visit} {rest : List Visit} :
    workspace.exploreAll grammar options depth (visit :: rest) = some found ↔
      ∃ first later, workspace.exploreVisit grammar options depth visit = some first ∧
        workspace.exploreAll grammar options depth rest = some later ∧
          first.andThen later = found := by
  -- The results are joined from the front, and one that is missing is missing for all.
  rw [exploreAll, exploreAll, List.map_cons]
  cases workspace.exploreVisit grammar options depth visit with
  | none => simp [inTurn]
  | some first => simp [inTurn]

/-- One visit by itself finds what it finds among others. -/
theorem exploreAll_singleton (visit : Visit) :
    workspace.exploreAll grammar options depth [visit] =
      workspace.exploreVisit grammar options depth visit := by
  -- Nothing is joined to the only result.
  rw [exploreAll, List.map_singleton]
  cases workspace.exploreVisit grammar options depth visit with
  | none => rfl
  | some first => simp [inTurn, andThen, nothing]

/-- An entry adds what its visit finds, and nothing if the traversal passes over it. -/
theorem exploreEntry_eq (entry : Entry) :
    exploreEntry (workspace.explore grammar options depth) workspace grammar options path entry =
      match visitOf? options path entry with
      | some visit => workspace.exploreVisit grammar options depth visit
      | none => some nothing := by
  -- Each kind of entry is settled by a flag of its own.
  -- Both definitions ask for the kind first, and then for the one setting that matters to it.
  rw [exploreEntry, visitOf?]
  cases entry.kind with
  | directory => cases options.ignores entry.name <;> rfl
  | file => cases options.includes entry.name <;> rfl
  | other => rfl

/-- The entries that the traversal passes over add nothing. -/
theorem inTurn_entries (entries : List Entry) : inTurn (entries.map
    (exploreEntry (workspace.explore grammar options depth) workspace grammar options path)) =
      workspace.exploreAll grammar options depth (entries.filterMap (visitOf? options path)) := by
  -- Induction on the entries, each of which adds one visit or none.
  induction entries with
  | nil => rfl
  | cons entry rest ih =>
    rw [List.map_cons, exploreEntry_eq]
    cases one : visitOf? options path entry with
    | none =>
      -- Nothing stands in front of the rest.
      rw [List.filterMap_cons_none one, inTurn, ih]
      exact congrFun Option.map_id_fun _
    | some visit =>
      rw [List.filterMap_cons_some one, exploreAll, List.map_cons]
      dsimp only
      cases workspace.exploreVisit grammar options depth visit with
      | none => rfl
      | some first => rw [inTurn, ih, inTurn, exploreAll]

/-- A directory comes before the visits that it leads to. -/
theorem explore_succ : workspace.explore grammar options (depth + 1) path =
    (workspace.exploreAll grammar options depth (workspace.opened options (.directory path))).map
      fun found => ⟨found.records, .directory path :: found.visits⟩ := by
  -- A directory that cannot be listed leads to nothing.
  rw [explore, opened]
  cases workspace.list? path with
  | none => rfl
  | some entries => simp only [inTurn_entries]

/-- What the recursion finds has a property that its four cases preserve. -/
theorem explored_induction {P : Nat → List Visit → Scan → Prop}
    (nil : ∀ depth, P depth [] nothing)
    (cons : ∀ depth visit rest first later, P depth [visit] first → P depth rest later →
      P depth (visit :: rest) (first.andThen later))
    (file : ∀ depth path, P depth [.file path] (workspace.exploreFile grammar path))
    (directory : ∀ depth path found,
      workspace.exploreAll grammar options depth (workspace.opened options (.directory path)) =
        some found →
      P depth (workspace.opened options (.directory path)) found →
      P (depth + 1) [.directory path] ⟨found.records, .directory path :: found.visits⟩)
    (explored : workspace.exploreAll grammar options depth visits = some found) :
    P depth visits found := by
  -- The outer induction is on how deep directories lie, the inner one on the visits side by side.
  induction depth generalizing visits found with
  | zero =>
    induction visits generalizing found with
    | nil => exact Option.some.inj explored ▸ nil 0
    | cons visit rest ih =>
      obtain ⟨first, later, one, others, rfl⟩ := exploreAll_cons_eq_some_iff.1 explored
      refine cons 0 visit rest first later ?_ (ih others)
      cases visit with
      | directory path => simp [exploreVisit, explore] at one
      | file path => exact Option.some.inj one ▸ file 0 path
  | succ depth deeper =>
    induction visits generalizing found with
    | nil => exact Option.some.inj explored ▸ nil (depth + 1)
    | cons visit rest ih =>
      obtain ⟨first, later, one, others, rfl⟩ := exploreAll_cons_eq_some_iff.1 explored
      refine cons (depth + 1) visit rest first later ?_ (ih others)
      cases visit with
      | directory path =>
        rw [exploreVisit, explore_succ, Option.map_eq_some_iff] at one
        obtain ⟨inner, below, rfl⟩ := one
        exact directory depth path inner below (deeper below)
      | file path => exact Option.some.inj one ▸ file (depth + 1) path

/-- A file is asked for once, also where it cannot be read. -/
@[simp] theorem visits_exploreFile (path : Path) :
    (workspace.exploreFile grammar path).visits = [.file path] := by
  -- Whether the file can be read matters to the records only.
  rw [exploreFile]
  cases workspace.read? path <;> rfl

/-- What a file adds is what its visit finds. -/
@[simp] theorem records_exploreFile (path : Path) :
    (workspace.exploreFile grammar path).records = workspace.recordsAt grammar (.file path) := by
  -- Both look at what can be read of the file.
  rw [exploreFile, recordsAt]
  cases workspace.read? path <;> rfl

/-- The recursion finds what its visits find one after the other. -/
theorem records_eq_flatMap
    (explored : workspace.exploreAll grammar options depth visits = some found) :
    found.records = found.visits.flatMap (workspace.recordsAt grammar) := by
  -- Induction along the recursion: the records are found in the order of the visits.
  refine explored_induction (P := fun _ _ found =>
    found.records = found.visits.flatMap (workspace.recordsAt grammar)) ?_ ?_ ?_ ?_ explored
  · intro depth
    rfl
  · intro depth visit rest first later one others
    rw [andThen, List.flatMap_append, one, others]
  · intro depth path
    simp
  · intro depth path found _ below
    -- A directory adds no record of its own.
    rw [List.flatMap_cons, recordsAt, List.nil_append, below]

/-- A larger bound on how deep directories lie changes nothing that is found. -/
theorem exploreAll_deeper {more : Nat} (deeper : depth ≤ more)
    (explored : workspace.exploreAll grammar options depth visits = some found) :
    workspace.exploreAll grammar options more visits = some found := by
  -- A bound that is too small finds nothing at all, so what has been found stays.
  refine explored_induction (P := fun depth visits found => ∀ more, depth ≤ more →
    workspace.exploreAll grammar options more visits = some found) ?_ ?_ ?_ ?_ explored more deeper
  · intro depth more deeper
    rfl
  · intro depth visit rest first later one others more deeper
    have here := one more deeper
    rw [exploreAll_singleton] at here
    exact exploreAll_cons_eq_some_iff.2 ⟨first, later, here, others more deeper, rfl⟩
  · intro depth path more deeper
    rw [exploreAll_singleton, exploreVisit]
  · intro depth path found _ below more deeper
    obtain ⟨more, rfl⟩ : ∃ less, more = less + 1 := ⟨more - 1, by omega⟩
    rw [exploreAll_singleton, exploreVisit, explore_succ, below more (by omega), Option.map_some]

end Recursion

section Loop

/-- A number of steps makes some visits and leaves a stack. -/
def Performs (workspace : Workspace) (options : ScanOptions) (stack visits left : List Visit) :
    Prop :=
  workspace.trace options visits.length stack = visits ∧
    (workspace.step options)^[visits.length] stack = left

/-- An empty stack stays empty. -/
theorem iterate_step_nil (steps : Nat) : (workspace.step options)^[steps] [] = [] :=
  -- The empty stack is a fixed point of the step.
  Function.iterate_fixed rfl steps

/-- Nothing is visited from an empty stack. -/
theorem trace_nil (steps : Nat) : workspace.trace options steps [] = [] := by
  -- A trace goes on only as long as there is a visit on top.
  cases steps <;> rfl

/-- The visits of some steps are followed by those of the steps after them. -/
theorem trace_add (steps more : Nat) (stack : List Visit) :
    workspace.trace options (steps + more) stack =
      workspace.trace options steps stack ++
        workspace.trace options more ((workspace.step options)^[steps] stack) := by
  -- Each step takes both sides on to the stack that it leaves.
  induction steps generalizing stack with
  | zero => simp [trace]
  | succ steps ih =>
    cases stack with
    | nil => simp [trace_nil, iterate_step_nil]
    | cons visit rest =>
      rw [Nat.add_right_comm]
      simp [trace, ih, step]

/-- The empty number of steps makes no visit. -/
theorem Performs.refl (stack : List Visit) : workspace.Performs options stack [] stack :=
  -- Neither the stack nor the trace changes in no steps.
  ⟨rfl, rfl⟩

/-- What leads from one stack to the next leads on to the one after it. -/
theorem Performs.trans (first : workspace.Performs options stack visits left)
    (next : workspace.Performs options left later gone) :
    workspace.Performs options stack (visits ++ later) gone := by
  -- The numbers of steps add up, and so do the traces.
  obtain ⟨made, rfl⟩ := first
  obtain ⟨others, rfl⟩ := next
  constructor
  · rw [List.length_append, trace_add, made, others]
  · rw [List.length_append, Nat.add_comm, Function.iterate_add_apply]

/-- One step makes the visit on top of the stack. -/
theorem performs_one (visit : Visit) (rest : List Visit) :
    workspace.Performs options (visit :: rest) [visit] (workspace.opened options visit ++ rest) :=
  -- One step takes the visit on top and puts what it leads to in its place.
  ⟨rfl, rfl⟩

/-- The loop takes visits from the stack by making, in order, the visits of the recursion. -/
theorem performs_visits (explored : workspace.exploreAll grammar options depth visits = some found)
    (rest : List Visit) : workspace.Performs options (visits ++ rest) found.visits rest := by
  -- What lies below on the stack is left alone, so it stays arbitrary in the induction.
  refine explored_induction (P := fun _ visits found => ∀ rest,
    workspace.Performs options (visits ++ rest) found.visits rest) ?_ ?_ ?_ ?_ explored rest
  · intro depth rest
    exact .refl rest
  · intro depth visit others first later one remaining rest
    exact (one (others ++ rest)).trans (remaining rest)
  · intro depth path rest
    rw [visits_exploreFile]
    exact performs_one (.file path) rest
  · intro depth path found _ below rest
    -- The first step puts on the stack what the recursion turns to.
    exact (performs_one (.directory path) rest).trans (below rest)

/-- With steps enough the loop makes the visits of the recursion and no other ones. -/
theorem trace_eq_visits (explored : workspace.exploreAll grammar options depth stack = some found)
    {limit : Nat} (enough : found.visits.length ≤ limit) :
    workspace.trace options limit stack = found.visits := by
  -- Behind these visits the stack is empty, and more steps add nothing.
  have performed := performs_visits explored []
  rw [List.append_nil] at performed
  rw [← Nat.add_sub_cancel' enough, trace_add, performed.1, performed.2, trace_nil,
    List.append_nil]

/-- If each of some visits finds something, all of them do. -/
theorem exists_exploreAll
    (each : ∀ visit ∈ visits, ∃ found,
      workspace.exploreVisit grammar options depth visit = some found) :
    ∃ found, workspace.exploreAll grammar options depth visits = some found := by
  -- Induction on the visits, since the results are joined one by one.
  induction visits with
  | nil => exact ⟨nothing, rfl⟩
  | cons visit rest ih =>
    obtain ⟨first, one⟩ := each visit (by simp)
    obtain ⟨later, others⟩ := ih fun other member => each other (List.mem_cons_of_mem _ member)
    exact ⟨_, exploreAll_cons_eq_some_iff.2 ⟨first, later, one, others, rfl⟩⟩

/-- Where the loop ends, directories lie no deeper than it has taken steps. -/
theorem exists_exploreVisit_of_ends {steps : Nat}
    (ends : (workspace.step options)^[steps] stack = []) :
    ∀ visit ∈ stack, ∃ found,
      workspace.exploreVisit grammar options steps visit = some found := by
  -- A step takes the top of the stack away, and leaves fewer steps for what it leads to.
  induction steps generalizing stack with
  | zero =>
    obtain rfl : stack = [] := ends
    simp
  | succ steps ih =>
    cases stack with
    | nil => simp
    | cons top rest =>
      have after := ih ends
      intro visit member
      rcases List.mem_cons.1 member with rfl | member
      · -- What the top leads to is on the stack after the step.
        cases visit with
        | directory path =>
          have inside : ∃ inner, workspace.exploreAll grammar options steps
              (workspace.opened options (.directory path)) = some inner :=
            exists_exploreAll fun visit member => after visit (List.mem_append_left rest member)
          obtain ⟨inner, below⟩ := inside
          rw [exploreVisit, explore_succ, below]
          exact ⟨_, rfl⟩
        | file path => exact ⟨_, rfl⟩
      · -- The rest is still on the stack.
        obtain ⟨found, explored⟩ := after visit (List.mem_append_right _ member)
        rw [← exploreAll_singleton] at explored
        exact ⟨found, by rw [← exploreAll_singleton, exploreAll_deeper (by omega) explored]⟩

end Loop

end Workspace

end TodoMarkers
