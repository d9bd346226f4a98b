import Mathlib.Data.List.Induction
import TodoMarkers.Index.Session

/-! What a history of events says about refreshes, whatever the index makes of it: when nothing is
pending, which refresh completes with an event, and what the one that completed last has found. -/

namespace TodoMarkers

/-- The files after some changes to directories and to files. -/
def FileTree.written (tree : FileTree) (directories : List (Path × Option (List Entry)))
    (files : List (Path × Option String)) : FileTree :=
  files.foldl (fun tree change => tree.withFile change.1 change.2)
    (directories.foldl (fun tree change => tree.withDirectory change.1 change.2) tree)

namespace IndexEvent

/-- An event that ends a pending refresh. -/
def Ends : IndexEvent → Prop
  | finish | abandon => True
  | _ => False

/-- An event that is about refreshes alone. -/
def Refreshes : IndexEvent → Prop
  | refresh | start | finish | abandon => True
  | _ => False

/-- What ends a refresh is about refreshes alone. -/
theorem Ends.refreshes {event : IndexEvent} (ends : event.Ends) : event.Refreshes := by
  -- Only the two events that end a refresh are left.
  cases event with
  | finish | abandon => trivial
  | _ => contradiction

/-- A snapshot is not put aside by an event that is about refreshes. -/
theorem Refreshes.ne_hold {event : IndexEvent} (refreshes : event.Refreshes) : event ≠ hold := by
  -- Putting aside is not among the events about refreshes.
  rintro rfl
  exact refreshes

/-- The files after an event. -/
def filesAfter (tree : FileTree) : IndexEvent → FileTree
  | write directories files => tree.written directories files
  | _ => tree

/-- The grammar in force after an event. -/
def grammarAfter (grammar : Grammar) : IndexEvent → Grammar
  | setGrammar next => next
  | _ => grammar

end IndexEvent

namespace IndexHistory

open IndexEvent

/-- The files after a history. -/
def filesAt (first : FileTree) (events : List IndexEvent) : FileTree :=
  events.foldl filesAfter first

/-- The grammar in force after a history. -/
def grammarAt (first : Grammar) (events : List IndexEvent) : Grammar :=
  events.foldl grammarAfter first

/-- No refresh is pending: none of those that begin here has a root to wait for, or each of them has
been ended. -/
def Idle (options : ScanOptions) (events : List IndexEvent) : Prop :=
  -- An attempt that is refused stands behind one that is pending, and both end together.
  options.roots ≠ [] → ∀ before later, events = before ++ .start :: later →
    ∃ event ∈ later, event.Ends

/-- The refresh that began behind some of the events is pending. -/
def Pending (options : ScanOptions) (events began : List IndexEvent) : Prop :=
  options.roots ≠ [] ∧ Idle options began ∧
    ∃ later, events = began ++ .start :: later ∧ ∀ event ∈ later, ¬ event.Ends

/-- The next event completes the refresh that began behind some of the events. -/
def Completes (options : ScanOptions) (events : List IndexEvent) (event : IndexEvent)
    (began : List IndexEvent) : Prop :=
  -- What begins while another refresh is pending is refused, and never completes.
  match event with
  | .refresh => Idle options events ∧ began = events
  | .start => Idle options events ∧ options.roots = [] ∧ began = events
  | .finish => Pending options events began
  | _ => False

/-- None of the later events completes a refresh. -/
def Quiet (options : ScanOptions) (events later : List IndexEvent) : Prop :=
  ∀ middle event rest, later = middle ++ event :: rest →
    ∀ began, ¬ Completes options (events ++ middle) event began

/-- The records that an index is to show after a history: none before a refresh has completed, and
those of the refresh that completed last from then on, which scans the files as they are when it
completes under the grammar in force when it began. -/
def Shows (firstTree : FileTree) (firstGrammar : Grammar) (options : ScanOptions)
    (events : List IndexEvent) (records : List MarkerRecord) : Prop :=
  (Quiet options [] events ∧ records = []) ∨
  ∃ read event later began, events = read ++ event :: later ∧
    Completes options read event began ∧ Quiet options (read ++ [event]) later ∧
    records =
      ((filesAt firstTree read).workspace.scan (grammarAt firstGrammar began) options).records

/-- The records that were put aside last in a history, as the index showed them then. -/
def Held (firstTree : FileTree) (firstGrammar : Grammar) (options : ScanOptions)
    (events : List IndexEvent) (records : List MarkerRecord) : Prop :=
  (.hold ∉ events ∧ records = []) ∨
  ∃ before later, events = before ++ .hold :: later ∧ .hold ∉ later ∧
    Shows firstTree firstGrammar options before records

variable {options : ScanOptions} {events began : List IndexEvent} {event : IndexEvent}

/-- The last event stands in the last place, or it comes after the place of another. -/
theorem snoc_eq_append_cons_iff {read later : List IndexEvent} {other : IndexEvent} :
    events ++ [event] = read ++ other :: later ↔
      (later = [] ∧ events = read ∧ event = other) ∨
      ∃ rest, later = rest ++ [event] ∧ events = read ++ other :: rest := by
  -- The two cases are those of an empty and of a longer rest.
  constructor
  · intro whole
    rcases List.eq_nil_or_concat later with rfl | ⟨rest, last, rfl⟩
    · obtain ⟨same, last⟩ := List.append_inj' whole rfl
      exact .inl ⟨rfl, same, by simpa using last⟩
    · rw [List.concat_eq_append, ← List.cons_append, ← List.append_assoc] at whole
      obtain ⟨same, ending⟩ := List.append_inj' whole rfl
      obtain rfl : event = last := by simpa using ending
      exact .inr ⟨rest, List.concat_eq_append, same⟩
  · intro place
    rcases place with ⟨rfl, rfl, rfl⟩ | ⟨rest, rfl, rfl⟩
    · rfl
    · simp

/-- The files after one more event. -/
@[simp] theorem filesAt_snoc (first : FileTree) :
    filesAt first (events ++ [event]) = event.filesAfter (filesAt first events) := by
  -- A history is folded from its beginning, so the last event acts last.
  rw [filesAt, List.foldl_append, List.foldl_cons, List.foldl_nil, filesAt]

/-- The grammar in force after one more event. -/
@[simp] theorem grammarAt_snoc (first : Grammar) :
    grammarAt first (events ++ [event]) = event.grammarAfter (grammarAt first events) := by
  -- The fold over the history treats the last event last.
  rw [grammarAt, List.foldl_append, List.foldl_cons, List.foldl_nil, grammarAt]

/-- An event that is about refreshes leaves the files alone. -/
theorem filesAt_of_refreshes (refreshes : event.Refreshes) (first : FileTree) :
    filesAt first (events ++ [event]) = filesAt first events := by
  -- None of the four events about refreshes writes a file.
  rw [filesAt_snoc]
  cases event with
  | refresh | start | finish | abandon => rfl
  | _ => contradiction

/-- An event that is about refreshes leaves the grammar in force. -/
theorem grammarAt_of_refreshes (refreshes : event.Refreshes) (first : Grammar) :
    grammarAt first (events ++ [event]) = grammarAt first events := by
  -- None of the four events about refreshes sets a grammar.
  rw [grammarAt_snoc]
  cases event with
  | refresh | start | finish | abandon => rfl
  | _ => contradiction

/-- Before anything happens, nothing is pending. -/
theorem idle_nil : Idle options [] := by
  -- An empty history holds no beginning.
  intro _ before later whole
  simp at whole

/-- After an event that ends a refresh, nothing is pending. -/
theorem idle_of_ends (ends : event.Ends) : Idle options (events ++ [event]) := by
  -- The last event ends whatever began before it.
  intro _ before later whole
  rcases snoc_eq_append_cons_iff.1 whole with ⟨_, _, rfl⟩ | ⟨rest, rfl, _⟩
  · contradiction
  · exact ⟨event, by simp, ends⟩

/-- Nothing gets pending through an event that begins no refresh. -/
theorem Idle.snoc (idle : Idle options events) (other : options.roots ≠ [] → event ≠ .start) :
    Idle options (events ++ [event]) := by
  -- Every beginning is an earlier one, which has been ended already.
  intro roots before later whole
  rcases snoc_eq_append_cons_iff.1 whole with ⟨_, _, same⟩ | ⟨rest, rfl, same⟩
  · exact absurd same (other roots)
  · obtain ⟨ending, member, ends⟩ := idle roots before rest same
    exact ⟨ending, List.mem_append_left _ member, ends⟩

/-- A refresh with roots that begins while nothing is pending becomes pending. -/
theorem Idle.pending (idle : Idle options events) (roots : options.roots ≠ []) :
    Pending options (events ++ [.start]) events :=
  -- Nothing follows the beginning that could end it.
  ⟨roots, idle, [], rfl, by simp⟩

/-- A pending refresh stays so until it is ended. -/
theorem Pending.snoc (pending : Pending options events began) (open_ : ¬ event.Ends) :
    Pending options (events ++ [event]) began := by
  -- The new event is one more that does not end the refresh.
  obtain ⟨roots, idle, later, rfl, before⟩ := pending
  refine ⟨roots, idle, later ++ [event], by simp, fun other member => ?_⟩
  rcases List.mem_append.1 member with early | last
  · exact before other early
  · obtain rfl := List.mem_singleton.1 last
    exact open_

/-- A pending refresh has begun and has not been ended. -/
theorem Pending.not_idle (pending : Pending options events began) : ¬ Idle options events := by
  -- Idleness would give an end after the beginning, and there is none.
  intro idle
  obtain ⟨roots, _, later, whole, before⟩ := pending
  obtain ⟨ending, member, ends⟩ := idle roots began later whole
  exact before ending member ends

/-- At most one refresh is pending. -/
theorem Pending.unique {other : List IndexEvent} (pending : Pending options events began)
    (again : Pending options events other) : began = other := by
  obtain ⟨roots, idle, later, whole, before⟩ := pending
  obtain ⟨_, otherIdle, otherLater, otherWhole, otherBefore⟩ := again
  -- If one had begun before the other, it would have been ended in between.
  rw [whole] at otherWhole
  rcases List.append_eq_append_iff.1 otherWhole with ⟨more, same, starts⟩ | ⟨more, same, starts⟩
  · cases more with
    | nil => simpa using same.symm
    | cons first more =>
      rw [List.cons_append, List.cons.injEq] at starts
      obtain ⟨rfl, rest⟩ := starts
      obtain ⟨ending, member, ends⟩ := otherIdle roots began more same
      exact absurd ends (before ending (rest ▸ List.mem_append_left _ member))
  · cases more with
    | nil => simpa using same
    | cons first more =>
      rw [List.cons_append, List.cons.injEq] at starts
      obtain ⟨rfl, rest⟩ := starts
      obtain ⟨ending, member, ends⟩ := idle roots other more same
      exact absurd ends (otherBefore ending (rest ▸ List.mem_append_left _ member))

/-- An event completes at most one refresh. -/
theorem Completes.unique {other : List IndexEvent}
    (completes : Completes options events event began)
    (again : Completes options events event other) : began = other := by
  -- Each kind of completing event names the beginning of its refresh.
  cases event with
  | refresh => exact completes.2.trans again.2.symm
  | start => exact completes.2.2.trans again.2.2.symm
  | finish => exact Pending.unique completes again
  | _ => contradiction

/-- Behind a refresh that completes, nothing is pending. -/
theorem Completes.idle (completes : Completes options events event began) :
    Idle options (events ++ [event]) := by
  -- A completing event ends its refresh, or begins none that lasts.
  cases event with
  | refresh => exact completes.1.snoc (fun _ => by simp)
  | start => exact completes.1.snoc (fun roots => absurd completes.2.1 roots)
  | finish => exact idle_of_ends trivial
  | _ => contradiction

/-- What completes a refresh is about refreshes alone. -/
theorem Completes.refreshes (completes : Completes options events event began) :
    event.Refreshes := by
  -- Only three events can complete a refresh.
  cases event with
  | refresh | start | finish => trivial
  | _ => contradiction

/-- Later events stay quiet as long as the next one completes nothing. -/
theorem Quiet.snoc {later : List IndexEvent} (quiet : Quiet options events later)
    (nothing : ∀ began, ¬ Completes options (events ++ later) event began) :
    Quiet options events (later ++ [event]) := by
  -- The last event completes nothing by assumption, and the earlier ones were quiet.
  intro middle other rest whole
  rcases snoc_eq_append_cons_iff.1 whole with ⟨_, rfl, rfl⟩ | ⟨more, rfl, same⟩
  · exact nothing
  · exact quiet middle other more same

section Shows

variable {firstTree : FileTree} {firstGrammar : Grammar} {records : List MarkerRecord}

/-- A refresh that completes is the last one to have done so. -/
theorem shows_of_completes (completes : Completes options events event began) :
    Shows firstTree firstGrammar options (events ++ [event])
      ((filesAt firstTree events).workspace.scan
        (grammarAt firstGrammar began) options).records := by
  -- Nothing comes after the event that completes it.
  refine .inr ⟨events, event, [], began, rfl, completes, ?_, rfl⟩
  intro middle other rest whole
  simp at whole

/-- An event that completes nothing leaves the last refresh what it is. -/
theorem Shows.snoc (shows : Shows firstTree firstGrammar options events records)
    (nothing : ∀ began, ¬ Completes options events event began) :
    Shows firstTree firstGrammar options (events ++ [event]) records := by
  -- The last completing event stays the last one, or there is still none.
  rcases shows with ⟨quiet, none⟩ | ⟨read, last, later, began, rfl, completes, quiet, found⟩
  · exact .inl ⟨quiet.snoc (by simpa using nothing), none⟩
  · refine .inr ⟨read, last, later ++ [event], began, by simp, completes, ?_, found⟩
    exact quiet.snoc (by simpa using nothing)

/-- No refresh completes behind an event after which all is quiet. -/
theorem length_le_of_quiet {read later otherRead otherLater otherBegan : List IndexEvent}
    {other : IndexEvent} (completes : Completes options otherRead other otherBegan)
    (quiet : Quiet options (read ++ [event]) later)
    (whole : read ++ event :: later = otherRead ++ other :: otherLater) :
    otherRead.length ≤ read.length := by
  -- Otherwise the other event would be one of those that complete nothing.
  by_contra longer
  rcases List.append_eq_append_iff.1 whole with ⟨more, rfl, starts⟩ | ⟨more, rfl, _⟩
  · cases more with
    | nil => simp at longer
    | cons first more =>
      rw [List.cons_append, List.cons.injEq] at starts
      obtain ⟨rfl, rfl⟩ := starts
      exact quiet more other otherLater rfl otherBegan (by simpa using completes)
  · simp at longer

/-- A history determines the records. -/
theorem Shows.unique {others : List MarkerRecord}
    (shows : Shows firstTree firstGrammar options events records)
    (again : Shows firstTree firstGrammar options events others) : records = others := by
  -- Both sides name the last refresh that completed, or say that none has.
  rcases shows with ⟨quiet, rfl⟩ | ⟨read, last, later, began, whole, completes, quiet, found⟩
  · rcases again with ⟨_, none⟩ | ⟨read, last, later, began, whole, completes, _⟩
    · exact none.symm
    · exact absurd completes (quiet read last later whole began)
  · rcases again with ⟨silent, _⟩ |
      ⟨otherRead, other, otherLater, otherBegan, same, otherCompletes, otherQuiet, otherFound⟩
    · exact absurd completes (silent read last later whole began)
    · -- Neither of the two refreshes completes after the other.
      rw [whole] at same
      have most := length_le_of_quiet otherCompletes quiet same
      have least := length_le_of_quiet completes otherQuiet same.symm
      obtain ⟨rfl, ending⟩ := List.append_inj same (Nat.le_antisymm least most)
      obtain ⟨rfl, _⟩ := List.cons.inj ending
      rw [found, otherFound, completes.unique otherCompletes]

/-- What is put aside is what the index shows at that time. -/
theorem held_of_shows (shows : Shows firstTree firstGrammar options events records) :
    Held firstTree firstGrammar options (events ++ [.hold]) records :=
  -- Nothing comes after the event that puts the snapshot aside.
  .inr ⟨events, [], rfl, by simp, shows⟩

/-- Other events leave alone what has been put aside. -/
theorem Held.snoc (held : Held firstTree firstGrammar options events records)
    (other : event ≠ .hold) : Held firstTree firstGrammar options (events ++ [event]) records := by
  -- The last time of putting aside stays the last one.
  rcases held with ⟨never, none⟩ | ⟨before, later, rfl, last, shows⟩
  · exact .inl ⟨by simpa [never] using other.symm, none⟩
  · exact .inr ⟨before, later ++ [event], by simp, by simpa [last] using other.symm, shows⟩

end Shows

end IndexHistory

end TodoMarkers
