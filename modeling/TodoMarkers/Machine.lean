/-! Machines that take one event after another. Main statement: a run gives at each place what one
step gives in the state after the events before it. -/

namespace TodoMarkers

/-- What each event does in each state. -/
structure Machine (State Event Result : Type) where
  /-- What an event gives. -/
  step : State → Event → Result
  /-- The state that is left behind. -/
  next : Result → State

namespace Machine

variable {State Event Result : Type} (machine : Machine State Event Result)

/-- The state after some events. -/
def after (state : State) (events : List Event) : State :=
  events.foldl (fun state event => machine.next (machine.step state event)) state

/-- What each of some events gives, one after the other. -/
def run : State → List Event → List Result
  | _, [] => []
  | state, event :: rest =>
    let result := machine.step state event
    result :: run (machine.next result) rest

/-- Without events the state stays as it is. -/
@[simp] theorem after_nil (state : State) : machine.after state [] = state :=
  rfl

/-- Events in a row are events one part after the other. -/
theorem after_append (state : State) (events later : List Event) :
    machine.after state (events ++ later) = machine.after (machine.after state events) later := by
  -- The fold over the later events starts from the state that the first ones leave.
  rw [after, List.foldl_append, after, after]

/-- One more event takes its step in the state after the others. -/
theorem after_concat (state : State) (events : List Event) (event : Event) :
    machine.after state (events ++ [event]) =
      machine.next (machine.step (machine.after state events) event) := by
  -- The last part of the events is a single one.
  rw [after_append]
  rfl

/-- A run gives at each place what the step gives in the state after the events before it. -/
theorem run_getElem? (state : State) (before : List Event) (event : Event) (rest : List Event) :
    (machine.run state (before ++ event :: rest))[before.length]? =
      some (machine.step (machine.after state before) event) := by
  -- The first event takes both sides to the state that it leaves.
  induction before generalizing state with
  | nil => rfl
  | cons first before ih =>
    rw [List.cons_append, run, List.length_cons, List.getElem?_cons_succ, ih]
    rfl

end Machine

end TodoMarkers
