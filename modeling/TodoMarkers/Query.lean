import TodoMarkers.Record
import TodoMarkers.Text.Lowercase
import TodoMarkers.Text.Occurrence

/-! Filters over records, and their order by priority. -/

namespace TodoMarkers

/-- What a record has to satisfy; a criterion that is absent holds of every record. -/
structure MarkerFilter where
  /-- The wanted priority. -/
  priority : Option Priority := none
  /-- The wanted kind. -/
  kind : Option Kind := none
  /-- The wanted context. -/
  context : Option Context := none
  /-- A part of the assignee's name. -/
  assignee : Option String := none
  /-- A part of the author's name. -/
  author : Option String := none
  deriving DecidableEq, Repr

namespace MarkerFilter

/-- The filter that every record satisfies. -/
def everything : MarkerFilter :=
  {}

/-- The filter with a new assignee criterion: trimmed, and absent when nothing is left. -/
def withAssignee (filter : MarkerFilter) (name : Option String) : MarkerFilter :=
  { filter with assignee := name.bind Text.nonBlank? }

/-- The filter with a new author criterion: trimmed, and absent when nothing is left. -/
def withAuthor (filter : MarkerFilter) (name : Option String) : MarkerFilter :=
  { filter with author := name.bind Text.nonBlank? }

/-- Whether every record satisfies the filter because it asks for nothing. -/
def isMatchAll (filter : MarkerFilter) : Bool :=
  filter = everything

/-- Whether a key is the wanted one. -/
def admitsKey {α : Type} [DecidableEq α] (wanted actual : Option α) : Bool :=
  match wanted with
  | none => true
  | some key => actual = some key

/-- Whether a name contains the wanted part once both are in lower case. -/
def admitsName (wanted actual : Option String) : Bool :=
  match wanted, actual with
  | none, _ => true
  | some _, none => false
  | some part, some name =>
    Text.occursIn (Text.lowercase part.toList) (Text.lowercase name.toList)

/-- Whether a record satisfies every criterion. -/
def admits (filter : MarkerFilter) (record : MarkerRecord) : Bool :=
  admitsKey filter.priority record.priority && admitsKey filter.kind record.kind &&
    admitsKey filter.context record.context && admitsName filter.assignee record.assignee &&
    admitsName filter.author record.author

/-- A key is admitted if it is the wanted one, wherever one is wanted. -/
theorem admitsKey_eq_true_iff {α : Type} [DecidableEq α] {wanted actual : Option α} :
    admitsKey wanted actual = true ↔ ∀ key ∈ wanted, actual = some key := by
  -- Where no key is wanted, both sides hold.
  cases wanted with
  | none => simp [admitsKey]
  | some key => simp [admitsKey]

/-- A name is admitted if its lower case holds that of the wanted part, wherever one is wanted. -/
theorem admitsName_eq_true_iff {wanted actual : Option String} :
    admitsName wanted actual = true ↔ ∀ part ∈ wanted, ∃ name, actual = some name ∧
      Text.lowercase part.toList <:+: Text.lowercase name.toList := by
  -- A wanted part admits no record that has no name.
  cases wanted with
  | none => simp [admitsName]
  | some part =>
    cases actual with
    | none => simp [admitsName]
    | some name => simp [admitsName, Text.occursIn_eq_true_iff]

/-- A record satisfies a filter if it has the wanted keys and names with the wanted parts. -/
theorem admits_eq_true_iff {filter : MarkerFilter} {record : MarkerRecord} :
    filter.admits record = true ↔
      (∀ key ∈ filter.priority, record.priority = some key) ∧
      (∀ key ∈ filter.kind, record.kind = some key) ∧
      (∀ key ∈ filter.context, record.context = some key) ∧
      (∀ part ∈ filter.assignee, ∃ name, record.assignee = some name ∧
        Text.lowercase part.toList <:+: Text.lowercase name.toList) ∧
      ∀ part ∈ filter.author, ∃ name, record.author = some name ∧
        Text.lowercase part.toList <:+: Text.lowercase name.toList := by
  -- The five criteria are tested apart from each other.
  simp only [admits, Bool.and_eq_true, admitsKey_eq_true_iff, admitsName_eq_true_iff, and_assoc]

/-- The records that satisfy the filter, in their order. -/
def select (filter : MarkerFilter) (records : List MarkerRecord) : List MarkerRecord :=
  records.filter filter.admits

end MarkerFilter

/-- Records by rank; those of one rank keep their order. -/
def sortByPriority (records : List MarkerRecord) : List MarkerRecord :=
  records.mergeSort fun a b => a.rank ≤ b.rank

/-- The records that satisfy a filter, by rank. -/
def query (filter : MarkerFilter) (records : List MarkerRecord) : List MarkerRecord :=
  sortByPriority (filter.select records)

end TodoMarkers
