import Mathlib.Data.List.Basic
import TodoMarkers.Proofs.Sorting
import TodoMarkers.Query

/-! Selecting records and ordering them by priority: neither loses or moves what the other one
keeps. -/

namespace TodoMarkers

/-- The classes of records in the order in which they are listed; the last has no priority. -/
def priorityClasses : List (Option Priority) :=
  [some .high, some .medium, some .low, none]

/-- The records of one class, in their order. -/
def ofClass (records : List MarkerRecord) (priority : Option Priority) : List MarkerRecord :=
  records.filter (·.priority = priority)

/-- The rank of the records of one class. -/
def classRank (priority : Option Priority) : Nat :=
  (priority.map Priority.rank).getD MarkerRecord.unclassifiedRank

/-- Every class is listed. -/
theorem mem_priorityClasses (priority : Option Priority) : priority ∈ priorityClasses := by
  -- The missing priority and the three given ones are the four cases.
  rcases priority with _ | key
  · decide
  · cases key <;> decide

/-- The rank of a record tells its class. -/
theorem rank_eq_classRank_iff (record : MarkerRecord) (priority : Option Priority) :
    record.rank = classRank priority ↔ record.priority = priority := by
  -- No two of the four classes have one rank.
  have apart : ∀ one ∈ priorityClasses, ∀ other ∈ priorityClasses,
      classRank one = classRank other → one = other := by decide
  exact ⟨apart _ (mem_priorityClasses _) _ (mem_priorityClasses _), fun same => same ▸ rfl⟩

/-- The ranks of ordered records ascend. -/
theorem sortByPriority_ascending (records : List MarkerRecord) :
    (sortByPriority records).Pairwise fun a b => a.rank ≤ b.rank :=
  -- It is what the merge sort promises for a rank.
  ascending_mergeSort MarkerRecord.rank records

/-- Records in the order of their ranks are those of the four classes, one class after the other. -/
theorem sortByPriority_eq_flatMap (records : List MarkerRecord) :
    sortByPriority records = priorityClasses.flatMap (ofClass records) := by
  -- An ascending list is the list of its groups, one rank after another.
  have listed : ∀ record ∈ sortByPriority records, record.rank ∈ priorityClasses.map classRank :=
    fun record _ => List.mem_map.2 ⟨record.priority, mem_priorityClasses _, rfl⟩
  calc sortByPriority records
      = (priorityClasses.map classRank).flatMap fun rank =>
          (sortByPriority records).filter (·.rank = rank) :=
        (flatMap_groups (by decide) (by decide) (sortByPriority_ascending records) listed).symm
    _ = priorityClasses.flatMap (ofClass records) := by
        -- Sorting keeps the records of each rank, which are those of a class.
        rw [List.flatMap_map]
        congr 1
        funext priority
        rw [sortByPriority, filter_mergeSort MarkerRecord.rank records, ofClass]
        simp only [rank_eq_classRank_iff]

/-- The records that a filter selects of one class are those of that class among the selected. -/
theorem ofClass_select (filter : MarkerFilter) (records : List MarkerRecord)
    (priority : Option Priority) :
    ofClass (filter.select records) priority = filter.select (ofClass records priority) :=
  -- Two filters may change places.
  List.filter_comm _ _ records

/-- Selecting records and ordering them by priority commute and lose nothing.

Either way the matching records come out high, medium and low first and those without a priority
last, each class in its order. Ordering permutes the records, and ordering them again changes
nothing. Two filters in either order keep the records that satisfy both. -/
theorem sortByPriority_select (filter other : MarkerFilter) (records : List MarkerRecord) :
    sortByPriority (filter.select records) = filter.select (sortByPriority records) ∧
    sortByPriority (filter.select records) =
      ofClass (filter.select records) (some .high) ++
        ofClass (filter.select records) (some .medium) ++
        ofClass (filter.select records) (some .low) ++ ofClass (filter.select records) none ∧
    (sortByPriority records).Perm records ∧
    sortByPriority (sortByPriority records) = sortByPriority records ∧
    other.select (filter.select records) =
      records.filter (fun record => filter.admits record && other.admits record) ∧
    other.select (filter.select records) = filter.select (other.select records) := by
  -- Filter and sort both act on each class by itself.
  refine ⟨?_, ?_, List.mergeSort_perm records _, ?_, ?_, List.filter_comm _ _ records⟩
  · -- A filter selects from the classes one by one.
    have classes : ofClass (filter.select records) = fun priority =>
        filter.select (ofClass records priority) := funext (ofClass_select filter records)
    rw [sortByPriority_eq_flatMap, sortByPriority_eq_flatMap, classes]
    exact List.filter_flatMap.symm
  · rw [sortByPriority_eq_flatMap]
    simp [priorityClasses]
  · refine List.mergeSort_of_pairwise ?_
    simpa only [decide_eq_true_eq] using sortByPriority_ascending records
  · rw [MarkerFilter.select, MarkerFilter.select, List.filter_filter]
    simp only [Bool.and_comm]

end TodoMarkers
