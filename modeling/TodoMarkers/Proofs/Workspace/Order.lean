import TodoMarkers.Proofs.Sorting
import TodoMarkers.Workspace.Scan

/-! Sorting the entries of a directory: there is one order by names that keeps entries of one name
as they are listed, and sorting gives it. -/

namespace TodoMarkers

open Workspace

/-- A list holds the entries of another one in ascending order of their names. -/
structure InNameOrder (entries ordered : List Entry) : Prop where
  /-- No name comes before a smaller one. -/
  ascending : ordered.Pairwise fun a b => a.name ≤ b.name
  /-- The entries of each name are those of the other list, in its order. -/
  stable : ∀ name, ordered.filter (·.name = name) = entries.filter (·.name = name)

variable {entries ordered : List Entry}

/-- Sorted entries have ascending names. -/
theorem sortEntries_ascending (entries : List Entry) :
    (sortEntries entries).Pairwise fun a b => a.name ≤ b.name :=
  -- It is what the merge sort promises for names.
  ascending_mergeSort Entry.name entries

/-- Two entries that are listed in descending order change places. -/
theorem sortEntries_pair {a b : Entry} (before : b.name < a.name) :
    sortEntries [a, b] = [b, a] := by
  -- The merge compares the two once.
  have descending : ¬ a.name ≤ b.name := String.not_le.2 before
  simp [sortEntries, List.mergeSort, List.MergeSort.Internal.splitInTwo, descending]

/-- Sorting keeps the entries of one name in the order in which they are listed. -/
theorem filter_sortEntries (entries : List Entry) (name : String) :
    (sortEntries entries).filter (·.name = name) = entries.filter (·.name = name) :=
  -- The merge sort is stable.
  filter_mergeSort Entry.name entries name

/-- Sorting gives the one list that holds the entries in the order of their names. -/
theorem eq_sortEntries_iff : ordered = sortEntries entries ↔ InNameOrder entries ordered := by
  -- A list is settled by the order of its keys and by the group of each key.
  constructor
  · rintro rfl
    exact ⟨sortEntries_ascending entries, filter_sortEntries entries⟩
  · intro order
    refine eq_of_ascending order.ascending (sortEntries_ascending entries) fun name => ?_
    rw [order.stable, filter_sortEntries]

end TodoMarkers
