/-! Sorting by a key: the elements of each key keep their order, and no other list that ascends by
the key holds them so. -/

namespace TodoMarkers

variable {α κ : Type} {key : α → κ}

/-- Lists with the same elements of each key have the same elements. -/
theorem mem_iff_of_groups [DecidableEq κ] {first second : List α}
    (same : ∀ value, first.filter (key · = value) = second.filter (key · = value)) (a : α) :
    a ∈ first ↔ a ∈ second := by
  -- An element is in a list if it is among those of its own key.
  have among (list : List α) : a ∈ list ↔ a ∈ list.filter (key · = key a) := by simp
  rw [among first, same, ← among second]

/-- The groups of some keys hold the elements of each key once, if no key is named twice. -/
theorem filter_groups [DecidableEq κ] {keys : List κ} (distinct : keys.Nodup) (list : List α)
    (value : κ) :
    (keys.flatMap fun other => list.filter (key · = other)).filter (key · = value) =
      if value ∈ keys then list.filter (key · = value) else [] := by
  -- The keys are taken one by one, and at most one of them is the wanted key.
  induction keys with
  | nil => rfl
  | cons first keys ih =>
    obtain ⟨fresh, distinct⟩ := List.nodup_cons.1 distinct
    rw [List.flatMap_cons, List.filter_append, ih distinct, List.filter_filter]
    by_cases mine : value = first
    · -- The group of the first key is the one, and no later group is.
      subst mine
      simp [fresh]
    · -- The elements of the first key are others.
      have none : list.filter (fun a => decide (key a = value) && decide (key a = first)) = [] := by
        refine List.filter_eq_nil_iff.2 fun a _ both => mine ?_
        simp only [Bool.and_eq_true, decide_eq_true_eq] at both
        exact both.1.symm.trans both.2
      simp [none, mine]

variable [LE κ] [Std.IsLinearOrder κ]

/-- The first element of an ascending list has the smallest key. -/
theorem head_key_le {a b : α} {rest : List α}
    (ascending : (a :: rest).Pairwise fun a b => key a ≤ key b) (member : b ∈ a :: rest) :
    key a ≤ key b := by
  -- A list that ascends pairwise puts its first element below all others.
  rcases List.mem_cons.1 member with rfl | member
  · exact Std.le_refl _
  · exact (List.pairwise_cons.1 ascending).1 b member

/-- Ascending lists with the same elements of each key are equal. -/
theorem eq_of_ascending [DecidableEq κ] {first second : List α}
    (ascending : first.Pairwise fun a b => key a ≤ key b)
    (other : second.Pairwise fun a b => key a ≤ key b)
    (same : ∀ value, first.filter (key · = value) = second.filter (key · = value)) :
    first = second := by
  -- The two lists lose their first elements together.
  induction first generalizing second with
  | nil =>
    cases second with
    | nil => rfl
    | cons b _ => simpa using same (key b)
  | cons a tail ih =>
    cases second with
    | nil => simpa using same (key a)
    | cons b rest =>
      -- Both heads have the smallest key, and are the first elements of that key.
      have keyed : key a = key b := Std.le_antisymm
        (head_key_le ascending ((mem_iff_of_groups same b).2 (by simp)))
        (head_key_le other ((mem_iff_of_groups same a).1 (by simp)))
      obtain rfl : a = b := by
        have heads := same (key a)
        rw [List.filter_cons_of_pos (by simp), List.filter_cons_of_pos (by simp [keyed])] at heads
        exact (List.cons.inj heads).1
      -- Without them the lists agree as before, because every group has lost the same element.
      have tails : tail = rest := by
        refine ih ascending.tail other.tail fun value => ?_
        have whole := same value
        by_cases mine : key a = value
        · simpa [mine] using whole
        · simpa [mine] using whole
      rw [tails]

/-- An ascending list is made up of the groups of its keys, the smallest key first. -/
theorem flatMap_groups [DecidableEq κ] {keys : List κ} {list : List α}
    (ordered : keys.Pairwise fun a b => a ≤ b) (distinct : keys.Nodup)
    (ascending : list.Pairwise fun a b => key a ≤ key b) (covered : ∀ a ∈ list, key a ∈ keys) :
    (keys.flatMap fun value => list.filter (key · = value)) = list := by
  -- The groups in a row ascend as well, and hold the same elements of each key.
  refine eq_of_ascending ?_ ascending fun value => ?_
  · refine List.pairwise_flatMap.2 ⟨fun value _ => ascending.sublist List.filter_sublist, ?_⟩
    -- The elements of two groups have the keys of their groups.
    refine ordered.imp fun below a mine b its => ?_
    have here : key a = _ := of_decide_eq_true (List.mem_filter.1 mine).2
    have there : key b = _ := of_decide_eq_true (List.mem_filter.1 its).2
    rwa [here, there]
  · rw [filter_groups distinct]
    split
    · rfl
    · rename_i absent
      refine (List.filter_eq_nil_iff.2 fun a member same => absent ?_).symm
      exact of_decide_eq_true same ▸ covered a member

variable [DecidableLE κ]

/-- The comparison by a key is transitive. -/
theorem key_trans (a b c : α) (below : decide (key a ≤ key b)) (above : decide (key b ≤ key c)) :
    decide (key a ≤ key c) := by
  -- As propositions the comparisons are those of the order.
  simp only [decide_eq_true_eq] at below above ⊢
  exact Std.le_trans below above

/-- The comparison by a key is total. -/
theorem key_total (a b : α) : decide (key a ≤ key b) || decide (key b ≤ key a) := by
  -- Of any two keys one is below the other.
  simpa using Std.le_total (a := key a) (b := key b)

/-- A sorted list ascends by the key. -/
theorem ascending_mergeSort (key : α → κ) (list : List α) :
    (list.mergeSort fun a b => key a ≤ key b).Pairwise fun a b => key a ≤ key b := by
  -- Sorting needs no more of the comparison than that it is transitive and total.
  simpa using List.pairwise_mergeSort key_trans key_total list

/-- Sorting keeps the elements of one key in the order in which they are listed. -/
theorem filter_mergeSort [DecidableEq κ] (key : α → κ) (list : List α) (value : κ) :
    (list.mergeSort fun a b => key a ≤ key b).filter (key · = value) =
      list.filter (key · = value) := by
  -- Elements of one key are sorted as they stand, so they are found again in their order.
  have sorted : (list.filter (key · = value)).Pairwise fun a b => decide (key a ≤ key b) := by
    rw [List.pairwise_filter]
    refine List.pairwise_of_forall fun a b mine its => ?_
    simp only [decide_eq_true_eq] at mine its ⊢
    rw [mine, its]
    exact Std.le_refl value
  have group : (list.filter (key · = value)).Sublist (list.mergeSort fun a b => key a ≤ key b) :=
    List.sublist_mergeSort key_trans key_total sorted List.filter_sublist
  have kept := group.filter (key · = value)
  rw [List.filter_eq_self.2 (fun a member => (List.mem_filter.1 member).2)] at kept
  -- There are no more of them than before.
  exact (kept.eq_of_length ((List.mergeSort_perm list _).filter _).length_eq.symm).symm

end TodoMarkers
