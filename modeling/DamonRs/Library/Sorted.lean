import Mathlib.Data.List.Sort

/-!
# Sorted duplicate-free lists

Sorting followed by removing adjacent duplicates gives the strictly increasing
list of the same members, and such a list is determined by its members.  Sorting
by a key is stable: items with the same key keep their order.
-/

namespace DamonRs.Library

section Adjacent

variable {α : Type} [DecidableEq α]

/-- Keep one item of every run of equal neighbours. -/
def dedupAdjacent : List α → List α
  | [] => []
  | [x] => [x]
  | x :: y :: rest =>
      if x = y then dedupAdjacent (y :: rest) else x :: dedupAdjacent (y :: rest)

theorem mem_dedupAdjacent (items : List α) (x : α) : x ∈ dedupAdjacent items ↔ x ∈ items := by
  induction items using dedupAdjacent.induct with
  | case1 => simp [dedupAdjacent]
  | case2 y => simp [dedupAdjacent]
  | case3 y rest ih => simp [dedupAdjacent, ih]
  | case4 y z rest different ih => simp [dedupAdjacent, different, ih]

end Adjacent

section Order

variable {α : Type} [LinearOrder α]

theorem dedupAdjacent_strict (items : List α) (sorted : items.Pairwise (· ≤ ·)) :
    (dedupAdjacent items).Pairwise (· < ·) := by
  induction items using dedupAdjacent.induct with
  | case1 => simp [dedupAdjacent]
  | case2 y => simp [dedupAdjacent]
  | case3 y rest ih => simpa [dedupAdjacent] using ih sorted.of_cons
  | case4 y z rest different ih =>
      have tailStrict := ih sorted.of_cons
      have least : ∀ x ∈ z :: rest, y < x := by
        intro x member
        have below : y ≤ z := List.rel_of_pairwise_cons sorted (List.mem_cons_self ..)
        have above : z ≤ x := by
          rcases List.mem_cons.mp member with rfl | inRest
          · exact le_refl _
          · exact List.rel_of_pairwise_cons sorted.of_cons inRest
        exact lt_of_lt_of_le (lt_of_le_of_ne below different) above
      simp only [dedupAdjacent, if_neg different, List.pairwise_cons]
      exact ⟨fun x member => least x ((mem_dedupAdjacent _ x).mp member), tailStrict⟩

/-- The strictly increasing list with the members of `items`. -/
def sortDedup (items : List α) : List α :=
  dedupAdjacent (items.insertionSort (· ≤ ·))

theorem mem_sortDedup (items : List α) (x : α) : x ∈ sortDedup items ↔ x ∈ items := by
  rw [sortDedup, mem_dedupAdjacent]
  exact (List.perm_insertionSort (· ≤ ·) items).mem_iff

theorem sortDedup_strict (items : List α) : (sortDedup items).Pairwise (· < ·) :=
  dedupAdjacent_strict _ (List.pairwise_insertionSort (· ≤ ·) items)

/-- Strictly increasing lists with the same members are equal. -/
theorem strict_ext {first second : List α} (firstStrict : first.Pairwise (· < ·))
    (secondStrict : second.Pairwise (· < ·)) (same : ∀ x, x ∈ first ↔ x ∈ second) :
    first = second := by
  have perm : first.Perm second :=
    (List.perm_ext_iff_of_nodup firstStrict.nodup secondStrict.nodup).mpr same
  exact perm.eq_of_pairwise (fun _ _ _ _ below above => absurd above (not_lt_of_gt below))
    firstStrict secondStrict

theorem sortDedup_eq_of_mem_iff {items target : List α} (strict : target.Pairwise (· < ·))
    (same : ∀ x, x ∈ items ↔ x ∈ target) : sortDedup items = target :=
  strict_ext (sortDedup_strict items) strict fun x => (mem_sortDedup items x).trans (same x)

/-- A strictly increasing list of numbers below a bound has at most that many members. -/
theorem strict_bounded_length (numbers : List Nat) (strict : numbers.Pairwise (· < ·))
    (bound : Nat) (below : ∀ n ∈ numbers, n < bound) : numbers.length ≤ bound := by
  have subset : numbers ⊆ List.range bound := fun n member => List.mem_range.mpr (below n member)
  simpa using strict.nodup.length_le_of_subset subset

end Order

section Keys

variable {α : Type} (key : α → ℕ)

/-- What is below a bound stands before what is not. -/
theorem sorted_split {items : List α}
    (sorted : items.Pairwise fun first second => key first ≤ key second) (bound : ℕ) :
    items = items.filter (key · < bound) ++ items.filter (bound ≤ key ·) := by
  induction items with
  | nil => rfl
  | cons item rest ih =>
      by_cases below : key item < bound
      · rw [List.filter_cons_of_pos (by simpa using below),
          List.filter_cons_of_neg (by simpa using below), List.cons_append, ← ih sorted.of_cons]
      · have above : ∀ other ∈ item :: rest, bound ≤ key other := by
          intro other member
          rcases List.mem_cons.mp member with rfl | inRest
          · exact Nat.le_of_not_lt below
          · exact le_trans (Nat.le_of_not_lt below) (List.rel_of_pairwise_cons sorted inRest)
        have nothing : (item :: rest).filter (key · < bound) = [] := by
          apply List.filter_eq_nil_iff.mpr
          intro other member
          simpa using above other member
        have everything : (item :: rest).filter (bound ≤ key ·) = item :: rest := by
          apply List.filter_eq_self.mpr
          intro other member
          simpa using above other member
        rw [nothing, everything, List.nil_append]

/-- A sorted list is made of its items of each key, in the order of the keys. -/
theorem sorted_eq_flatMap_filter {items : List α}
    (sorted : items.Pairwise fun first second => key first ≤ key second) {bound : ℕ}
    (below : ∀ item ∈ items, key item < bound) :
    items = (List.range bound).flatMap fun rank => items.filter (key · = rank) := by
  induction bound generalizing items with
  | zero =>
      cases items with
      | nil => rfl
      | cons item rest => exact absurd (below item List.mem_cons_self) (Nat.not_lt_zero _)
  | succ bound ih =>
      have lower : ∀ item ∈ items.filter (key · < bound), key item < bound := by
        intro item member
        simpa using (List.mem_filter.mp member).2
      have ranks : ∀ rank ∈ List.range bound,
          (items.filter (key · < bound)).filter (key · = rank) =
            items.filter (key · = rank) := by
        intro rank member
        rw [List.filter_filter]
        apply List.filter_congr
        intro item _
        have small := List.mem_range.mp member
        simp only [← Bool.decide_and, decide_eq_decide]
        omega
      have top : items.filter (bound ≤ key ·) = items.filter (key · = bound) := by
        apply List.filter_congr
        intro item member
        have small := below item member
        simp only [decide_eq_decide]
        omega
      rw [List.range_succ, List.flatMap_append, List.flatMap_singleton, ← top]
      calc items = items.filter (key · < bound) ++ items.filter (bound ≤ key ·) :=
            sorted_split key sorted bound
        _ = _ := by
          congr 1
          rw [ih (sorted.filter _) lower]
          exact List.flatMap_congr ranks

/-- Sorting keeps the order of the items of one key. -/
theorem filter_insertionSort (items : List α) (rank : ℕ) :
    (items.insertionSort fun first second => key first ≤ key second).filter (key · = rank) =
      items.filter (key · = rank) := by
  have level : (items.filter (key · = rank)).Pairwise
      fun first second => key first ≤ key second := by
    apply List.pairwise_of_forall_mem_list
    intro first inFirst second inSecond
    have one := (List.mem_filter.mp inFirst).2
    have two := (List.mem_filter.mp inSecond).2
    simp only [decide_eq_true_eq] at one two
    omega
  have kept := (List.sublist_insertionSort level List.filter_sublist).filter (key · = rank)
  rw [List.filter_filter] at kept
  simp only [Bool.and_self] at kept
  have perm := (List.perm_insertionSort (fun first second => key first ≤ key second) items).filter
    (key · = rank)
  exact (kept.eq_of_length perm.length_eq.symm).symm

end Keys

end DamonRs.Library
