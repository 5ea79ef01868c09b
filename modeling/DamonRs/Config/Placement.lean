import DamonRs.Config.Normalization
import DamonRs.Library.Sorted

/-!
# Placements of filters

A filter without a placement of its own goes to the layer that the observed
layers leave for it.  The canonical order is a stable sort by layers, so it is
the order in which the layers are read one after the other, and inside a layer
the requested order.
-/

namespace DamonRs

open Library

/-- A filter with the concrete placement it has been given. -/
structure FilterConfig.PlacedAs (filter placed : FilterConfig) : Prop where
  concrete : placed.placement ≠ .adaptive
  same : placed = { filter with placement := placed.placement }
  kept : filter.placement ≠ .adaptive → placed = filter

namespace FilterConfig

theorem settle_placedAs (split : Bool) (filter : FilterConfig) :
    filter.PlacedAs (filter.settle split) where
  concrete := settle_placement split filter
  same := by
    unfold settle
    split <;> rfl
  kept := settle_of_placed split

theorem forall₂_settle (split : Bool) (filters : List FilterConfig) :
    List.Forall₂ PlacedAs filters (filters.map (settle split)) := by
  rw [List.forall₂_map_right_iff, List.forall₂_same]
  intro filter _
  exact filter.settle_placedAs split

theorem placementRank_lt {filter : FilterConfig} (placed : filter.placement ≠ .adaptive) :
    filter.placementRank < 3 := by
  unfold placementRank
  cases same : filter.placement with
  | adaptive => exact absurd same placed
  | core => decide
  | operations => decide
  | unified => decide

/-- The position of a concrete placement determines it. -/
theorem placement_iff_rank (filter : FilterConfig) :
    (filter.placement = .core ↔ filter.placementRank = 0) ∧
      (filter.placement = .operations ↔ filter.placementRank = 1) ∧
      (filter.placement = .unified ↔ filter.placementRank = 2) ∧
      (filter.placement = .adaptive ↔ filter.placementRank = 3) := by
  unfold placementRank
  cases filter.placement <;> simp

end FilterConfig

/-- The order of the layers is the canonical order. -/
theorem insertionSort_placementRank {filters : List FilterConfig}
    (placed : ∀ filter ∈ filters, filter.placement ≠ .adaptive) :
    (filters.insertionSort fun first second => first.placementRank ≤ second.placementRank) =
      filters.filter (·.placement = .core) ++ filters.filter (·.placement = .operations) ++
        filters.filter (·.placement = .unified) := by
  have sorted := List.pairwise_insertionSort
    (fun first second : FilterConfig => first.placementRank ≤ second.placementRank) filters
  have small : ∀ filter ∈ filters.insertionSort
      fun first second => first.placementRank ≤ second.placementRank,
      filter.placementRank < 3 := by
    intro filter member
    exact FilterConfig.placementRank_lt (placed filter ((List.mem_insertionSort _).mp member))
  rw [sorted_eq_flatMap_filter FilterConfig.placementRank sorted small]
  simp only [filter_insertionSort, List.range_succ, List.range_zero, List.nil_append,
    List.flatMap_append, List.flatMap_singleton, FilterConfig.placement_iff_rank]

/-- Sorting by layers keeps the order inside each of them. -/
theorem filter_placement_insertionSort (filters : List FilterConfig)
    (placement : FilterPlacement) :
    (filters.insertionSort fun first second =>
        first.placementRank ≤ second.placementRank).filter (·.placement = placement) =
      filters.filter (·.placement = placement) := by
  cases placement <;>
    simp only [FilterConfig.placement_iff_rank, filter_insertionSort]

theorem hasSplitFilters_eq_false_iff {filters : List FilterConfig} :
    hasSplitFilters filters = false ↔
      ∀ filter ∈ filters, filter.placement ≠ .core ∧ filter.placement ≠ .operations := by
  simp [hasSplitFilters]

/-- What is read from the split layers one after the other is canonical. -/
theorem canonicalizeFilterPlacements_split {filters observed : List FilterConfig}
    (layers : observed =
      (filters.map (FilterConfig.settle true)).filter (·.placement = .core) ++
        (filters.map (FilterConfig.settle true)).filter (·.placement = .operations) ++
        (filters.map (FilterConfig.settle true)).filter (·.placement = .unified)) :
    canonicalizeFilterPlacements filters observed = observed := by
  have placed : ∀ filter ∈ filters.map (FilterConfig.settle true),
      filter.placement ≠ .adaptive := by
    intro filter member
    obtain ⟨origin, _, rfl⟩ := List.mem_map.mp member
    exact origin.settle_placement true
  unfold canonicalizeFilterPlacements
  dsimp only
  cases split : hasSplitFilters observed with
  | true =>
      rw [if_pos rfl, insertionSort_placementRank placed, layers]
  | false =>
      rw [if_neg Bool.false_ne_true]
      rw [hasSplitFilters_eq_false_iff] at split
      -- Nothing is in the split layers, so every filter asks for the unified one.
      have unified : ∀ filter ∈ filters.map (FilterConfig.settle true),
          filter.placement = .unified := by
        intro filter member
        have outside : filter ∉ observed ∨
            filter.placement ≠ .core ∧ filter.placement ≠ .operations :=
          Decidable.or_iff_not_imp_left.mpr fun inside =>
            split filter (Decidable.of_not_not inside)
        rw [layers] at outside
        have concrete := placed filter member
        cases same : filter.placement <;> simp_all
      have requested : ∀ filter ∈ filters, filter.placement = .unified := by
        intro filter member
        have settled := unified _ (List.mem_map_of_mem member)
        unfold FilterConfig.settle at settled
        split at settled
        · dsimp only at settled
          rw [if_pos rfl] at settled
          split at settled <;> cases settled
        · exact settled
      have same : ∀ split, filters.map (FilterConfig.settle split) = filters := by
        intro split
        conv_rhs => rw [← List.map_id filters]
        apply List.map_congr_left
        intro filter member
        apply FilterConfig.settle_of_placed
        rw [requested filter member]
        exact FilterPlacement.noConfusion
      rw [same] at layers ⊢
      have whole : filters.filter (·.placement = .unified) = filters := by
        apply List.filter_eq_self.mpr
        intro filter member
        simpa using requested filter member
      have empty : ∀ placement, placement ≠ .unified →
          filters.filter (·.placement = placement) = [] := by
        intro placement different
        apply List.filter_eq_nil_iff.mpr
        intro filter member
        rw [requested filter member]
        simpa using different.symm
      rw [layers, whole, empty .core (by decide), empty .operations (by decide)]
      rfl

/-- What is read from the only layer is canonical. -/
theorem canonicalizeFilterPlacements_unified {filters : List FilterConfig}
    (unsplit : hasSplitFilters filters = false) :
    canonicalizeFilterPlacements filters (filters.map (FilterConfig.settle false)) =
      filters.map (FilterConfig.settle false) := by
  have still : hasSplitFilters (filters.map (FilterConfig.settle false)) = false := by
    rw [hasSplitFilters_eq_false_iff] at unsplit ⊢
    intro filter member
    obtain ⟨origin, inside, rfl⟩ := List.mem_map.mp member
    unfold FilterConfig.settle
    split
    · simp
    · exact unsplit origin inside
  unfold canonicalizeFilterPlacements
  dsimp only
  rw [still, if_neg Bool.false_ne_true]

theorem semanticFiltersMatch_of_canonical {requested observed : List FilterConfig}
    (canonical : canonicalizeFilterPlacements requested observed = observed) :
    semanticFiltersMatch requested observed = true := by
  simp [semanticFiltersMatch, canonical]

/-- Matching filters are the requested ones, each in its layer and in the requested order. -/
theorem placed_of_semanticFiltersMatch {requested observed : List FilterConfig}
    (concrete : ∀ filter ∈ observed, filter.placement ≠ .adaptive)
    (matches' : semanticFiltersMatch requested observed = true) :
    ∃ placed, List.Forall₂ FilterConfig.PlacedAs requested placed ∧ placed.Perm observed ∧
      ∀ placement, observed.filter (·.placement = placement) =
        placed.filter (·.placement = placement) := by
  simp only [semanticFiltersMatch, Bool.or_eq_true, decide_eq_true_eq] at matches'
  rcases matches' with rfl | canonical
  · refine ⟨requested, ?_, List.Perm.refl _, fun _ => rfl⟩
    rw [List.forall₂_same]
    intro filter member
    exact ⟨concrete filter member, rfl, fun _ => rfl⟩
  · refine ⟨requested.map (FilterConfig.settle (hasSplitFilters observed)),
      FilterConfig.forall₂_settle _ _, ?_⟩
    unfold canonicalizeFilterPlacements at canonical
    dsimp only at canonical
    split at canonical
    · constructor
      · conv_rhs => rw [← canonical]
        exact (List.perm_insertionSort _ _).symm
      · intro placement
        conv_lhs => rw [← canonical]
        exact filter_placement_insertionSort _ placement
    · rw [canonical]
      exact ⟨List.Perm.refl _, fun _ => rfl⟩

end DamonRs
