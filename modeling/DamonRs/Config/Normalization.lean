import DamonRs.Config.Equivalence

/-!
# Normalized configurations

A request that a canonicalization turns into an observation stays so when the
observation stands in turn for a later one.  What a canonicalization leaves
alone is the same in the request and in the observation.
-/

namespace DamonRs

/-! ## Partners -/

theorem zipModify_eq_right_iff {α : Type} {change : α → α → α} {items partners : List α} :
    zipModify change items partners = partners ↔
      List.Forall₂ (fun item partner => change item partner = partner) items partners := by
  induction items generalizing partners with
  | nil =>
      cases partners with
      | nil => simp [zipModify]
      | cons partner partners => simp [zipModify]
  | cons item items ih =>
      cases partners with
      | nil => simp [zipModify]
      | cons partner partners => simp [zipModify, ih]

theorem zipModify_length {α β : Type} (change : α → β → α) (items : List α) (partners : List β) :
    (zipModify change items partners).length = items.length := by
  induction items generalizing partners with
  | nil => cases partners <;> rfl
  | cons item items ih =>
      cases partners with
      | nil => rfl
      | cons partner partners => simp [zipModify, ih]

theorem forall₂_iff_getElem? {α β : Type} {related : α → β → Prop} {xs : List α} {ys : List β} :
    List.Forall₂ related xs ys ↔ xs.length = ys.length ∧
      ∀ (i : Nat) (x : α) (y : β), xs[i]? = some x → ys[i]? = some y → related x y := by
  rw [List.forall₂_iff_get]
  refine and_congr_right fun _ => ⟨fun each i x y atX atY => ?_, fun each i inX inY => ?_⟩
  · obtain ⟨inX, rfl⟩ := List.getElem?_eq_some_iff.mp atX
    obtain ⟨inY, rfl⟩ := List.getElem?_eq_some_iff.mp atY
    exact each i inX inY
  · exact each i _ _ (List.getElem?_eq_getElem inX) (List.getElem?_eq_getElem inY)

/-- Partners that are related in turn. -/
theorem forall₂_comp {α : Type} {first second third : α → α → Prop}
    (step : ∀ x y z, first x y → second y z → third x z) {xs ys zs : List α}
    (one : List.Forall₂ first xs ys) (two : List.Forall₂ second ys zs) :
    List.Forall₂ third xs zs := by
  induction one generalizing zs with
  | nil =>
      cases two
      exact .nil
  | cons related _ ih =>
      cases two with
      | cons next rest => exact .cons (step _ _ _ related next) (ih rest)

/-! ## Schemes -/

namespace AccessPattern

theorem normalizeKernelWidth_eq_iff {pattern observed : AccessPattern} :
    pattern.normalizeKernelWidth observed = observed ↔
      pattern.equivalentAfterKernelNormalization observed = true := by
  unfold normalizeKernelWidth
  split
  · rename_i equivalent
    refine iff_of_true ?_ equivalent
    unfold equivalentAfterKernelNormalization at equivalent
    simp only [Bool.or_eq_true, Bool.and_eq_true, decide_eq_true_eq] at equivalent
    rcases equivalent with rfl | ⟨⟨⟨⟨_, _⟩, _⟩, accesses⟩, age⟩
    · rfl
    · rw [accesses, age]
  · rename_i different
    refine iff_of_false (fun same => different ?_) different
    simp [equivalentAfterKernelNormalization, same]

theorem equivalent_trans {first second third : AccessPattern}
    (one : first.equivalentAfterKernelNormalization second = true)
    (two : second.equivalentAfterKernelNormalization third = true) :
    first.equivalentAfterKernelNormalization third = true := by
  unfold equivalentAfterKernelNormalization at one two ⊢
  simp only [Bool.or_eq_true, Bool.and_eq_true, decide_eq_true_eq] at one two ⊢
  rcases one with rfl | ⟨⟨⟨⟨min, wide⟩, narrow⟩, accesses⟩, age⟩
  · exact two
  · rcases two with rfl | ⟨⟨⟨⟨_, wider⟩, _⟩, _⟩, _⟩
    · exact .inr ⟨⟨⟨⟨min, wide⟩, narrow⟩, accesses⟩, age⟩
    · rw [narrow] at wider
      cases wider

end AccessPattern

/-! ### Filters -/

theorem FilterConfig.settle_placement (split : Bool) (filter : FilterConfig) :
    (filter.settle split).placement ≠ .adaptive := by
  unfold settle
  split
  · dsimp only
    split
    · split <;> simp
    · simp
  · assumption

theorem FilterConfig.settle_of_placed {filter : FilterConfig} (split : Bool)
    (placed : filter.placement ≠ .adaptive) : filter.settle split = filter := by
  rw [settle, if_neg placed]

instance : Std.Total fun first second : FilterConfig =>
    first.placementRank ≤ second.placementRank :=
  ⟨fun first second => le_total first.placementRank second.placementRank⟩

instance : IsTrans FilterConfig fun first second : FilterConfig =>
    first.placementRank ≤ second.placementRank :=
  ⟨fun _ _ _ => le_trans⟩

theorem canonicalizeFilterPlacements_placed (filters observed : List FilterConfig) :
    ∀ filter ∈ canonicalizeFilterPlacements filters observed, filter.placement ≠ .adaptive := by
  have settled : ∀ split, ∀ filter ∈ filters.map (FilterConfig.settle split),
      filter.placement ≠ .adaptive := by
    intro split filter member
    obtain ⟨origin, _, rfl⟩ := List.mem_map.mp member
    exact origin.settle_placement split
  intro filter member
  unfold canonicalizeFilterPlacements at member
  dsimp only at member
  split at member
  · exact settled _ filter ((List.mem_insertionSort _).mp member)
  · exact settled _ filter member

theorem hasSplitFilters_perm {filters others : List FilterConfig} (perm : filters.Perm others) :
    hasSplitFilters filters = hasSplitFilters others :=
  perm.any_eq

/-- Filters that are already placed are observed only as they are. -/
theorem canonicalizeFilterPlacements_stable {filters observed later : List FilterConfig}
    (first : canonicalizeFilterPlacements filters observed = observed)
    (second : canonicalizeFilterPlacements observed later = later) : observed = later := by
  have placed := canonicalizeFilterPlacements_placed filters observed
  rw [first] at placed
  have settled : ∀ split, observed.map (FilterConfig.settle split) = observed := fun split =>
    (List.map_congr_left fun filter member =>
      FilterConfig.settle_of_placed split (placed filter member)).trans (List.map_id observed)
  unfold canonicalizeFilterPlacements at second
  simp only [settled] at second
  split at second
  · rename_i split
    have sameSplit : hasSplitFilters observed = true := by
      rw [← split]
      conv_rhs => rw [← second]
      exact hasSplitFilters_perm (List.perm_insertionSort _ _).symm
    have sorted : observed.Pairwise fun first second =>
        first.placementRank ≤ second.placementRank := by
      rw [← first]
      unfold canonicalizeFilterPlacements
      rw [if_pos sameSplit]
      exact List.pairwise_insertionSort _ _
    rw [sorted.insertionSort_eq] at second
    exact second
  · exact second

namespace SchemeConfig

theorem canonicalize_eq_iff {scheme observed : SchemeConfig} :
    scheme.canonicalize observed = observed ↔
      scheme = { observed with
        accessPattern := scheme.accessPattern, filters := scheme.filters } ∧
      scheme.accessPattern.equivalentAfterKernelNormalization observed.accessPattern = true ∧
      canonicalizeFilterPlacements scheme.filters observed.filters = observed.filters := by
  rw [← AccessPattern.normalizeKernelWidth_eq_iff]
  cases scheme
  cases observed
  simp only [canonicalize, mk.injEq]
  tauto

theorem canonicalize_trans {first second third : SchemeConfig}
    (one : first.canonicalize second = second) (two : second.canonicalize third = third) :
    first.canonicalize third = third := by
  rw [canonicalize_eq_iff] at one two ⊢
  obtain ⟨same, pattern, filters⟩ := one
  obtain ⟨nextSame, nextPattern, nextFilters⟩ := two
  have stable := canonicalizeFilterPlacements_stable filters nextFilters
  refine ⟨?_, AccessPattern.equivalent_trans pattern nextPattern, stable ▸ filters⟩
  rw [same, nextSame]

end SchemeConfig

/-! ## Contexts and kdamonds -/

namespace ContextConfig

theorem canonicalize_eq_iff {context observed : ContextConfig} :
    context.canonicalize observed = observed ↔
      context = { observed with schemes := context.schemes } ∧
      List.Forall₂ (fun scheme partner => scheme.canonicalize partner = partner) context.schemes
        observed.schemes := by
  rw [← zipModify_eq_right_iff]
  cases context
  cases observed
  simp only [canonicalize, mk.injEq]
  tauto

theorem canonicalize_trans {first second third : ContextConfig}
    (one : first.canonicalize second = second) (two : second.canonicalize third = third) :
    first.canonicalize third = third := by
  rw [canonicalize_eq_iff] at one two ⊢
  obtain ⟨same, schemes⟩ := one
  obtain ⟨nextSame, nextSchemes⟩ := two
  have step : ∀ x y z : SchemeConfig, x.canonicalize y = y → y.canonicalize z = z →
      x.canonicalize z = z := fun _ _ _ => SchemeConfig.canonicalize_trans
  exact ⟨by rw [same, nextSame], forall₂_comp step schemes nextSchemes⟩

/-- Canonicalization does not look at the intervals of an observation. -/
theorem canonicalize_withIntervals {context observed : ContextConfig}
    (equivalent : context.canonicalize observed = observed) (intervals : MonitoringIntervals) :
    { context with intervals := intervals }.canonicalize { observed with intervals := intervals } =
      { observed with intervals := intervals } := by
  rw [canonicalize_eq_iff] at equivalent ⊢
  obtain ⟨same, schemes⟩ := equivalent
  refine ⟨?_, schemes⟩
  conv_lhs => rw [same]

end ContextConfig

namespace KdamondConfig

theorem canonicalize_eq_iff {kdamond observed : KdamondConfig} :
    kdamond.canonicalize observed = observed ↔
      kdamond.refreshInterval = observed.refreshInterval ∧
      List.Forall₂ (fun context partner => context.canonicalize partner = partner)
        kdamond.contexts observed.contexts := by
  rw [← zipModify_eq_right_iff]
  cases kdamond
  cases observed
  simp only [canonicalize, mk.injEq]

theorem canonicalize_trans {first second third : KdamondConfig}
    (one : first.canonicalize second = second) (two : second.canonicalize third = third) :
    first.canonicalize third = third := by
  rw [canonicalize_eq_iff] at one two ⊢
  obtain ⟨refresh, contexts⟩ := one
  obtain ⟨nextRefresh, nextContexts⟩ := two
  have step : ∀ x y z : ContextConfig, x.canonicalize y = y → y.canonicalize z = z →
      x.canonicalize z = z := fun _ _ _ => ContextConfig.canonicalize_trans
  exact ⟨refresh.trans nextRefresh, forall₂_comp step contexts nextContexts⟩

end KdamondConfig

namespace DamonConfig

theorem canonicalize_eq_iff {config observed : DamonConfig} :
    config.canonicalize observed = observed ↔
      List.Forall₂ (fun kdamond partner => kdamond.canonicalize partner = partner)
        config.kdamonds observed.kdamonds := by
  rw [← zipModify_eq_right_iff]
  cases config
  cases observed
  simp only [canonicalize, mk.injEq]

end DamonConfig

end DamonRs
