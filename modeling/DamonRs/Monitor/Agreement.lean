import DamonRs.Config.Normalization
import DamonRs.Monitor.Hierarchy

/-!
# Agreement of a read-back with a request

The kernel tunes the sampling and aggregation intervals of some contexts, so a
read-back agrees with a request when it is equivalent to the request with other
intervals in those contexts.
-/

namespace DamonRs

open Library Sysfs

/-! ## Equality aside from tuned intervals -/

/-- Equal, but for the sampling and aggregation intervals of a tuned context. -/
structure ContextConfig.SameButTuned (tuned : Prop) (context other : ContextConfig) : Prop where
  same : context = { other with intervals := context.intervals }
  update : context.intervals.updateUs = other.intervals.updateUs
  intervals : tuned ∨ context.intervals = other.intervals

/-- Equal, but for the sampling and aggregation intervals of tuned contexts. -/
structure KdamondConfig.SameButTuned (tuned : Nat → Prop) (kdamond other : KdamondConfig) :
    Prop where
  refresh : kdamond.refreshInterval = other.refreshInterval
  length : kdamond.contexts.length = other.contexts.length
  contexts : ∀ (i : Nat) (context partner : ContextConfig), kdamond.contexts[i]? = some context →
    other.contexts[i]? = some partner → context.SameButTuned (tuned i) partner

/-- A read-back that is equivalent to a request after kernel normalization, the intervals of
tuned contexts aside. -/
def KdamondConfig.AgreesWith (tuned : Nat → Prop) (requested observed : KdamondConfig) : Prop :=
  ∃ settled : KdamondConfig, settled.SameButTuned tuned observed ∧
    kdamondConfigurationsEquivalent requested settled = true

/-! ## Transitivity -/

theorem kdamondConfigurationsEquivalent_iff {requested observed : KdamondConfig} :
    kdamondConfigurationsEquivalent requested observed = true ↔
      requested = observed ∨ requested.canonicalize observed = observed := by
  simp [kdamondConfigurationsEquivalent, DamonConfig.equivalentAfterKernelNormalization,
    DamonConfig.canonicalize, zipModify]

theorem kdamondConfigurationsEquivalent_trans {first second third : KdamondConfig}
    (one : kdamondConfigurationsEquivalent first second = true)
    (two : kdamondConfigurationsEquivalent second third = true) :
    kdamondConfigurationsEquivalent first third = true := by
  rw [kdamondConfigurationsEquivalent_iff] at one two ⊢
  rcases one with rfl | one
  · exact two
  · rcases two with rfl | two
    · exact .inr one
    · exact .inr (KdamondConfig.canonicalize_trans one two)

namespace ContextConfig

variable {tuned : Prop} {settled previous later observed : ContextConfig}

/-- Equivalent contexts have the same intervals. -/
theorem intervals_of_equivalent
    (equivalent : previous = later ∨ previous.canonicalize later = later) :
    previous.intervals = later.intervals := by
  rcases equivalent with rfl | canonical
  · rfl
  · rw [(canonicalize_eq_iff.mp canonical).1]

/-- Giving a later context the intervals of a settled one keeps it the same as observed. -/
theorem SameButTuned.exchange (first : settled.SameButTuned tuned previous)
    (second : later.SameButTuned tuned observed) (intervals : previous.intervals = later.intervals) :
    { later with intervals := settled.intervals }.SameButTuned tuned observed where
  same := by
    rw [second.same]
  update := (first.update.trans (congrArg _ intervals)).trans second.update
  intervals := by
    rcases first.intervals with isTuned | same
    · exact .inl isTuned
    · exact second.intervals.imp id fun later => (same.trans intervals).trans later

end ContextConfig

namespace KdamondConfig

variable {tuned : Nat → Prop}

/-- The intervals of one configuration in another one. -/
def withIntervalsOf (kdamond other : KdamondConfig) : KdamondConfig :=
  { kdamond with
    contexts := kdamond.contexts.zipWith
      (fun context partner => { context with intervals := partner.intervals }) other.contexts }

theorem withIntervalsOf_getElem? {kdamond other : KdamondConfig} {i : Nat}
    {context : ContextConfig} (found : (kdamond.withIntervalsOf other).contexts[i]? = some context) :
    ∃ first second, kdamond.contexts[i]? = some first ∧ other.contexts[i]? = some second ∧
      context = { first with intervals := second.intervals } := by
  obtain ⟨first, second, one, two, same⟩ := List.getElem?_zipWith_eq_some.mp found
  exact ⟨first, second, one, two, same.symm⟩

theorem AgreesWith.trans {requested previous observed : KdamondConfig}
    (one : requested.AgreesWith tuned previous) (two : previous.AgreesWith tuned observed) :
    requested.AgreesWith tuned observed := by
  obtain ⟨settled, same, equivalent⟩ := one
  obtain ⟨later, nextSame, nextEquivalent⟩ := two
  rw [kdamondConfigurationsEquivalent_iff] at nextEquivalent
  have lengths : previous.contexts.length = later.contexts.length := by
    rcases nextEquivalent with rfl | canonical
    · rfl
    · exact (canonicalize_eq_iff.mp canonical).2.length_eq
  have contexts : ∀ (i : Nat) (context partner : ContextConfig), previous.contexts[i]? = some context →
      later.contexts[i]? = some partner → context = partner ∨
        context.canonicalize partner = partner := by
    intro i context partner atPrevious atLater
    rcases nextEquivalent with rfl | canonical
    · exact .inl (Option.some.inj (atPrevious.symm.trans atLater))
    · exact .inr ((forall₂_iff_getElem?.mp (canonicalize_eq_iff.mp canonical).2).2 i _ _ atPrevious
        atLater)
  have length : (later.withIntervalsOf settled).contexts.length = settled.contexts.length := by
    simp [withIntervalsOf, same.length, lengths]
  refine ⟨later.withIntervalsOf settled, ⟨nextSame.refresh, ?_, fun i context partner hit at' => ?_⟩,
    kdamondConfigurationsEquivalent_trans equivalent (kdamondConfigurationsEquivalent_iff.mpr ?_)⟩
  · exact length.trans ((same.length.trans lengths).trans nextSame.length)
  · obtain ⟨first, second, atLater, atSettled, rfl⟩ := withIntervalsOf_getElem? hit
    have inPrevious : i < previous.contexts.length :=
      same.length ▸ (List.getElem?_eq_some_iff.mp atSettled).1
    have atPrevious := List.getElem?_eq_getElem inPrevious
    exact (same.contexts i _ _ atSettled atPrevious).exchange
      (nextSame.contexts i _ _ atLater at')
      (ContextConfig.intervals_of_equivalent (contexts i _ _ atPrevious atLater))
  · -- the settled configuration next to the later one with its intervals
    have each : ∀ (i : Nat) (context partner : ContextConfig), settled.contexts[i]? = some context →
        (later.withIntervalsOf settled).contexts[i]? = some partner →
        ∃ old new, previous.contexts[i]? = some old ∧ later.contexts[i]? = some new ∧
          context = { old with intervals := context.intervals } ∧
          partner = { new with intervals := context.intervals } := by
      intro i context partner atSettled hit
      obtain ⟨new, second, atLater, atSettled', rfl⟩ := withIntervalsOf_getElem? hit
      cases atSettled.symm.trans atSettled'
      have inPrevious : i < previous.contexts.length :=
        same.length ▸ (List.getElem?_eq_some_iff.mp atSettled).1
      have atPrevious := List.getElem?_eq_getElem inPrevious
      exact ⟨_, new, atPrevious, atLater, (same.contexts i _ _ atSettled atPrevious).same, rfl⟩
    rcases nextEquivalent with rfl | canonical
    · left
      have contextsSame : settled.contexts = (previous.withIntervalsOf settled).contexts := by
        refine List.forall₂_eq_eq_eq ▸ forall₂_iff_getElem?.mpr ⟨length.symm, ?_⟩
        intro i context partner atSettled hit
        obtain ⟨old, new, atOld, atNew, first, second⟩ := each i context partner atSettled hit
        cases atOld.symm.trans atNew
        exact first.trans second.symm
      cases settled
      exact congrArg₂ KdamondConfig.mk same.refresh contextsSame
    · right
      obtain ⟨refresh, related⟩ := canonicalize_eq_iff.mp canonical
      refine canonicalize_eq_iff.mpr ⟨same.refresh.trans refresh,
        forall₂_iff_getElem?.mpr ⟨length.symm, fun i context partner atSettled hit => ?_⟩⟩
      obtain ⟨old, new, atOld, atNew, first, second⟩ := each i context partner atSettled hit
      have canonicalContext := (forall₂_iff_getElem?.mp related).2 i _ _ atOld atNew
      rw [first, second]
      exact ContextConfig.canonicalize_withIntervals canonicalContext context.intervals

theorem SameButTuned.refl (kdamond : KdamondConfig) : kdamond.SameButTuned tuned kdamond where
  refresh := rfl
  length := rfl
  contexts := by
    intro i context partner hit at'
    cases hit.symm.trans at'
    exact ⟨rfl, rfl, .inr rfl⟩

theorem SameButTuned.mono {wider : Nat → Prop} {kdamond other : KdamondConfig}
    (same : kdamond.SameButTuned tuned other) (widen : ∀ i, tuned i → wider i) :
    kdamond.SameButTuned wider other where
  refresh := same.refresh
  length := same.length
  contexts := fun i context partner hit atOther =>
    let sameContext := same.contexts i context partner hit atOther
    ⟨sameContext.same, sameContext.update, sameContext.intervals.imp (widen i) id⟩

theorem AgreesWith.mono {wider : Nat → Prop} {requested observed : KdamondConfig}
    (agrees : requested.AgreesWith tuned observed) (widen : ∀ i, tuned i → wider i) :
    requested.AgreesWith wider observed := by
  obtain ⟨settled, same, equivalent⟩ := agrees
  exact ⟨settled, same.mono widen, equivalent⟩

end KdamondConfig

/-! ## Normalized read-backs -/

/-- The kernel tunes the intervals of a context of a kdamond. -/
def KdamondConfig.Tunes (kdamond : KdamondConfig) (i : Nat) : Prop :=
  ∃ context, kdamond.contexts[i]? = some context ∧ context.intervalsGoal.aggregationIntervals ≠ 0

/-- Each result is the observed item or a change of it next to its requested partner. -/
theorem zipNormalize_ok {α : Type} {change : Option α → α → α → Except Error α}
    {previous requested observed result : List α}
    (run : zipNormalize change previous requested observed = .ok result) :
    result.length = observed.length ∧ ∀ (i : Nat) (first second : α), result[i]? = some first →
      observed[i]? = some second → first = second ∨
        ∃ request, requested[i]? = some request ∧ change previous[i]? request second = .ok first := by
  induction observed generalizing previous requested result with
  | nil =>
      have empty : result = [] := by
        cases requested <;> simpa [zipNormalize] using run.symm
      subst empty
      exact ⟨rfl, fun i _ _ hit _ => by simp at hit⟩
  | cons item rest ih =>
      cases requested with
      | nil =>
          have same : result = item :: rest := by simpa [zipNormalize] using run.symm
          subst same
          exact ⟨rfl, fun i _ _ hit at' => .inl (Option.some.inj (hit.symm.trans at'))⟩
      | cons request requests =>
          unfold zipNormalize at run
          cases changed : change previous.head? request item with
          | error error => simp [changed, bind, Except.bind] at run
          | ok head =>
              cases others : zipNormalize change previous.tail requests rest with
              | error error => simp [changed, others, bind, Except.bind] at run
              | ok tail =>
                  have same : result = head :: tail := by
                    simpa [changed, others, bind, Except.bind, pure, Except.pure] using run.symm
                  subst same
                  obtain ⟨length, each⟩ := ih others
                  refine ⟨by simp [length], fun i first second hit at' => ?_⟩
                  cases i with
                  | zero =>
                      cases hit
                      cases at'
                      exact .inr ⟨request, rfl, by rw [← List.head?_eq_getElem?]; exact changed⟩
                  | succ i =>
                      have partners := each i first second (by simpa using hit) (by simpa using at')
                      refine partners.imp id fun ⟨partner, atRequest, changes⟩ => ?_
                      refine ⟨partner, by simpa using atRequest, ?_⟩
                      rwa [List.getElem?_tail] at changes

theorem normalizeTunedContext_ok {previous : Option ContextConfig}
    {requested observed result : ContextConfig}
    (run : normalizeTunedContext previous requested observed = .ok result) :
    result.SameButTuned (requested.intervalsGoal.aggregationIntervals ≠ 0 ∨
      ∃ context, previous = some context ∧ context.intervalsGoal.aggregationIntervals ≠ 0)
      observed := by
  unfold normalizeTunedContext at run
  dsimp only at run
  split at run
  · cases run
    exact ⟨rfl, rfl, .inr rfl⟩
  · rename_i isTuned
    rw [MonitoringIntervals.sample, MonitoringIntervals.aggregation, MonitoringIntervals.update,
      MonitoringIntervals.new_ofMicros, MonitoringIntervals.ofMicros,
      dif_pos requested.intervals.ordered] at run
    cases run
    refine ⟨rfl, rfl, .inl ?_⟩
    by_cases now : requested.intervalsGoal.aggregationIntervals = 0
    · right
      cases previous with
      | none => simp [now] at isTuned
      | some context => exact ⟨context, rfl, by simpa [now] using isTuned⟩
    · exact .inl now

theorem normalizeTunedKdamond_ok {previous : Option KdamondConfig}
    {requested observed result : KdamondConfig}
    (run : normalizeTunedKdamond previous requested observed = .ok result) :
    result.SameButTuned (fun i => requested.Tunes i ∨
      ∃ kdamond, previous = some kdamond ∧ kdamond.Tunes i) observed := by
  unfold normalizeTunedKdamond at run
  cases contexts : zipNormalize normalizeTunedContext
      ((previous.map KdamondConfig.contexts).getD []) requested.contexts observed.contexts with
  | error error => simp [contexts, bind, Except.bind] at run
  | ok found =>
      have same : result = { observed with contexts := found } := by
        simpa [contexts, bind, Except.bind, pure, Except.pure] using run.symm
      subst same
      obtain ⟨length, each⟩ := zipNormalize_ok contexts
      refine ⟨rfl, length, fun i context partner hit at' => ?_⟩
      rcases each i context partner hit at' with rfl | ⟨request, atRequest, changed⟩
      · exact ⟨rfl, rfl, .inr rfl⟩
      · have sameContext := normalizeTunedContext_ok changed
        refine ⟨sameContext.same, sameContext.update, sameContext.intervals.imp ?_ id⟩
        rintro (now | ⟨before, atBefore, tuned⟩)
        · exact .inl ⟨request, atRequest, now⟩
        · cases previous with
          | none => simp at atBefore
          | some kdamond => exact .inr ⟨kdamond, rfl, before, atBefore, tuned⟩

/-! ## Read-backs of the whole hierarchy -/

namespace DamonConfig

/-- The kernel tunes the intervals of a context of the hierarchy. -/
def Tunes (config : DamonConfig) (kdamond context : Nat) : Prop :=
  ∃ found, config.kdamonds[kdamond]? = some found ∧ found.Tunes context

/-- Each kdamond agrees with its request, aside from the intervals of contexts that are tuned by
the request or were before. -/
structure AgreesWith (requested previous observed : DamonConfig) : Prop where
  length : requested.kdamonds.length = observed.kdamonds.length
  kdamonds : ∀ (i : Nat) (request partner : KdamondConfig), requested.kdamonds[i]? = some request →
    observed.kdamonds[i]? = some partner →
    request.AgreesWith (fun context => requested.Tunes i context ∨ previous.Tunes i context) partner

theorem mismatchError_eq_none {config observed : DamonConfig}
    (equivalent : config.mismatchError observed = none) :
    config.kdamonds.length = observed.kdamonds.length ∧
      ∀ (i : Nat) (request partner : KdamondConfig), config.kdamonds[i]? = some request →
        observed.kdamonds[i]? = some partner →
        kdamondConfigurationsEquivalent request partner = true := by
  rw [mismatchError_eq_none_iff, equivalentAfterKernelNormalization, Bool.or_eq_true,
    decide_eq_true_eq, decide_eq_true_eq] at equivalent
  rcases equivalent with rfl | canonical
  · refine ⟨rfl, fun i request partner hit at' => kdamondConfigurationsEquivalent_iff.mpr (.inl ?_)⟩
    exact Option.some.inj (hit.symm.trans at')
  · obtain ⟨length, each⟩ := forall₂_iff_getElem?.mp (canonicalize_eq_iff.mp canonical)
    exact ⟨length, fun i request partner hit at' =>
      kdamondConfigurationsEquivalent_iff.mpr (.inr (each i _ _ hit at'))⟩

/-- A normalization exchanges the intervals of tuned contexts only. -/
theorem normalizeRunningTunedIntervals_ok {requested previous observed normalized : DamonConfig}
    (run : normalizeRunningTunedIntervals requested (some previous) observed = .ok normalized) :
    normalized.kdamonds.length = observed.kdamonds.length ∧
      ∀ (i : Nat) (kdamond partner : KdamondConfig), normalized.kdamonds[i]? = some kdamond →
        observed.kdamonds[i]? = some partner → kdamond.SameButTuned
          (fun context => requested.Tunes i context ∨ previous.Tunes i context) partner := by
  unfold normalizeRunningTunedIntervals at run
  cases kdamonds : zipNormalize normalizeTunedKdamond previous.kdamonds requested.kdamonds
      observed.kdamonds with
  | error error => simp [kdamonds, bind, Except.bind] at run
  | ok found =>
      have same : normalized = ⟨found⟩ := by
        simpa [kdamonds, bind, Except.bind, pure, Except.pure] using run.symm
      subst same
      obtain ⟨length, each⟩ := zipNormalize_ok kdamonds
      refine ⟨length, fun i kdamond partner hit at' => ?_⟩
      rcases each i kdamond partner hit at' with rfl | ⟨request, atRequest, changed⟩
      · exact .refl kdamond
      · refine (normalizeTunedKdamond_ok changed).mono fun context tuned => ?_
        rcases tuned with now | ⟨before, atBefore, tuned⟩
        · exact .inl ⟨request, atRequest, now⟩
        · exact .inr ⟨before, atBefore, tuned⟩

/-- What passes the comparison with the request agrees with it. -/
theorem agreesWith_of_normalized {requested previous observed normalized : DamonConfig}
    (run : normalizeRunningTunedIntervals requested (some previous) observed = .ok normalized)
    (equivalent : requested.mismatchError normalized = none) :
    requested.AgreesWith previous observed := by
  obtain ⟨length, same⟩ := normalizeRunningTunedIntervals_ok run
  obtain ⟨requests, matched⟩ := mismatchError_eq_none equivalent
  refine ⟨requests.trans length, fun i request partner hit at' => ?_⟩
  have inNormalized : i < normalized.kdamonds.length :=
    length ▸ (List.getElem?_eq_some_iff.mp at').1
  have atNormalized := List.getElem?_eq_getElem inNormalized
  exact ⟨_, same i _ partner atNormalized at', matched i request _ hit atNormalized⟩

/-- Fewer contexts need to be tuned before. -/
theorem AgreesWith.weaken {requested previous other observed : DamonConfig}
    (agrees : requested.AgreesWith other observed)
    (tuned : ∀ i context, other.Tunes i context →
      requested.Tunes i context ∨ previous.Tunes i context) :
    requested.AgreesWith previous observed where
  length := agrees.length
  kdamonds := fun i request partner hit at' =>
    (agrees.kdamonds i request partner hit at').mono fun context =>
      Or.rec .inl (tuned i context)

end DamonConfig

/-! ## Requests for selected kdamonds -/

/-- A kdamond that is not selected takes over the previous configuration, to which the request
is equivalent. -/
def TakesOver (previous comparable : Option KdamondConfig) (request effective : KdamondConfig) :
    Prop :=
  previous = some effective ∧ ∃ settled, comparable = some settled ∧
    kdamondConfigurationsEquivalent request settled = true

/-- The first kdamond is taken as requested or taken over, and the others follow. -/
theorem effectiveKdamonds_cons {selected : List Nat} {index : Nat} {request : KdamondConfig}
    {rest previous comparable result : List KdamondConfig}
    (run : effectiveKdamonds selected index (request :: rest) previous comparable = .ok result) :
    ∃ first others before settled, result = first :: others ∧
      effectiveKdamonds selected (index + 1) rest before settled = .ok others ∧
      (before = previous.tail ∧ settled = comparable.tail ∨ before = [] ∧ settled = []) ∧
      (index ∈ selected ∧ first = request ∨
        index ∉ selected ∧ TakesOver previous.head? comparable.head? request first) := by
  have exhausted : effectiveKdamonds selected index (request :: rest) [] [] = .ok result →
      ∃ others, result = request :: others ∧
        effectiveKdamonds selected (index + 1) rest [] [] = .ok others ∧ index ∈ selected := by
    intro run
    unfold effectiveKdamonds at run
    by_cases chosen : selected.contains index = true
    · rw [if_pos chosen] at run
      cases found : effectiveKdamonds selected (index + 1) rest [] [] with
      | error error => simp [found, bind, Except.bind] at run
      | ok others =>
          exact ⟨others, by simpa [found, bind, Except.bind, pure, Except.pure] using run.symm,
            rfl, List.contains_iff_mem.mp chosen⟩
    · rw [if_neg chosen] at run
      cases run
  cases previous with
  | nil =>
      obtain ⟨others, same, found, chosen⟩ := exhausted run
      exact ⟨request, others, [], [], same, found, .inr ⟨rfl, rfl⟩, .inl ⟨chosen, rfl⟩⟩
  | cons before previousRest =>
      cases comparable with
      | nil =>
          obtain ⟨others, same, found, chosen⟩ := exhausted run
          exact ⟨request, others, [], [], same, found, .inr ⟨rfl, rfl⟩, .inl ⟨chosen, rfl⟩⟩
      | cons settled comparableRest =>
          have step : ∀ first, (do
              let others ← effectiveKdamonds selected (index + 1) rest previousRest comparableRest
              pure (first :: others)) = Except.ok result →
              ∃ others, result = first :: others ∧
                effectiveKdamonds selected (index + 1) rest previousRest comparableRest =
                  .ok others := by
            intro first run
            cases found : effectiveKdamonds selected (index + 1) rest previousRest
                comparableRest with
            | error error => simp [found, bind, Except.bind] at run
            | ok others =>
                exact ⟨others,
                  by simpa [found, bind, Except.bind, pure, Except.pure] using run.symm, rfl⟩
          unfold effectiveKdamonds at run
          by_cases chosen : selected.contains index = true
          · rw [if_pos chosen] at run
            obtain ⟨others, same, found⟩ := step request run
            exact ⟨request, others, _, _, same, found, .inl ⟨rfl, rfl⟩,
              .inl ⟨List.contains_iff_mem.mp chosen, rfl⟩⟩
          · rw [if_neg chosen] at run
            split at run
            · rename_i equivalent
              obtain ⟨others, same, found⟩ := step before run
              exact ⟨before, others, _, _, same, found, .inl ⟨rfl, rfl⟩,
                .inr ⟨fun member => chosen (List.contains_iff_mem.mpr member), rfl, settled, rfl,
                  equivalent⟩⟩
            · cases run

theorem effectiveKdamonds_ok {selected : List Nat} {index : Nat}
    {requested previous comparable result : List KdamondConfig}
    (run : effectiveKdamonds selected index requested previous comparable = .ok result) :
    result.length = requested.length ∧ ∀ (i : Nat) (request effective : KdamondConfig),
      requested[i]? = some request → result[i]? = some effective →
      (index + i ∈ selected ∧ effective = request) ∨
      (index + i ∉ selected ∧ TakesOver previous[i]? comparable[i]? request effective) := by
  induction requested generalizing index previous comparable result with
  | nil =>
      have empty : result = [] := by simpa [effectiveKdamonds] using run.symm
      subst empty
      exact ⟨rfl, fun i _ _ hit _ => by simp at hit⟩
  | cons request rest ih =>
      obtain ⟨first, others, before, settled, rfl, found, sources, chosen⟩ :=
        effectiveKdamonds_cons run
      obtain ⟨length, each⟩ := ih found
      refine ⟨by simp [length], fun i wanted effective hit at' => ?_⟩
      cases i with
      | zero =>
          cases hit
          cases at'
          rw [Nat.add_zero, ← List.head?_eq_getElem?, ← List.head?_eq_getElem?]
          exact chosen
      | succ i =>
          have later := each i wanted effective (by simpa using hit) (by simpa using at')
          rw [show index + (i + 1) = index + 1 + i by omega]
          refine later.imp id fun ⟨unselected, atPrevious, partner⟩ => ?_
          rcases sources with ⟨rfl, rfl⟩ | ⟨rfl, rfl⟩
          · rw [List.getElem?_tail] at atPrevious partner
            exact ⟨unselected, atPrevious, partner⟩
          · simp at atPrevious

theorem effectiveKdamonds_selected {selected : List Nat}
    {requested previous comparable result : List KdamondConfig}
    (run : effectiveKdamonds selected 0 requested previous comparable = .ok result) {i : Nat}
    (member : i ∈ selected) : requested[i]? = result[i]? := by
  obtain ⟨length, each⟩ := effectiveKdamonds_ok run
  cases hit : requested[i]? with
  | none =>
      have outside := List.getElem?_eq_none_iff.mp hit
      exact (List.getElem?_eq_none (length.trans_le outside)).symm
  | some request =>
      have inResult : i < result.length := length ▸ (List.getElem?_eq_some_iff.mp hit).1
      have atResult := List.getElem?_eq_getElem inResult
      rcases each i request _ hit atResult with ⟨_, same⟩ | ⟨unselected, _⟩
      · rw [atResult, same]
      · rw [Nat.zero_add] at unselected
        exact absurd member unselected

theorem withoutObsoleteTargets_getElem? (config : DamonConfig) (selected : List Nat) (i : Nat) :
    (withoutObsoleteTargets config selected).kdamonds[i]? =
      config.kdamonds[i]?.map fun kdamond =>
        if i ∈ selected then
          { kdamond with contexts := kdamond.contexts.map ContextConfig.withoutObsoleteTargets }
        else kdamond := by
  simp only [withoutObsoleteTargets, List.getElem?_map, List.getElem?_zipIdx, Option.map_map,
    Nat.zero_add]
  cases config.kdamonds[i]? with
  | none => rfl
  | some kdamond => simp

theorem withoutObsoleteTargets_length (config : DamonConfig) (selected : List Nat) :
    (withoutObsoleteTargets config selected).kdamonds.length = config.kdamonds.length := by
  simp [withoutObsoleteTargets]

/-- Targets have nothing to do with tuning. -/
theorem DamonConfig.Tunes.withoutObsoleteTargets {config : DamonConfig} {i context : Nat}
    (tunes : config.Tunes i context) (selected : List Nat) :
    (withoutObsoleteTargets config selected).Tunes i context := by
  obtain ⟨kdamond, hit, found, at', tuned⟩ := tunes
  have hit' := withoutObsoleteTargets_getElem? config selected i
  rw [hit, Option.map_some] at hit'
  by_cases chosen : i ∈ selected
  · rw [if_pos chosen] at hit'
    exact ⟨_, hit', found.withoutObsoleteTargets, by simp [at'], tuned⟩
  · rw [if_neg chosen] at hit'
    exact ⟨kdamond, hit', found, at', tuned⟩

/-- Without obsolete targets there is nothing to remove. -/
theorem withoutObsoleteTargets_of_none {config : DamonConfig} {selected : List Nat}
    (none : containsObsoleteTargets config selected = false) :
    withoutObsoleteTargets config selected = config := by
  have same : (withoutObsoleteTargets config selected).kdamonds = config.kdamonds := by
    refine List.ext_getElem? fun i => ?_
    rw [withoutObsoleteTargets_getElem?]
    cases hit : config.kdamonds[i]? with
    | none => rfl
    | some kdamond =>
        rw [Option.map_some]
        by_cases chosen : i ∈ selected
        · have kept : kdamond.contexts.map ContextConfig.withoutObsoleteTargets =
              kdamond.contexts := by
            refine (List.map_congr_left fun context member => ?_).trans (List.map_id _)
            have targets : context.targets.filter (fun target => !target.obsolete) =
                context.targets := by
              refine List.filter_eq_self.mpr fun target inTargets => ?_
              simp only [containsObsoleteTargets, List.any_eq_false] at none
              have noneHere := none i chosen
              rw [hit, Option.any_some, Bool.not_eq_true, List.any_eq_false] at noneHere
              have noTarget := noneHere context member
              rw [Bool.not_eq_true, List.any_eq_false] at noTarget
              simpa using noTarget target inTargets
            rw [ContextConfig.withoutObsoleteTargets, targets]
            rfl
          rw [if_pos chosen, kept]
        · rw [if_neg chosen]
  cases config
  exact congrArg DamonConfig.mk same

/-- A read-back that agrees with what was staged agrees with the request: both are the same for
selected kdamonds, and the others were taken over as equivalent. -/
theorem DamonConfig.AgreesWith.requested {selected : List Nat}
    {config previous comparable effective request staged observed : DamonConfig}
    (normalized : normalizeRunningTunedIntervals config (some previous) previous = .ok comparable)
    (plans : effectiveKdamonds selected 0 config.kdamonds previous.kdamonds comparable.kdamonds =
      .ok effective.kdamonds)
    (lengths : request.kdamonds.length = staged.kdamonds.length)
    (chosen : ∀ i ∈ selected, request.kdamonds[i]? = staged.kdamonds[i]?)
    (others : ∀ i ∉ selected, request.kdamonds[i]? = config.kdamonds[i]? ∧
      staged.kdamonds[i]? = effective.kdamonds[i]?)
    (agrees : staged.AgreesWith previous observed) : request.AgreesWith previous observed where
  length := lengths.trans agrees.length
  kdamonds := by
    intro i wanted partner hit at'
    by_cases member : i ∈ selected
    · have atStaged := (chosen i member).symm.trans hit
      refine (agrees.kdamonds i wanted partner atStaged at').mono fun context => Or.imp ?_ id
      rintro ⟨found, atFound, tuned⟩
      exact ⟨found, (chosen i member).trans atFound, tuned⟩
    · obtain ⟨atConfig, atEffective⟩ := others i member
      obtain ⟨length, each⟩ := effectiveKdamonds_ok plans
      have inEffective : i < effective.kdamonds.length :=
        length ▸ (List.getElem?_eq_some_iff.mp (atConfig.symm.trans hit)).1
      have hitEffective := List.getElem?_eq_getElem inEffective
      rcases each i wanted _ (atConfig.symm.trans hit) hitEffective with
        ⟨isSelected, _⟩ | ⟨_, takenOver, settled, atSettled, equivalent⟩
      · rw [Nat.zero_add] at isSelected
        exact absurd isSelected member
      have same := (normalizeRunningTunedIntervals_ok normalized).2 i settled _ atSettled takenOver
      have first : wanted.AgreesWith
          (fun context => request.Tunes i context ∨ previous.Tunes i context)
          effective.kdamonds[i] := by
        refine ⟨settled, same.mono fun context => Or.imp ?_ id, equivalent⟩
        rintro ⟨found, atFound, tuned⟩
        exact ⟨found, atConfig.trans atFound, tuned⟩
      refine first.trans ((agrees.kdamonds i _ partner (atEffective.trans hitEffective) at').mono ?_)
      rintro context (⟨found, atFound, tuned⟩ | before)
      · have isPrevious := (atEffective.trans hitEffective).symm.trans atFound
        exact .inr ⟨found, takenOver.trans isPrevious, tuned⟩
      · exact .inr before

end DamonRs
