import DamonRs.Sysfs.Compare
import DamonRs.Sysfs.Trace

/-!
# The moments of a run

The environment may change the system before every access.  The history of a
run lists its accesses, each with the system that the access before it left,
the system it found and the reply it got; what others did is the difference of
the two systems.  It is determined by the world at the beginning and by the
accesses in the trace, and the history of a composition is the one of its parts
in order.
-/

namespace DamonRs

open Library Sysfs

/-- An access with the system left before it, the system it finds and its reply. -/
structure Moment where
  before : System
  system : System
  access : Access
  reply : Reply

namespace Env

variable (env : Env)

/-- The moment of the next access. -/
def moment (world : World) (access : Access) : Moment :=
  ⟨world.sys, env.interfere world.clock world.sys, access, (env.serve world access).1⟩

/-- The moments of accesses that are made one after the other. -/
def moments (env : Env) : World → List Access → List Moment
  | _, [] => []
  | world, access :: rest => env.moment world access :: env.moments (env.advance world access) rest

/-- The world after accesses that are made one after the other. -/
def advanceAll (env : Env) : World → List Access → World
  | world, [] => world
  | world, access :: rest => env.advanceAll (env.advance world access) rest

@[simp] theorem moments_nil (world : World) : env.moments world [] = [] := rfl

@[simp] theorem moments_cons (world : World) (access : Access) (rest : List Access) :
    env.moments world (access :: rest) =
      env.moment world access :: env.moments (env.advance world access) rest := rfl

@[simp] theorem advanceAll_nil (world : World) : env.advanceAll world [] = world := rfl

@[simp] theorem advanceAll_cons (world : World) (access : Access) (rest : List Access) :
    env.advanceAll world (access :: rest) = env.advanceAll (env.advance world access) rest := rfl

theorem advanceAll_clock (world : World) (accesses : List Access) :
    world.clock ≤ (env.advanceAll world accesses).clock := by
  induction accesses generalizing world with
  | nil => exact le_refl _
  | cons access rest ih => exact le_trans (Nat.le_succ world.clock) (ih (env.advance world access))

theorem moments_append (world : World) (first second : List Access) :
    env.moments world (first ++ second) =
      env.moments world first ++ env.moments (env.advanceAll world first) second := by
  induction first generalizing world with
  | nil => rfl
  | cons access rest ih => simp [ih]

theorem advanceAll_append (world : World) (first second : List Access) :
    env.advanceAll world (first ++ second) =
      env.advanceAll (env.advanceAll world first) second := by
  induction first generalizing world with
  | nil => rfl
  | cons access rest ih => simp [ih]

/-- The journal takes no part in an access. -/
theorem advanceAll_journal (world : World) (accesses : List Access)
    (journal : Option (List Path)) :
    env.advanceAll { world with journal := journal } accesses =
      { env.advanceAll world accesses with journal := journal } := by
  induction accesses generalizing world with
  | nil => rfl
  | cons access rest ih => exact ih (env.advance world access)

theorem moments_journal (world : World) (accesses : List Access)
    (journal : Option (List Path)) :
    env.moments { world with journal := journal } accesses = env.moments world accesses := by
  induction accesses generalizing world with
  | nil => rfl
  | cons access rest ih =>
      rw [moments_cons, moments_cons]
      exact congrArg _ (ih (env.advance world access))

@[simp] theorem moments_access (world : World) (accesses : List Access) :
    (env.moments world accesses).map Moment.access = accesses := by
  induction accesses generalizing world with
  | nil => rfl
  | cons access rest ih =>
      rw [moments_cons, List.map_cons, ih]
      rfl

@[simp] theorem advanceAll_self (world : World) (accesses : List Access) :
    (env.advanceAll world accesses).self = world.self := by
  induction accesses generalizing world with
  | nil => rfl
  | cons access rest ih => exact ih (env.advance world access)

/-- The trace holds the accesses and the replies of the moments. -/
theorem advanceAll_trace (world : World) (accesses : List Access) :
    (env.advanceAll world accesses).trace =
      ((env.moments world accesses).map fun moment =>
        (⟨moment.access, moment.reply, world.self.states⟩ : Event)).reverse ++ world.trace := by
  induction accesses generalizing world with
  | nil => rfl
  | cons access rest ih =>
      rw [advanceAll_cons, ih, moments_cons, List.map_cons, List.reverse_cons, List.append_assoc]
      rfl

/-- An access that reads leaves the system as it finds it. -/
theorem advance_sys (world : World) {access : Access} (reads : ReadsOnly access) :
    (env.advance world access).sys = (env.moment world access).system := by
  unfold advance serve moment
  cases env.fault world.clock access with
  | some fault => rfl
  | none =>
      cases access with
      | inspect path => rfl
      | read path =>
          dsimp only [respond]
          cases (env.interfere world.clock world.sys).files.get? path <;> rfl
      | compare path =>
          dsimp only [respond]
          cases (env.interfere world.clock world.sys).files.get? path <;> rfl
      | write path value => exact reads.elim

/-- What an access that reads a file returns is the content the file has at that moment. -/
theorem moments_content {world : World} {accesses : List Access} {moment : Moment}
    (member : moment ∈ env.moments world accesses) {path : Path} {content : Content}
    (reads : moment.access = .read path) (replied : moment.reply = .content content) :
    ∃ file, moment.system.files.get? path = some file ∧ file.content = content := by
  induction accesses generalizing world with
  | nil => cases member
  | cons access rest ih =>
      rcases List.mem_cons.mp member with rfl | later
      · obtain rfl : access = .read path := reads
        obtain ⟨file, found, same⟩ := advance_content (.inl rfl) replied
        rw [env.advance_sys world (show ReadsOnly (.read path) from trivial)] at found
        exact ⟨file, found, same⟩
      · exact ih later

end Env

namespace World

/-- The accesses made between two worlds. -/
def accessesSince (before after : World) : List Access :=
  ((after.trace.take (after.trace.length - before.trace.length)).map Event.access).reverse

/-- The moments between two worlds. -/
def history (env : Env) (before after : World) : List Moment :=
  env.moments before (accessesSince before after)

/-- A world is reached by making accesses, and by nothing else that the trace does not show. -/
def Advances (env : Env) (before after : World) : Prop :=
  ∃ accesses journal, after = { env.advanceAll before accesses with journal := journal }

namespace Advances

variable {env : Env} {first second third before after : World}

theorem refl (world : World) : Advances env world world := ⟨[], world.journal, rfl⟩

theorem trans (one : Advances env first second) (two : Advances env second third) :
    Advances env first third := by
  obtain ⟨accesses, journal, rfl⟩ := one
  obtain ⟨more, last, rfl⟩ := two
  refine ⟨accesses ++ more, last, ?_⟩
  rw [env.advanceAll_append, env.advanceAll_journal]

theorem advance (world : World) (access : Access) : Advances env world (env.advance world access) :=
  ⟨[access], world.journal, rfl⟩

theorem self (advances : Advances env before after) : after.self = before.self := by
  obtain ⟨accesses, journal, rfl⟩ := advances
  exact env.advanceAll_self before accesses

theorem accessesSince_eq {accesses : List Access} {journal : Option (List Path)} :
    accessesSince before { env.advanceAll before accesses with journal := journal } =
      accesses := by
  have trace := env.advanceAll_trace before accesses
  have length : (env.advanceAll before accesses).trace.length - before.trace.length =
      accesses.length := by
    rw [trace, List.length_append, List.length_reverse, List.length_map, Nat.add_sub_cancel,
      ← List.length_map Moment.access, env.moments_access]
  unfold accessesSince
  dsimp only
  rw [length, trace, List.take_left' (by
    rw [List.length_reverse, List.length_map, ← List.length_map Moment.access,
      env.moments_access]), List.map_reverse, List.reverse_reverse, List.map_map]
  exact env.moments_access before accesses

theorem history_eq {accesses : List Access} {journal : Option (List Path)} :
    history env before { env.advanceAll before accesses with journal := journal } =
      env.moments before accesses := by
  unfold history
  rw [accessesSince_eq]

theorem history_advanceAll (before : World) (accesses : List Access) :
    history env before (env.advanceAll before accesses) = env.moments before accesses :=
  have same : history env before { env.advanceAll before accesses with
      journal := (env.advanceAll before accesses).journal } = env.moments before accesses :=
    history_eq
  same

/-- The history of a composition. -/
theorem history_append (one : Advances env first second) (two : Advances env second third) :
    history env first third = history env first second ++ history env second third := by
  obtain ⟨accesses, journal, rfl⟩ := one
  obtain ⟨more, last, rfl⟩ := two
  have whole : history env first { env.advanceAll { env.advanceAll first accesses with
      journal := journal } more with journal := last } = env.moments first (accesses ++ more) := by
    rw [env.advanceAll_journal, ← env.advanceAll_append]
    exact history_eq
  rw [whole, history_eq, history_eq, env.moments_append]
  exact congrArg _ (env.moments_journal _ more journal).symm

/-- A history is cut where its moments are. -/
theorem split (advances : Advances env before after) {earlier later : List Moment}
    {moment : Moment} (cut : history env before after = earlier ++ moment :: later) :
    ∃ middle, Advances env before middle ∧ history env before middle = earlier ∧
      moment = env.moment middle moment.access ∧
      Advances env (env.advance middle moment.access) after ∧
      history env (env.advance middle moment.access) after = later := by
  obtain ⟨accesses, journal, rfl⟩ := advances
  rw [history_eq] at cut
  have listed : accesses =
      earlier.map Moment.access ++ moment.access :: later.map Moment.access := by
    rw [← env.moments_access before accesses, cut, List.map_append, List.map_cons]
  rw [listed, env.moments_append, env.moments_cons] at cut
  obtain ⟨first, rest⟩ := List.append_inj cut (by
    rw [← List.length_map Moment.access, env.moments_access, List.length_map])
  obtain ⟨here, last⟩ := List.cons.inj rest
  subst listed
  rw [env.advanceAll_append, env.advanceAll_cons]
  refine ⟨env.advanceAll before (earlier.map Moment.access),
    ⟨_, (env.advanceAll before (earlier.map Moment.access)).journal, rfl⟩, ?_, here.symm,
    ⟨_, journal, rfl⟩, history_eq.trans last⟩
  exact (history_advanceAll before _).trans first

/-- A moment of the first part is one of the whole. -/
theorem history_first (one : Advances env first second) (two : Advances env second third) :
    history env first second ⊆ history env first third := by
  rw [one.history_append two]
  exact List.subset_append_left _ _

/-- A moment of the second part is one of the whole. -/
theorem history_second (one : Advances env first second) (two : Advances env second third) :
    history env second third ⊆ history env first third := by
  rw [one.history_append two]
  exact List.subset_append_right _ _

/-- The trace that a run adds is its history. -/
theorem trace_eq (advances : Advances env before after) :
    after.trace = ((history env before after).map fun moment =>
      (⟨moment.access, moment.reply, before.self.states⟩ : Event)).reverse ++ before.trace := by
  obtain ⟨accesses, journal, rfl⟩ := advances
  rw [history_eq]
  exact env.advanceAll_trace before accesses

/-- The accesses of a history are those the trace is extended by. -/
theorem history_accesses (advances : Advances env before after) {allowed : Access → Prop}
    (since : Since allowed before after) :
    ∀ moment ∈ history env before after, allowed moment.access := by
  intro moment member
  obtain ⟨later, trace, accesses⟩ := since
  rw [advances.trace_eq] at trace
  have same := List.append_cancel_right trace
  have event := accesses ⟨moment.access, moment.reply, before.self.states⟩ (by
    rw [← same, List.mem_reverse]
    exact List.mem_map_of_mem member)
  exact event

/-- The latest event of a run is its last moment. -/
theorem history_last (advances : Advances env before after) {event : Event} {earlier : List Event}
    (trace : after.trace = event :: earlier) (longer : before.trace.length ≤ earlier.length) :
    ∃ moments moment, history env before after = moments ++ [moment] ∧
      moment.access = event.access ∧ moment.reply = event.reply := by
  rcases List.eq_nil_or_concat (history env before after) with empty | ⟨moments, moment, same⟩
  · have unchanged := advances.trace_eq
    rw [empty, trace] at unchanged
    have lengths := congrArg List.length unchanged
    simp only [List.map_nil, List.reverse_nil, List.nil_append, List.length_cons] at lengths
    omega
  · have latest := advances.trace_eq
    rw [same, trace, List.concat_eq_append, List.map_append, List.reverse_append] at latest
    simp only [List.map_cons, List.map_nil, List.reverse_cons, List.reverse_nil, List.nil_append,
      List.cons_append, List.cons.injEq] at latest
    refine ⟨moments, moment, by rw [same, List.concat_eq_append], ?_, ?_⟩
    · rw [latest.1]
    · rw [latest.1]

end Advances

theorem history_advance (env : Env) (world : World) (access : Access) :
    history env world (env.advance world access) = [env.moment world access] :=
  Advances.history_advanceAll world [access]

theorem history_self (env : Env) (world : World) : history env world world = [] :=
  Advances.history_advanceAll world []

end World

/-- A confined program makes accesses and keeps its journal. -/
theorem Sysfs.Confined.advances {allowed : Access → Prop} {α : Type} {program : Sysfs α}
    (confined : Confined allowed program) : Exec.Moves World.Advances program := by
  have performs : ∀ access, Exec.Moves World.Advances (perform access) :=
    fun access _ world => .advance world access
  refine confined.moves (fun _ => .refl) (fun _ _ _ _ => .trans) (fun _ => performs _)
    (fun _ _ => performs _) (fun _ _ => performs _) fun path value _ => ?_
  refine Exec.moves_bind (fun _ _ _ _ => .trans) (performs _) fun reply => ?_
  have recorded : Exec.Moves World.Advances (recordWrite path) :=
    fun _ world => ⟨[], (world.recordWrite path).journal, rfl⟩
  cases reply with
  | failed fault =>
      dsimp only
      split <;> exact Exec.moves_fail (fun _ => .refl) _
  | done => exact recorded
  | content content => exact recorded

end DamonRs
