import DamonRs.Sysfs.Frame
import DamonRs.Sysfs.Moments

/-!
# Worlds that programs reach

A world is reached from another one by confined programs, whether they end with
a value or an error.  What every allowed access maintains holds where they lead,
and an attribute that no successful write concerns changes only when others
change it.
-/

namespace DamonRs

open Library Sysfs

/-- Confined programs lead from one world to another. -/
def World.Reaches (allowed : Access → Prop) (env : Env) : World → World → Prop :=
  Relation.ReflTransGen fun before after =>
    ∃ (α : Type) (program : Sysfs α), Confined allowed program ∧ (program env before).2 = after

namespace World.Reaches

variable {allowed : Access → Prop} {env : Env} {α : Type}

theorem refl (world : World) : World.Reaches allowed env world world :=
  Relation.ReflTransGen.refl

theorem trans {first second third : World} (one : World.Reaches allowed env first second)
    (two : World.Reaches allowed env second third) : World.Reaches allowed env first third :=
  Relation.ReflTransGen.trans one two

theorem of_run {program : Sysfs α} (confined : Confined allowed program) {before after : World}
    {outcome : Except Error α} (run : program env before = (outcome, after)) :
    World.Reaches allowed env before after :=
  .single ⟨α, program, confined, by rw [run]⟩

theorem of_attempt {program : Sysfs α} (confined : Confined allowed program) {before after : World}
    {outcome : Except Error (Except Error α)}
    (run : Exec.attempt program env before = (outcome, after)) :
    World.Reaches allowed env before after := by
  rw [Exec.attempt_run] at run
  exact .of_run confined (Prod.ext rfl (Prod.ext_iff.mp run).2)

/-- An inspection leads to the next world. -/
theorem inspect (world : World) (path : Path) :
    World.Reaches allowed env world (env.advance world (.inspect path)) := by
  refine .single ⟨_, Sysfs.inspect path fun _ => (), .inspect path _, ?_⟩
  unfold Sysfs.inspect
  rw [Exec.bind_run, perform_run]
  cases (env.serve world (.inspect path)).1 <;> rfl

theorem mono {wider : Access → Prop} {before after : World}
    (reaches : World.Reaches allowed env before after)
    (widen : ∀ access, allowed access → wider access) :
    World.Reaches wider env before after := by
  refine Relation.ReflTransGen.mono ?_ _ _ reaches
  rintro first second ⟨β, program, confined, same⟩
  exact ⟨β, program, confined.mono widen, same⟩

/-- A relation that confined programs move the world by holds of what they reach. -/
theorem moves {relation : Env → World → World → Prop} {before after : World}
    (reaches : World.Reaches allowed env before after)
    (refl : ∀ world, relation env world world)
    (trans : ∀ first second third,
      relation env first second → relation env second third → relation env first third)
    (confined : ∀ {α : Type} {program : Sysfs α}, Confined allowed program →
      Exec.Moves relation program) : relation env before after := by
  induction reaches with
  | refl => exact refl before
  | tail _ step ih =>
      obtain ⟨β, program, isConfined, rfl⟩ := step
      exact trans _ _ _ ih (confined isConfined env _)

/-- The attempt that decides a repeated program starts where the earlier ones lead. -/
theorem of_retry {program : Sysfs α} (confined : Confined allowed program) {before after : World}
    {outcome : Except Error α} (run : retryBusy program env before = (outcome, after)) :
    ∃ start, World.Reaches allowed env before start ∧ program env start = (outcome, after) := by
  obtain ⟨start, attempts, ends⟩ :=
    Exec.retry_ends Error.isResourceBusy program maxRetries env before
  refine ⟨start, Relation.ReflTransGen.mono ?_ _ _ attempts, ends.symm.trans run⟩
  rintro first second ⟨_, _, failed⟩
  exact ⟨α, program, confined, by rw [failed]⟩

theorem advances {before after : World} (reaches : World.Reaches allowed env before after) :
    World.Advances env before after :=
  reaches.moves .refl (fun _ _ _ => .trans) Confined.advances

/-- What the allowed writes keep lasts. -/
theorem keeps {holds : System → Prop} {before after : World}
    (writes : ∀ path value, allowed (.write path value) → ∀ kernel pid sys after, holds sys →
      System.write kernel pid sys path value = .ok after → holds after)
    (reaches : World.Reaches allowed env before after) (lasting : Lasting holds env before) :
    Lasting holds env after :=
  have relation : (fun (env : Env) (before after : World) => Lasting holds env before →
      Lasting holds env after) env before after :=
    reaches.moves (fun _ lasting => lasting) (fun _ _ _ first second lasting =>
      second (first lasting)) fun confined => confined.lasting writes
  relation lasting

/-- Programs that only read keep what lasts. -/
theorem lasting {holds : System → Prop} {before after : World}
    (reaches : World.Reaches ReadsOnly env before after) (lasting : Lasting holds env before) :
    Lasting holds env after :=
  reaches.keeps (fun _ _ permitted => permitted.elim) lasting

/-- The rest of a program runs from where its first part leads. -/
theorem of_bind {β : Type} {program : Sysfs α} {next : α → Sysfs β}
    (confined : Confined allowed program) {before after : World} {result : β}
    (run : (program >>= next) env before = (.ok result, after)) :
    ∃ value middle, World.Reaches allowed env before middle ∧
      program env before = (.ok value, middle) ∧ next value env middle = (.ok result, after) := by
  obtain ⟨value, middle, here, rest⟩ := Exec.bind_eq_ok run
  exact ⟨value, middle, .of_run confined here, here, rest⟩

theorem of_reading {β : Type} {program : Sysfs α} {next : α → Sysfs β}
    (confined : Confined ReadsOnly program) {before after : World} {result : β}
    (run : (program >>= next) env before = (.ok result, after)) :
    ∃ value middle, World.Reaches ReadsOnly env before middle ∧
      program env before = (.ok value, middle) ∧ next value env middle = (.ok result, after) :=
  of_bind confined run

/-- Each value comes from a run for the item at its index. -/
theorem of_mapEach {β : Type} {body : α → Sysfs β} {items : List α} {before after : World}
    {values : List β} (confined : ∀ item ∈ items, Confined allowed (body item))
    (run : Exec.mapEach body items env before = (.ok values, after)) {i : Nat} {value : β}
    (hit : values[i]? = some value) :
    ∃ item start done, items[i]? = some item ∧ World.Reaches allowed env before start ∧
      body item env start = (.ok value, done) ∧ World.Reaches allowed env done after := by
  induction items generalizing before values i with
  | nil =>
      cases run
      simp at hit
  | cons item rest ih =>
      obtain ⟨first, middle, here, others⟩ := Exec.bind_eq_ok run
      obtain ⟨found, last, mapped, made⟩ := Exec.bind_eq_ok others
      cases made
      have later : ∀ other ∈ rest, Confined allowed (body other) :=
        fun other member => confined other (List.mem_cons_of_mem item member)
      have ends : World.Reaches allowed env middle after := .of_run (.mapEach rest later) mapped
      cases i with
      | zero =>
          cases hit
          exact ⟨item, before, middle, rfl, .refl before, here, ends⟩
      | succ i =>
          obtain ⟨other, start, done, at', starts, ran, finishes⟩ := ih later mapped hit
          have begins := World.Reaches.of_run (confined item (List.mem_cons_self ..)) here
          exact ⟨other, start, done, at', begins.trans starts, ran, finishes⟩

end World.Reaches

/-! ## Files that writes leave alone -/

/-- A write to a path changes another attribute by no means. -/
def Path.LeavesAlone (path other : Path) : Prop :=
  other ≠ path ∧ (Path.isReconstructionCount path = true →
    (indexedChild? path.dropLast other).isSome = false)

/-- An access that neither writes nor rebuilds an attribute. -/
def Access.Spares (path : Path) : Access → Prop
  | .write other _ => Path.LeavesAlone other path
  | _ => True

theorem Access.Spares.of_reads {path : Path} {access : Access} (reads : ReadsOnly access) :
    access.Spares path := by
  cases access with
  | write other value => exact reads.elim
  | _ => trivial

instance (path other : Path) : Decidable (Path.LeavesAlone path other) :=
  inferInstanceAs (Decidable (_ ∧ _))

instance (path : Path) : (access : Access) → Decidable (access.Spares path)
  | .write other _ => inferInstanceAs (Decidable (Path.LeavesAlone other path))
  | .inspect _ | .read _ | .compare _ => .isTrue trivial

/-! ## What others change -/

namespace Moment

/-- The path that is written, if the write succeeds. -/
def written (moment : Moment) : Option Path :=
  match moment.access, moment.reply with
  | .write path _, .done => some path
  | _, _ => none

/-- Nothing is written that an attribute depends on. -/
def Spares (path : Path) (moment : Moment) : Prop :=
  ∀ other, moment.written = some other → Path.LeavesAlone other path

/-- Others leave what is seen of an attribute as it is. -/
def Keeps {β : Type} (seen : Option File → β) (path : Path) (moment : Moment) : Prop :=
  seen (moment.system.files.get? path) = seen (moment.before.files.get? path)

theorem Spares.of_access {path : Path} {moment : Moment} (spares : moment.access.Spares path) :
    moment.Spares path := by
  obtain ⟨before, system, access, reply⟩ := moment
  intro other isWritten
  unfold written at isWritten
  split at isWritten
  · rename_i target value isAccess isDone
    cases isWritten
    obtain rfl : access = .write other value := isAccess
    exact spares
  · cases isWritten

end Moment

section Changes

variable {env : Env} {path : Path}

theorem Env.advance_spared {world : World} {access : Access}
    (configuration : Path.isRuntimeAttribute path = false)
    (spares : (env.moment world access).Spares path) :
    (env.advance world access).sys.files.get? path =
      (env.moment world access).system.files.get? path := by
  cases access with
  | write other value =>
      rcases env.serve_write world other value with ⟨fault, failed⟩ | ⟨after, done, written⟩
      · simp only [Env.advance, failed, Env.moment]
      · have apart : Path.LeavesAlone other path :=
          spares other (by simp only [Env.moment, Moment.written, done])
        simp only [Env.advance, done, Env.moment]
        exact System.write_other written apart.1 configuration apart.2
  | inspect other => rw [env.advance_sys world (show ReadsOnly (.inspect other) from trivial)]
  | read other => rw [env.advance_sys world (show ReadsOnly (.read other) from trivial)]
  | compare other => rw [env.advance_sys world (show ReadsOnly (.compare other) from trivial)]

/-- What neither a write concerns nor others change is seen as before. -/
theorem Env.advanceAll_keeps {β : Type} {seen : Option File → β}
    (configuration : Path.isRuntimeAttribute path = false) {world : World} {accesses : List Access}
    (spares : ∀ moment ∈ env.moments world accesses, moment.Spares path)
    (keeps : ∀ moment ∈ env.moments world accesses, moment.Keeps seen path) :
    seen ((env.advanceAll world accesses).sys.files.get? path) =
      seen (world.sys.files.get? path) := by
  induction accesses generalizing world with
  | nil => rfl
  | cons access rest ih =>
      rw [Env.moments_cons, List.forall_mem_cons] at spares keeps
      calc seen ((env.advanceAll (env.advance world access) rest).sys.files.get? path)
          = seen ((env.advance world access).sys.files.get? path) := ih spares.2 keeps.2
        _ = seen ((env.moment world access).system.files.get? path) := by
            rw [env.advance_spared configuration spares.1]
        _ = seen (world.sys.files.get? path) := keeps.1

theorem World.Advances.keeps {before after : World} (advances : World.Advances env before after)
    {β : Type} {seen : Option File → β} (configuration : Path.isRuntimeAttribute path = false)
    (spares : ∀ moment ∈ World.history env before after, moment.Spares path)
    (keeps : ∀ moment ∈ World.history env before after, moment.Keeps seen path) :
    seen (after.sys.files.get? path) = seen (before.sys.files.get? path) := by
  obtain ⟨accesses, journal, rfl⟩ := advances
  rw [World.Advances.history_eq] at spares keeps
  exact env.advanceAll_keeps configuration spares keeps

end Changes

/-! ## The journal -/

/-- The journal gets the paths of the successful writes. -/
structure World.Records (env : Env) (before after : World) : Prop where
  advances : World.Advances env before after
  journal : ∀ written, before.journal = some written → after.journal =
    some (written ++ (World.history env before after).filterMap Moment.written)

namespace World.Records

variable {env : Env}

theorem refl (world : World) : World.Records env world world where
  advances := .refl world
  journal := fun written kept => by
    rw [kept, World.history_self, List.filterMap_nil, List.append_nil]

theorem trans {first second third : World} (one : World.Records env first second)
    (two : World.Records env second third) : World.Records env first third where
  advances := one.advances.trans two.advances
  journal := fun written kept => by
    rw [two.journal _ (one.journal written kept), one.advances.history_append two.advances,
      List.filterMap_append, List.append_assoc]

end World.Records

theorem Sysfs.Confined.records {allowed : Access → Prop} {α : Type} {program : Sysfs α}
    (confined : Confined allowed program) : Exec.Moves World.Records program := by
  have reads : ∀ access, ReadsOnly access → ∀ env world,
      World.Records env world (env.advance world access) := fun access isRead env world =>
    ⟨.advance world access, fun written kept => by
      have nothing : (env.moment world access).written = none := by
        cases access with
        | write other value => exact isRead.elim
        | _ => rfl
      rw [World.history_advance, List.filterMap_cons, nothing, List.filterMap_nil,
        List.append_nil]
      exact kept⟩
  refine confined.moves (fun _ => .refl) (fun _ _ _ _ => .trans) (fun path => reads _ trivial)
    (fun path _ => reads _ trivial) (fun path _ => reads _ trivial) fun path value _ => ?_
  intro env world
  have advanced : World.Advances env world ((env.advance world (.write path value)).recordWrite path) :=
    ⟨[.write path value], ((env.advance world (.write path value)).recordWrite path).journal, rfl⟩
  have history : World.history env world ((env.advance world (.write path value)).recordWrite path) =
      [env.moment world (.write path value)] := World.history_advance env world _
  unfold writeBytes
  rw [Exec.bind_run, perform_run]
  rcases env.serve_write world path value with ⟨⟨stage, errno⟩, failed⟩ | ⟨after, done, -⟩
  · have failing : World.Records env world (env.advance world (.write path value)) :=
      ⟨.advance world _, fun written kept => by
        have nothing : (env.moment world (.write path value)).written = none := by
          simp only [Env.moment, Moment.written, failed]
        rw [World.history_advance, List.filterMap_cons, nothing, List.filterMap_nil,
          List.append_nil]
        exact kept⟩
    rw [failed]
    cases stage <;> exact failing
  · rw [done]
    refine ⟨advanced, fun written kept => ?_⟩
    have here : (env.moment world (.write path value)).written = some path := by
      simp only [Env.moment, Moment.written, done]
    show ((env.advance world (.write path value)).recordWrite path).journal = some (written ++
      (World.history env world ((env.advance world (.write path value)).recordWrite path)).filterMap
        Moment.written)
    rw [history, List.filterMap_cons, here, List.filterMap_nil]
    simp [World.recordWrite, Env.advance, kept]

theorem World.Reaches.records {allowed : Access → Prop} {env : Env} {before after : World}
    (reaches : World.Reaches allowed env before after) : World.Records env before after :=
  reaches.moves .refl (fun _ _ _ => .trans) Confined.records

end DamonRs
