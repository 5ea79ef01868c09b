import DamonRs.Sysfs.Reaches

/-!
# Runs within a lasting property

While the kdamond count lasts, staging that many kdamonds never writes the
count.  So the hierarchy is not rebuilt, and a kdamond that was observed as
requested is not touched.
-/

namespace DamonRs

open Library Sysfs

/-! ## What has been accessed since -/

/-- A run of a confined program makes allowed accesses. -/
theorem Sysfs.Confined.since {allowed : Access → Prop} {α : Type} {program : Sysfs α}
    (confined : Confined allowed program) (inspects : ∀ path, allowed (.inspect path)) {env : Env}
    {before after : World} {outcome : Except Error α}
    (run : program env before = (outcome, after)) : World.Since allowed before after := by
  have since := (confined.accesses inspects env before).since
  rwa [run] at since

theorem World.Reaches.since {allowed : Access → Prop} (inspects : ∀ path, allowed (.inspect path))
    {env : Env} {before after : World} (reaches : World.Reaches allowed env before after) :
    World.Since allowed before after :=
  reaches.moves (fun _ => .refl _) (fun _ _ _ => .trans)
    fun confined _ _ => confined.since inspects rfl

/-! ## Lasting properties -/

/-- From a start on a property of the system lasts, the memory of the session is the same, and
only allowed accesses are made and journaled. -/
structure World.Within (allowed : Access → Prop) (holds : System → Prop) (env : Env)
    (start world : World) : Prop where
  lasting : Lasting holds env world
  accesses : World.Extends allowed start world
  journals : World.Journals allowed start world

theorem World.Within.refl {allowed : Access → Prop} {holds : System → Prop} {env : Env}
    {world : World} (lasting : Lasting holds env world) :
    World.Within allowed holds env world world :=
  ⟨lasting, .refl world, .same rfl⟩

theorem Sysfs.Confined.within {allowed : Access → Prop} {holds : System → Prop} {env : Env}
    {start : World} {α : Type} {program : Sysfs α} (confined : Confined allowed program)
    (inspects : ∀ path, allowed (.inspect path))
    (writes : ∀ path value, allowed (.write path value) → ∀ kernel pid sys after, holds sys →
      System.write kernel pid sys path value = .ok after → holds after) :
    Exec.Triple env (World.Within allowed holds env start) program
      fun _ => World.Within allowed holds env start := fun world within_ =>
  ⟨confined.lasting writes env world within_.lasting,
    within_.accesses.trans (confined.accesses inspects env world),
    within_.journals.trans (confined.journals env world)⟩

/-! ## Counts -/

/-- The unsigned number that a read of an attribute returns. -/
def Content.unsigned? : Content → Option Nat
  | .text line =>
      if (Content.text line).bytes.length ≥ 64 then none
      else Text.parseUnsigned u64Bound (Text.trim line.raw)
  | .undecodable _ => none

/-- A file whose content is a number. -/
def Content.Numbers (found : Option File) (number : Nat) : Prop :=
  ∃ file, found = some file ∧ file.content.unsigned? = some number

theorem Content.Numbers.unique {found : Option File} {first second : Nat}
    (one : Content.Numbers found first) (two : Content.Numbers found second) : first = second := by
  obtain ⟨file, rfl, shows⟩ := one
  obtain ⟨_, same, nextShows⟩ := two
  cases same
  exact Option.some.inj (shows.symm.trans nextShows)

/-- A number is one read, whose reply shows it. -/
theorem Sysfs.readU64_replies {path : Path} {env : Env} {world after : World} {number : UInt64}
    (run : readU64 path env world = (.ok number, after)) :
    after = env.advance world (.read path) ∧ ∃ content,
      (env.serve world (.read path)).1 = .content content ∧
        content.unsigned? = some number.toNat := by
  obtain ⟨text, last, readText, parsed⟩ := Exec.bind_eq_ok run
  obtain ⟨reply, served, performed, decided⟩ := Exec.bind_eq_ok readText
  cases performed
  rcases replied : (env.serve world (.read path)).1 with fault | _ | content
  · rw [replied] at decided
    dsimp only at decided
    split at decided <;> cases decided
  · rw [replied] at decided
    cases decided
  rw [replied] at decided
  dsimp only at decided
  split at decided
  · cases decided
  rename_i short
  cases content with
  | undecodable bytes => cases decided
  | text line =>
      cases decided
      cases found : Text.parseUnsigned u64Bound (Text.trim line.raw) with
      | none =>
          rw [found] at parsed
          cases parsed
      | some number =>
          rw [found] at parsed
          cases parsed
          refine ⟨rfl, _, rfl, ?_⟩
          rw [Content.unsigned?, if_neg short, found,
            UInt64.toNat_ofNat_of_lt' (Text.parseUnsigned_lt found)]

/-- The file that was read holds the number. -/
theorem Sysfs.readU64_ok {path : Path} {env : Env} {world after : World} {number : UInt64}
    (run : readU64 path env world = (.ok number, after)) :
    after = env.advance world (.read path) ∧
      Content.Numbers (after.sys.files.get? path) number.toNat := by
  obtain ⟨rfl, content, replied, shows⟩ := readU64_replies run
  obtain ⟨file, hit, rfl⟩ := Env.advance_content (.inl rfl) replied
  exact ⟨rfl, file, hit, shows⟩

theorem Sysfs.readUsize_ok {path : Path} {env : Env} {world after : World} {number : Nat}
    (run : readUsize path env world = (.ok number, after)) :
    after = env.advance world (.read path) ∧
      Content.Numbers (after.sys.files.get? path) number := by
  obtain ⟨value, middle, read, made⟩ := Exec.bind_eq_ok run
  cases made
  exact readU64_ok read

section Counts

variable {allowed : Access → Prop} {holds : System → Prop} {env : Env} {start : World}

/-- Children are staged in order next to the observed child with their index. -/
theorem stageChildren_triple {α : Type} {invariant : World → Prop}
    {stage : Nat → α → Option α → Sysfs Unit} (index : Nat) (requested : List α)
    (observed : Option (List α))
    (each : ∀ i value, requested[i]? = some value → Exec.Triple env invariant
      (stage (index + i) value (observed.bind fun values => values[i]?)) fun _ => invariant) :
    Exec.Triple env invariant (stageChildren stage index requested observed)
      fun _ => invariant := by
  induction requested generalizing index observed with
  | nil => exact fun _ holds => holds
  | cons first rest ih =>
      refine Exec.triple_seq ?_ (fun _ => ih _ _ fun i value hit => ?_) fun _ holds => holds
      · have here := each 0 first rfl
        cases observed with
        | none => exact here
        | some values => simpa [List.head?_eq_getElem?] using here
      · have there := each (i + 1) value hit
        rw [show index + (i + 1) = index + 1 + i by omega] at there
        cases observed with
        | none => exact there
        | some values => simpa [List.getElem?_tail] using there

/-- The staging of one child, within that of all of them. -/
theorem stageChildren_ok {α : Type} {later : Access → Prop}
    {stage : Nat → α → Option α → Sysfs Unit} {index : Nat} {requested : List α}
    {observed : Option (List α)} {before after : World}
    (run : stageChildren stage index requested observed env before = (.ok (), after))
    {k : Nat} {value : α} (hit : requested[k]? = some value)
    (confined : ∀ i value observed, Confined allowed (stage i value observed))
    (follows : ∀ i value observed, index + k < i → Confined later (stage i value observed)) :
    ∃ start done, World.Reaches allowed env before start ∧
      stage (index + k) value (observed.bind fun values => values[k]?) env start = (.ok (), done) ∧
      World.Reaches later env done after := by
  induction requested generalizing index observed before k with
  | nil => simp at hit
  | cons first rest ih =>
      obtain ⟨_, middle, here, others⟩ := Exec.bind_eq_ok run
      cases k with
      | zero =>
          cases hit
          refine ⟨before, middle, .refl before, ?_, .of_run (stageChildren_confined_at _ _ _
            fun i value _ => follows _ value _ (by omega)) others⟩
          cases observed with
          | none => exact here
          | some values => simpa [List.head?_eq_getElem?] using here
      | succ k =>
          obtain ⟨start, done, begins, ran, ends⟩ := ih others hit
            fun i value observed beyond => follows i value observed (by omega)
          refine ⟨start, done, .trans (.of_run (confined _ _ _) here) begins, ?_, ends⟩
          rw [show index + (k + 1) = index + 1 + k by omega]
          cases observed with
          | none => exact ran
          | some values => simpa [List.getElem?_tail] using ran

variable (inspects : ∀ path, allowed (.inspect path))
  (writes : ∀ path value, allowed (.write path value) → ∀ kernel pid sys after, holds sys →
    System.write kernel pid sys path value = .ok after → holds after)
include inspects writes

/-- While a count lasts, it is not written in order to have the same value. -/
theorem ensureCount_within {path : Path} {count : Nat} (reads : allowed (.read path))
    (counts : ∀ sys, holds sys → Content.Numbers (sys.files.get? path) count) :
    Exec.Triple env (World.Within allowed holds env start) (ensureCount path count)
      fun _ => World.Within allowed holds env start := by
  have keeps : ∀ {α : Type} {program : Sysfs α}, Confined allowed program →
      Exec.Triple env (World.Within allowed holds env start) program
        fun _ => World.Within allowed holds env start :=
    fun confined => confined.within inspects writes
  refine Exec.triple_seq (keeps (.ofExcept _)) (fun _ => ?_) fun _ within_ => within_
  intro world within_
  have later := keeps (readUsize_confined reads) world within_
  cases run : readUsize path env world with
  | mk outcome after =>
      rw [run] at later
      cases outcome with
      | error error =>
          rw [Exec.bind_run_error run]
          exact later
      | ok current =>
          have same := (readUsize_ok run).2.unique (counts _ later.lasting.now)
          rw [Exec.bind_run_ok run, same, stageWhen, if_neg (by simp)]
          exact later

/-- While a count lasts, staging that many children stages them next to the observed ones. -/
theorem stageCounted_within {α : Type} {path : Path} {requested : List α}
    {observed : Option (List α)} {stage : Nat → α → Option α → Sysfs Unit}
    (reads : allowed (.read path))
    (counts : ∀ sys, holds sys → Content.Numbers (sys.files.get? path) requested.length)
    (each : ∀ i value, requested[i]? = some value →
      Exec.Triple env (World.Within allowed holds env start)
        (stage i value ((comparable observed requested).bind fun values => values[i]?))
        fun _ => World.Within allowed holds env start) :
    Exec.Triple env (World.Within allowed holds env start)
      (stageCounted path requested observed stage)
      fun _ => World.Within allowed holds env start := by
  refine Exec.triple_seq (ensureCount_within inspects writes reads counts) (fun _ => ?_)
    fun _ within_ => within_
  refine stageChildren_triple 0 _ _ fun i value hit => ?_
  rw [Nat.zero_add]
  exact each i value hit

end Counts

end DamonRs
