import DamonRs.Sysfs.Compare

/-!
# What a write leaves alone

A value changes its own attribute only.  A command changes the state and the
thread identifier of its kdamond, and a count replaces the indexed children
beside it.  What neither a program nor the environment changes lasts.
-/

namespace DamonRs

open Library Sysfs

/-! ## Files -/

/-- An indexed child lies below its directory. -/
theorem indexedChild?_below {directory path : Path} {child : String × Path}
    (found : indexedChild? directory path = some child) : directory <+: path := by
  unfold indexedChild? at found
  cases stripped : stripPrefix? directory path with
  | none => simp [stripped] at found
  | some rest => exact ⟨rest, (stripPrefix?_eq_some.mp stripped).symm⟩

/-- An indexed child is named by an index. -/
theorem indexedChild?_eq_none {directory front inner : Path}
    (unindexed : ∀ name ∈ inner, Path.nameIndex? name = none) :
    indexedChild? (directory ++ front) (directory ++ inner) = none := by
  unfold indexedChild?
  cases stripped : stripPrefix? (directory ++ front) (directory ++ inner) with
  | none => rfl
  | some rest =>
      have same : inner = front ++ rest := by
        have whole := stripPrefix?_eq_some.mp stripped
        rwa [List.append_assoc, List.append_cancel_left_eq] at whole
      match rest, same with
      | [], _ => rfl
      | [_], _ => rfl
      | name :: _ :: _, same =>
          have none := unindexed name (by simp [same])
          simp [none]

namespace Files

theorem get?_setText (files : Files) (path other : Path) (text : AttributeText) :
    (files.setText path text).get? other =
      if other = path then
        (files.get? other).map fun file => { file with content := .text text }
      else files.get? other :=
  Store.get?_update files.store path other _

@[simp] theorem get?_setText_of_ne {files : Files} {path other : Path} (text : AttributeText)
    (different : other ≠ path) : (files.setText path text).get? other = files.get? other := by
  rw [get?_setText, if_neg different]

/-- A text leaves the paths as they are. -/
theorem pathExists_setText (files : Files) (path other : Path) (text : AttributeText) :
    (files.setText path text).pathExists other = files.pathExists other := by
  have paths : (files.setText path text).paths = files.paths := Store.update_keys files.store path _
  have found : ((files.setText path text).get? other).isSome = (files.get? other).isSome := by
    rw [get?_setText]
    split <;> simp
  unfold pathExists isDirectory
  rw [paths, found]

/-- Every default child is an indexed child. -/
theorem indexedChild?_of_defaultChildren {kernel : Kernel} {directory other : Path} {count : Nat}
    {file : File} (small : count ≤ 2 ^ 64)
    (found : Store.find other (defaultChildren kernel directory count) = some file) :
    (indexedChild? directory other).isSome = true := by
  have inside := Store.mem_of_find found
  simp only [defaultChildren, List.mem_flatMap, List.mem_filterMap, List.mem_range] at inside
  obtain ⟨index, below, entry, _, same⟩ := inside
  split at same
  · rename_i fits
    injection same with same
    obtain ⟨rfl, -⟩ := Prod.ext_iff.mp same
    obtain ⟨first, rest, inner⟩ := List.exists_cons_of_ne_nil fits.1
    simp only [indexedChild?, inner, stripPrefix?_append]
    rw [Path.nameIndex?_indexName (by omega)]
    rfl
  · cases same

theorem get?_reconstruct {kernel : Kernel} {files : Files} {directory other : Path} {count : Nat}
    (small : count ≤ 2 ^ 64) :
    (reconstruct kernel files directory count).get? other =
      if (indexedChild? directory other).isSome then
        Store.find other (defaultChildren kernel directory count)
      else files.get? other := by
  have shown : (reconstruct kernel files directory count).get? other =
      (if (indexedChild? directory other).isNone then files.get? other else none).or
        (Store.find other (defaultChildren kernel directory count)) := by
    unfold reconstruct
    simp only [get?]
    rw [Store.get?_insertAll, Store.get?_filterKeys]
  rw [shown]
  by_cases child : (indexedChild? directory other).isSome
  · rw [if_pos child, if_neg (by simpa [Option.isSome_iff_ne_none] using child), Option.none_or]
  · rw [if_neg child, if_pos (by simpa using child)]
    cases found : Store.find other (defaultChildren kernel directory count) with
    | none => rw [Option.or_none]
    | some file => exact absurd (indexedChild?_of_defaultChildren small found) child

end Files

/-! ## Writes -/

namespace System

variable {kernel : Kernel} {pid : Pid} {sys after : System} {path other : Path} {value : String}

/-- What an accepted write does, by the kind of its path. -/
theorem write_cases (written : sys.write kernel pid path value = .ok after) :
    (∃ directory, kdamondOfState? path = some directory ∧
      sys.command pid directory value = .ok after) ∨
    (kdamondOfState? path = none ∧ Path.isReconstructionCount path = true ∧
      ∃ count, Text.parseUnsigned intBound value = some count ∧
        after = { sys with
          files := (sys.files.reconstruct kernel path.dropLast count).setText path
            (.ofWritten value) }) ∨
    (kdamondOfState? path = none ∧ Path.isReconstructionCount path = false ∧
      after = { sys with files := sys.files.setText path (.ofWritten value) }) := by
  unfold write at written
  cases hit : sys.files.get? path with
  | none => simp [hit] at written
  | some file =>
      simp only [hit] at written
      split at written
      · cases written
      · cases kind : kdamondOfState? path with
        | some directory =>
            rw [kind] at written
            exact .inl ⟨directory, rfl, written⟩
        | none =>
            rw [kind] at written
            dsimp only at written
            by_cases isCount : Path.isReconstructionCount path = true
            · rw [if_pos isCount] at written
              cases parsed : Text.parseUnsigned intBound value with
              | none => simp [parsed] at written
              | some count =>
                  rw [parsed] at written
                  cases written
                  exact .inr (.inl ⟨rfl, isCount, count, rfl, rfl⟩)
            · rw [if_neg isCount] at written
              cases written
              exact .inr (.inr ⟨rfl, by simpa using isCount, rfl⟩)

theorem kdamondOfState?_eq_some {directory : Path}
    (kind : kdamondOfState? path = some directory) : path = directory ++ ["state"] := by
  unfold kdamondOfState? at kind
  split at kind
  · split at kind
    · cases kind
      rfl
    · cases kind
  · cases kind

/-- A command changes no file but the state and the thread identifier. -/
theorem command_other {directory : Path} (sent : sys.command pid directory value = .ok after)
    (state : other ≠ directory ++ ["state"]) (thread : other ≠ directory ++ ["pid"]) :
    after.files.get? other = sys.files.get? other := by
  have shown : ∀ (before : System) (state' pid' : String),
      (before.showState directory state' pid').files.get? other = before.files.get? other := by
    intro before state' pid'
    simp [showState, state, thread]
  unfold command at sent
  split at sent
  · split at sent
    · cases sent
    · cases sent
      exact shown _ _ _
  · split at sent
    · split at sent
      · cases sent
        exact shown _ _ _
      · cases sent
    · split at sent
      · split at sent
        · cases sent
          rfl
        · split at sent
          · cases sent
            rfl
          · split at sent
            · cases sent
              rfl
            · cases sent
      · cases sent

/-- A write changes its own attribute, what a count rebuilds and what a command shows. -/
theorem write_other (written : sys.write kernel pid path value = .ok after)
    (different : other ≠ path) (configuration : Path.isRuntimeAttribute other = false)
    (outside : Path.isReconstructionCount path = true →
      (indexedChild? path.dropLast other).isSome = false) :
    after.files.get? other = sys.files.get? other := by
  rcases write_cases written with ⟨directory, kind, sent⟩ | ⟨-, isCount, count, parsed, rfl⟩ |
    ⟨-, -, rfl⟩
  · rw [kdamondOfState?_eq_some kind] at different
    refine command_other sent different ?_
    rintro rfl
    rw [Path.isRuntimeAttribute, List.getLast?_append_of_ne_nil _ (by simp)] at configuration
    cases configuration
  · have small : count ≤ 2 ^ 64 :=
      le_of_lt (lt_trans (Text.parseUnsigned_lt parsed) (by decide))
    rw [Files.get?_setText_of_ne _ different, Files.get?_reconstruct small,
      if_neg (by simp [outside isCount])]
  · exact Files.get?_setText_of_ne _ different

end System

/-- A write fails and changes nothing, or the kernel accepts it. -/
theorem Env.serve_write (env : Env) (world : World) (path : Path) (value : String) :
    (∃ fault, env.serve world (.write path value) =
        (.failed fault, env.interfere world.clock world.sys)) ∨
      ∃ after, env.serve world (.write path value) = (.done, after) ∧
        System.write env.kernel (env.freshPid world.clock)
          (env.interfere world.clock world.sys) path value = .ok after := by
  unfold serve
  cases env.fault world.clock (.write path value) with
  | some fault => exact .inl ⟨fault, rfl⟩
  | none =>
      dsimp only [respond]
      cases written : (env.interfere world.clock world.sys).write env.kernel
          (env.freshPid world.clock) path value with
      | ok after => exact .inr ⟨after, rfl, rfl⟩
      | error errno => exact .inl ⟨_, rfl⟩

/-- A write fails and changes nothing, or the kernel accepts it and the journal gets its path. -/
theorem Sysfs.writeBytes_cases (path : Path) (value : String) (env : Env) (world : World) :
    (∃ error, writeBytes path value env world =
        (.error error, env.advance world (.write path value)) ∧
      (env.advance world (.write path value)).sys = env.interfere world.clock world.sys) ∨
    (writeBytes path value env world =
        (.ok (), (env.advance world (.write path value)).recordWrite path) ∧
      System.write env.kernel (env.freshPid world.clock) (env.interfere world.clock world.sys) path
        value = .ok (env.advance world (.write path value)).sys) := by
  unfold writeBytes
  rw [Exec.bind_run, perform_run]
  simp only [Env.advance]
  rcases env.serve_write world path value with ⟨fault, failed⟩ | ⟨after, done, written⟩
  · left
    rw [failed]
    obtain ⟨stage, errno⟩ := fault
    cases stage <;> exact ⟨_, rfl, rfl⟩
  · right
    rw [done]
    exact ⟨rfl, written⟩

/-! ## What lasts -/

/-- A property of the system that holds now and that nothing outside takes away. -/
structure Lasting (holds : System → Prop) (env : Env) (world : World) : Prop where
  now : holds world.sys
  later : ∀ clock sys, world.clock ≤ clock → holds sys → holds (env.interfere clock sys)

namespace Lasting

variable {holds : System → Prop}

/-- Each access keeps what its write keeps. -/
theorem advance {env : Env} {world : World} (lasting : Lasting holds env world) (access : Access)
    (writes : ∀ path value, access = .write path value → ∀ sys after, holds sys →
      sys.write env.kernel (env.freshPid world.clock) path value = .ok after → holds after) :
    Lasting holds env (env.advance world access) := by
  have interfered := lasting.later world.clock world.sys (le_refl _) lasting.now
  refine ⟨?_, fun clock sys after => lasting.later clock sys (Nat.le_of_succ_le after)⟩
  show holds (env.serve world access).2
  unfold Env.serve
  cases env.fault world.clock access with
  | some fault => exact interfered
  | none =>
      cases access with
      | inspect path => exact interfered
      | read path =>
          dsimp only [Env.respond]
          cases (env.interfere world.clock world.sys).files.get? path <;> exact interfered
      | compare path =>
          dsimp only [Env.respond]
          cases (env.interfere world.clock world.sys).files.get? path <;> exact interfered
      | write path value =>
          dsimp only [Env.respond]
          cases written : (env.interfere world.clock world.sys).write env.kernel
              (env.freshPid world.clock) path value with
          | ok after => exact writes path value rfl _ _ interfered written
          | error errno => exact interfered

end Lasting

/-- A confined program keeps what every allowed write to its kernel keeps. -/
theorem Sysfs.Confined.lastingOn {allowed : Access → Prop} {holds : System → Prop}
    {α : Type} {program : Sysfs α} (confined : Confined allowed program) (kernel : Kernel)
    (writes : ∀ path value, allowed (.write path value) → ∀ pid sys after, holds sys →
      System.write kernel pid sys path value = .ok after → holds after) :
    Exec.Moves (fun env before after => env.kernel = kernel →
      Lasting holds env before → Lasting holds env after) program := by
  refine confined.moves (fun _ _ _ lasting => lasting)
    (fun _ _ _ _ first second same lasting => second same (first same lasting))
    (fun path _ _ _ lasting => lasting.advance _ fun _ _ same => by cases same)
    (fun path _ _ _ _ lasting => lasting.advance _ fun _ _ same => by cases same)
    (fun path _ _ _ _ lasting => lasting.advance _ fun _ _ same => by cases same)
    fun path value permitted => ?_
  rintro env world rfl lasting
  have performed : Lasting holds env (env.advance world (.write path value)) :=
    lasting.advance _ fun _ _ same => by
      cases same
      exact fun sys after => writes path value permitted _ sys after
  rcases writeBytes_cases path value env world with ⟨error, run, -⟩ | ⟨run, -⟩
  · rw [run]
    exact performed
  · rw [run]
    exact ⟨performed.now, performed.later⟩

/-- A confined program keeps what every allowed write keeps. -/
theorem Sysfs.Confined.lasting {allowed : Access → Prop} {holds : System → Prop} {α : Type}
    {program : Sysfs α} (confined : Confined allowed program)
    (writes : ∀ path value, allowed (.write path value) → ∀ kernel pid sys after, holds sys →
      System.write kernel pid sys path value = .ok after → holds after) :
    Exec.Moves (fun env before after => Lasting holds env before → Lasting holds env after)
      program := fun env world =>
  confined.lastingOn env.kernel (fun path value permitted => writes path value permitted env.kernel)
    env world rfl

end DamonRs
