import DamonRs.Library.Channel
import DamonRs.Error

/-!
# Snapshot requests

A request hands its monitor to a worker thread and gets it back with the
snapshots.  Caller and worker take steps in any order; the states of the caller
are the points between two operations on a channel, on the thread or on the
request.  The worker does not panic.
-/

namespace DamonRs

open Library

/-- A monitor with what it was asked for. -/
structure SnapshotOutcome (Monitor Snapshots : Type) where
  monitor : Monitor
  snapshots : Snapshots
  deriving DecidableEq

namespace SnapshotRequest

/-- What the worker thread is about to do. -/
inductive Worker (Monitor Snapshots : Type) where
  | unspawned
  | receiving
  | materializing (monitor : Monitor)
  | sending (outcome : SnapshotOutcome Monitor Snapshots)
  | returning
  | unwinding
  | exited

/-- What the caller is about to do. -/
inductive Caller (Monitor Snapshots : Type) where
  /-- `request_snapshot_with`: spawn the worker. -/
  | starting (monitor : Monitor)
  /-- Send the monitor. -/
  | handing (monitor : Monitor)
  /-- Return the request. -/
  | handed
  /-- Join the worker that did not take the monitor. -/
  | refused (monitor : Monitor)
  /-- The request was not started; the error returns the monitor. -/
  | notStarted (error : Error) (monitor : Monitor)
  /-- Between two calls, with the answer to the last one. -/
  | idle (answer : Option (Except Error Bool))
  /-- `is_ready` or `wait_until`. -/
  | polling
  | pollJoining (answer : Except Error Bool)
  /-- `finish`. -/
  | finishing
  | finishJoining
  /-- `drop`, at the end of `finish` with what that returns. -/
  | dropping (returns : Option (Except Error (SnapshotOutcome Monitor Snapshots)))
  | dropJoining (returns : Option (Except Error (SnapshotOutcome Monitor Snapshots)))
  /-- The request is gone. -/
  | gone (returns : Option (Except Error (SnapshotOutcome Monitor Snapshots)))

/-- A request with its worker and the two channels between them. -/
structure State (Monitor Snapshots : Type) where
  caller : Caller Monitor Snapshots
  worker : Worker Monitor Snapshots
  monitors : Channel Monitor
  results : Channel (SnapshotOutcome Monitor Snapshots)
  outcome : Option (SnapshotOutcome Monitor Snapshots)
  /-- Whether the request holds the join handle. -/
  handle : Bool

/-- What the caller decides where it has a choice. -/
inductive Decision where
  | proceed
  | spawnFails (source : IoSource)
  | poll
  | finish
  | drop

section Steps

variable {Monitor Snapshots : Type}

/-- The request is about to be made. -/
def State.start (monitor : Monitor) : State Monitor Snapshots :=
  ⟨.starting monitor, .unspawned, .fresh, .fresh, none, false⟩

/-- `join_worker`: wait for the worker unless it has been joined before. -/
def State.joinWorker (state : State Monitor Snapshots) : Option (State Monitor Snapshots) :=
  if state.handle then
    match state.worker with
    | .exited => some { state with handle := false }
    | _ => none
  else some state

/-- The next step of the caller; none while it is blocked. -/
def State.callerStep (state : State Monitor Snapshots) (decision : Decision) :
    Option (State Monitor Snapshots) :=
  match state.caller, decision with
  | .starting monitor, .spawnFails source =>
      some { state with
        caller := .notStarted (.snapshotWorkerSpawn source) monitor
        monitors := .closed
        results := .closed }
  | .starting monitor, .proceed =>
      some { state with caller := .handing monitor, worker := .receiving, handle := true }
  | .handing monitor, .proceed =>
      match state.monitors.send monitor with
      | .sent after => some { state with caller := .handed, monitors := after }
      | .full => none
      | .refused monitor => some { state with caller := .refused monitor }
  | .refused monitor, .proceed =>
      state.joinWorker.map fun state =>
        { state with
          caller := .notStarted .snapshotWorkerDisconnected monitor
          monitors := state.monitors.dropSender
          results := state.results.dropReceiver }
  | .handed, .proceed =>
      some { state with caller := .idle none, monitors := state.monitors.dropSender }
  | .idle _, .poll => some { state with caller := .polling }
  | .idle _, .finish => some { state with caller := .finishing }
  | .idle _, .drop => some { state with caller := .dropping none }
  | .polling, .proceed =>
      if state.outcome.isSome then some { state with caller := .idle (some (.ok true)) }
      else
        match state.results.recv with
        | .message outcome after =>
            some { state with
              caller := .pollJoining (.ok true), results := after, outcome := some outcome }
        -- `is_ready` does not wait, and `wait_until` may find its deadline passed
        | .empty => some { state with caller := .idle (some (.ok false)) }
        | .disconnected =>
            some { state with caller := .pollJoining (.error .snapshotWorkerDisconnected) }
  | .pollJoining answer, .proceed =>
      state.joinWorker.map fun state => { state with caller := .idle (some answer) }
  | .finishing, .proceed =>
      if state.outcome.isSome then some { state with caller := .finishJoining }
      else
        match state.results.recv with
        | .message outcome after =>
            some { state with
              caller := .finishJoining, results := after, outcome := some outcome }
        | .empty => none
        | .disconnected =>
            some { state with caller := .dropping (some (.error .snapshotWorkerDisconnected)) }
  | .finishJoining, .proceed =>
      state.joinWorker.map fun state =>
        match state.outcome with
        | some outcome => { state with caller := .dropping (some (.ok outcome)), outcome := none }
        | none => { state with caller := .dropping (some (.error .snapshotWorkerDisconnected)) }
  | .dropping returns, .proceed =>
      if state.outcome.isSome then some { state with caller := .dropJoining returns }
      else
        match state.results.recv with
        | .message outcome after =>
            some { state with
              caller := .dropJoining returns, results := after, outcome := some outcome }
        | .empty => none
        | .disconnected => some { state with caller := .dropJoining returns }
  | .dropJoining returns, .proceed =>
      state.joinWorker.map fun state =>
        { state with
          caller := .gone returns, outcome := none, results := state.results.dropReceiver }
  | _, _ => none

/-- The next step of the worker; none while it is blocked. -/
def State.workerStep (materialize : Monitor → SnapshotOutcome Monitor Snapshots)
    (state : State Monitor Snapshots) : Option (State Monitor Snapshots) :=
  match state.worker with
  | .unspawned => none
  | .receiving =>
      match state.monitors.recv with
      | .message monitor after =>
          some { state with worker := .materializing monitor, monitors := after }
      | .empty => none
      | .disconnected => some { state with worker := .returning }
  | .materializing monitor => some { state with worker := .sending (materialize monitor) }
  | .sending outcome =>
      match state.results.send outcome with
      | .sent after => some { state with worker := .returning, results := after }
      | .full => none
      | .refused _ => some { state with worker := .returning }
  -- what the closure of the worker owns is dropped before the thread can be joined
  | .returning =>
      some { state with
        worker := .unwinding
        monitors := state.monitors.dropReceiver
        results := state.results.dropSender }
  | .unwinding => some { state with worker := .exited }
  | .exited => none

/-- One step of the caller or of the worker. -/
inductive Step (materialize : Monitor → SnapshotOutcome Monitor Snapshots) :
    State Monitor Snapshots → State Monitor Snapshots → Prop
  | caller {state next : State Monitor Snapshots} (decision : Decision)
      (taken : state.callerStep decision = some next) : Step materialize state next
  | worker {state next : State Monitor Snapshots}
      (taken : state.workerStep materialize = some next) : Step materialize state next

/-- Who can own the monitor. -/
inductive Owner where
  | caller
  | message
  | worker
  | outcome
  deriving DecidableEq

/-- The monitor in the hands of the caller. -/
def Caller.monitor : Caller Monitor Snapshots → Option Monitor
  | .starting monitor | .handing monitor | .refused monitor | .notStarted _ monitor =>
      some monitor
  | .dropping (some (.ok outcome)) | .dropJoining (some (.ok outcome))
  | .gone (some (.ok outcome)) => some outcome.monitor
  | _ => none

def Worker.monitor : Worker Monitor Snapshots → Option Monitor
  | .materializing monitor => some monitor
  | .sending outcome => some outcome.monitor
  | _ => none

/-- Everyone who owns a monitor, with the monitor. -/
def State.owners (state : State Monitor Snapshots) : List (Owner × Monitor) :=
  (state.caller.monitor.map (Owner.caller, ·)).toList ++
    (state.monitors.message.map (Owner.message, ·)).toList ++
    (state.worker.monitor.map (Owner.worker, ·)).toList ++
    (state.results.message.map (Owner.message, ·.monitor)).toList ++
    (state.outcome.map (Owner.outcome, ·.monitor)).toList

/-- The calls on a request. -/
inductive Call where
  | start
  | query
  | finish
  | drop
  deriving DecidableEq

/-- The call the caller is in. -/
def Caller.call : Caller Monitor Snapshots → Option Call
  | .starting _ | .handing _ | .handed | .refused _ => some .start
  | .polling | .pollJoining _ => some .query
  | .finishing | .finishJoining | .dropping (some _) | .dropJoining (some _) => some .finish
  | .dropping none | .dropJoining none => some .drop
  | .notStarted _ _ | .idle _ | .gone _ => none

/-- What a call returns: the start failure its monitor, `finish` what the worker made of it. -/
inductive Returned (materialize : Monitor → SnapshotOutcome Monitor Snapshots)
    (original : Monitor) : Call → Caller Monitor Snapshots → Prop
  | started : Returned materialize original .start (.idle none)
  | notStarted (source : IoSource) :
      Returned materialize original .start (.notStarted (.snapshotWorkerSpawn source) original)
  | answered (ready : Bool) : Returned materialize original .query (.idle (some (.ok ready)))
  | finished :
      Returned materialize original .finish (.gone (some (.ok (materialize original))))
  | dropped : Returned materialize original .drop (.gone none)

end Steps

/-! ## The invariant -/

section Invariant

variable {Monitor Snapshots : Type} (materialize : Monitor → SnapshotOutcome Monitor Snapshots)
  (original : Monitor)

/-- The worker from the message with the monitor to the message with the outcome. -/
inductive Underway : Worker Monitor Snapshots → Channel Monitor →
    Channel (SnapshotOutcome Monitor Snapshots) → Prop
  | receiving (sender : Bool) : Underway .receiving ⟨some original, sender, true⟩ .fresh
  | materializing (sender : Bool) :
      Underway (.materializing original) ⟨none, sender, true⟩ .fresh
  | sending (sender : Bool) :
      Underway (.sending (materialize original)) ⟨none, sender, true⟩ .fresh
  | returning (sender : Bool) :
      Underway .returning ⟨none, sender, true⟩ ⟨some (materialize original), true, true⟩
  | unwinding (sender : Bool) :
      Underway .unwinding ⟨none, sender, false⟩ ⟨some (materialize original), false, true⟩
  | exited (sender : Bool) :
      Underway .exited ⟨none, sender, false⟩ ⟨some (materialize original), false, true⟩

/-- The worker after its outcome has been received. -/
inductive Ending : Worker Monitor Snapshots → Channel Monitor →
    Channel (SnapshotOutcome Monitor Snapshots) → Prop
  | returning (sender : Bool) : Ending .returning ⟨none, sender, true⟩ ⟨none, true, true⟩
  | unwinding (sender : Bool) : Ending .unwinding ⟨none, sender, false⟩ ⟨none, false, true⟩
  | exited (sender : Bool) : Ending .exited ⟨none, sender, false⟩ ⟨none, false, true⟩

/-- The points of the caller before it has received the outcome. -/
inductive Caller.Waits : Caller Monitor Snapshots → Prop
  | handed : Waits .handed
  | started : Waits (.idle none)
  | answered : Waits (.idle (some (.ok false)))
  | polling : Waits .polling
  | finishing : Waits .finishing
  | dropping : Waits (.dropping none)

/-- The points of the caller from the outcome to the end of the worker. -/
inductive Caller.Joins : Caller Monitor Snapshots → Prop
  | polling : Joins (.pollJoining (.ok true))
  | finishing : Joins .finishJoining
  | dropping : Joins (.dropJoining none)

/-- The points of the caller with the outcome of a worker that is gone. -/
inductive Caller.Ready : Caller Monitor Snapshots → Prop
  | answered : Ready (.idle (some (.ok true)))
  | polling : Ready .polling
  | finishing : Ready .finishing
  | joining : Ready .finishJoining
  | dropping : Ready (.dropping none)
  | ending : Ready (.dropJoining none)

/-- The states of a run: who has the monitor fixes what the others can do. -/
inductive Invariant : State Monitor Snapshots → Prop
  | starting : Invariant (.start original)
  | notStarted (source : IoSource) :
      Invariant ⟨.notStarted (.snapshotWorkerSpawn source) original, .unspawned,
        .closed, .closed, none, false⟩
  | handing : Invariant ⟨.handing original, .receiving, .fresh, .fresh, none, true⟩
  | underway {caller : Caller Monitor Snapshots} {worker : Worker Monitor Snapshots}
      {monitors : Channel Monitor} {results : Channel (SnapshotOutcome Monitor Snapshots)}
      (waits : caller.Waits) (works : Underway materialize original worker monitors results) :
      Invariant ⟨caller, worker, monitors, results, none, true⟩
  | joining {caller : Caller Monitor Snapshots} {worker : Worker Monitor Snapshots}
      {monitors : Channel Monitor} {results : Channel (SnapshotOutcome Monitor Snapshots)}
      (joins : caller.Joins) (ends : Ending worker monitors results) :
      Invariant ⟨caller, worker, monitors, results, some (materialize original), true⟩
  | ready {caller : Caller Monitor Snapshots} (ready : caller.Ready) (sender : Bool) :
      Invariant ⟨caller, .exited, ⟨none, sender, false⟩, ⟨none, false, true⟩,
        some (materialize original), false⟩
  | returning (sender : Bool) :
      Invariant ⟨.dropping (some (.ok (materialize original))), .exited,
        ⟨none, sender, false⟩, ⟨none, false, true⟩, none, false⟩
  | leaving (sender : Bool) :
      Invariant ⟨.dropJoining (some (.ok (materialize original))), .exited,
        ⟨none, sender, false⟩, ⟨none, false, true⟩, none, false⟩
  | finished (sender : Bool) :
      Invariant ⟨.gone (some (.ok (materialize original))), .exited,
        ⟨none, sender, false⟩, ⟨none, false, false⟩, none, false⟩
  | dropped (sender : Bool) :
      Invariant ⟨.gone none, .exited, ⟨none, sender, false⟩, ⟨none, false, false⟩, none, false⟩

variable {materialize : Monitor → SnapshotOutcome Monitor Snapshots} {original : Monitor}

theorem Invariant.workerStep {state next : State Monitor Snapshots}
    (holds : Invariant materialize original state)
    (taken : state.workerStep materialize = some next) :
    Invariant materialize original next := by
  cases holds with
  | underway waits works =>
    cases works with
    | receiving sender => cases taken; exact .underway waits (.materializing sender)
    | materializing sender => cases taken; exact .underway waits (.sending sender)
    | sending sender => cases taken; exact .underway waits (.returning sender)
    | returning sender => cases taken; exact .underway waits (.unwinding sender)
    | unwinding sender => cases taken; exact .underway waits (.exited sender)
    | exited sender => cases taken
  | joining joins ends =>
    cases ends with
    | returning sender => cases taken; exact .joining joins (.unwinding sender)
    | unwinding sender => cases taken; exact .joining joins (.exited sender)
    | exited sender => cases taken
  | _ => cases taken

/-- The caller can drop its end of the first channel at any moment. -/
theorem Underway.dropSender {worker : Worker Monitor Snapshots} {monitors : Channel Monitor}
    {results : Channel (SnapshotOutcome Monitor Snapshots)}
    (works : Underway materialize original worker monitors results) :
    Underway materialize original worker monitors.dropSender results := by
  cases works with
  | receiving => exact .receiving false
  | materializing => exact .materializing false
  | sending => exact .sending false
  | returning => exact .returning false
  | unwinding => exact .unwinding false
  | exited => exact .exited false

/-- A receiver finds nothing while the worker is busy and then the outcome. -/
theorem Underway.recv {worker : Worker Monitor Snapshots} {monitors : Channel Monitor}
    {results : Channel (SnapshotOutcome Monitor Snapshots)}
    (works : Underway materialize original worker monitors results) :
    results.recv = .empty ∨
      ∃ after, results.recv = .message (materialize original) after ∧
        Ending worker monitors after := by
  cases works with
  | receiving | materializing | sending => exact .inl rfl
  | returning sender => exact .inr ⟨_, rfl, .returning sender⟩
  | unwinding sender => exact .inr ⟨_, rfl, .unwinding sender⟩
  | exited sender => exact .inr ⟨_, rfl, .exited sender⟩

theorem Invariant.callerStep {state next : State Monitor Snapshots} {decision : Decision}
    (holds : Invariant materialize original state)
    (taken : state.callerStep decision = some next) :
    Invariant materialize original next := by
  cases holds with
  | starting =>
    cases decision with
    | proceed => cases taken; exact .handing
    | spawnFails source => cases taken; exact .notStarted source
    | _ => cases taken
  | handing =>
    cases decision with
    | proceed => cases taken; exact .underway .handed (.receiving true)
    | _ => cases taken
  | underway waits works =>
    cases waits with
    | handed =>
      cases decision with
      | proceed => cases taken; exact .underway .started works.dropSender
      | _ => cases taken
    | started | answered =>
      cases decision with
      | poll => cases taken; exact .underway .polling works
      | finish => cases taken; exact .underway .finishing works
      | drop => cases taken; exact .underway .dropping works
      | _ => cases taken
    | polling =>
      cases decision with
      | proceed =>
        obtain empty | ⟨after, received, ends⟩ := works.recv
        · simp [State.callerStep, empty] at taken
          subst taken
          exact .underway .answered works
        · simp [State.callerStep, received] at taken
          subst taken
          exact .joining .polling ends
      | _ => cases taken
    | finishing =>
      cases decision with
      | proceed =>
        obtain empty | ⟨after, received, ends⟩ := works.recv
        · simp [State.callerStep, empty] at taken
        · simp [State.callerStep, received] at taken
          subst taken
          exact .joining .finishing ends
      | _ => cases taken
    | dropping =>
      cases decision with
      | proceed =>
        obtain empty | ⟨after, received, ends⟩ := works.recv
        · simp [State.callerStep, empty] at taken
        · simp [State.callerStep, received] at taken
          subst taken
          exact .joining .dropping ends
      | _ => cases taken
  | joining joins ends =>
    cases decision with
    | proceed =>
      -- the join waits until the worker is gone
      cases ends with
      | returning | unwinding => cases joins <;> cases taken
      | exited sender =>
        cases joins with
        | polling => cases taken; exact .ready .answered sender
        | finishing => cases taken; exact .returning sender
        | dropping => cases taken; exact .dropped sender
    | _ => cases joins <;> cases taken
  | ready ready sender =>
    cases ready with
    | answered =>
      cases decision with
      | poll => cases taken; exact .ready .polling sender
      | finish => cases taken; exact .ready .finishing sender
      | drop => cases taken; exact .ready .dropping sender
      | _ => cases taken
    | polling =>
      cases decision with
      | proceed => cases taken; exact .ready .answered sender
      | _ => cases taken
    | finishing =>
      cases decision with
      | proceed => cases taken; exact .ready .joining sender
      | _ => cases taken
    | joining =>
      cases decision with
      | proceed => cases taken; exact .returning sender
      | _ => cases taken
    | dropping =>
      cases decision with
      | proceed => cases taken; exact .ready .ending sender
      | _ => cases taken
    | ending =>
      cases decision with
      | proceed => cases taken; exact .dropped sender
      | _ => cases taken
  | returning sender =>
    cases decision with
    | proceed => cases taken; exact .leaving sender
    | _ => cases taken
  | leaving sender =>
    cases decision with
    | proceed => cases taken; exact .finished sender
    | _ => cases taken
  | notStarted | finished | dropped => cases decision <;> cases taken

theorem Invariant.step {state next : State Monitor Snapshots}
    (holds : Invariant materialize original state) (taken : Step materialize state next) :
    Invariant materialize original next := by
  cases taken with
  | caller decision taken => exact holds.callerStep taken
  | worker taken => exact holds.workerStep taken

theorem Invariant.reached {state : State Monitor Snapshots}
    (reached : Relation.ReflTransGen (Step materialize) (.start original) state) :
    Invariant materialize original state :=
  invariant_of_run reached .starting fun _ _ holds taken => holds.step taken

/-- Everyone but one owner is without the monitor until the request is dropped with it. -/
theorem Invariant.owners {state : State Monitor Snapshots}
    (holds : Invariant materialize original state) (there : state.caller ≠ .gone none) :
    ∃ owner monitor, state.owners = [(owner, monitor)] ∧
      (monitor = original ∨ monitor = (materialize original).monitor) := by
  cases holds with
  | starting | notStarted | handing => exact ⟨.caller, original, rfl, .inl rfl⟩
  | underway waits works =>
    cases works with
    | receiving =>
      cases waits <;> exact ⟨.message, original, rfl, .inl rfl⟩
    | materializing =>
      cases waits <;> exact ⟨.worker, original, rfl, .inl rfl⟩
    | sending =>
      cases waits <;> exact ⟨.worker, _, rfl, .inr rfl⟩
    | returning | unwinding | exited =>
      cases waits <;> exact ⟨.message, _, rfl, .inr rfl⟩
  | joining joins ends =>
    cases joins <;> cases ends <;> exact ⟨.outcome, _, rfl, .inr rfl⟩
  | ready ready => cases ready <;> exact ⟨.outcome, _, rfl, .inr rfl⟩
  | returning | leaving | finished => exact ⟨.caller, _, rfl, .inr rfl⟩
  | dropped => exact absurd rfl there

/-! ## Every call returns -/

/-- How many steps the worker still takes. -/
def Worker.remaining : Worker Monitor Snapshots → Nat
  | .unspawned => 0
  | .receiving => 6
  | .materializing _ => 5
  | .sending _ => 4
  | .returning => 3
  | .unwinding => 2
  | .exited => 1

/-- A bound on the steps the caller takes to the end of its call. -/
def Caller.remaining : Caller Monitor Snapshots → Nat
  | .starting _ => 10
  | .handing _ => 3
  | .handed | .refused _ => 2
  | .polling => 3
  | .finishing => 5
  | .finishJoining => 4
  | .dropping _ => 3
  | .dropJoining _ | .pollJoining _ => 2
  | .notStarted _ _ | .idle _ | .gone _ => 0

def State.remaining (state : State Monitor Snapshots) : Nat :=
  state.caller.remaining + state.worker.remaining

/-- No call waits for something that does not come. -/
theorem Invariant.goes {state : State Monitor Snapshots} {call : Call}
    (holds : Invariant materialize original state) (inside : state.caller.call = some call) :
    ∃ next, Step materialize state next := by
  cases holds with
  | starting | handing | returning | leaving => exact ⟨_, .caller .proceed rfl⟩
  | underway waits works =>
    cases works with
    | exited =>
      -- the worker is gone and has left its outcome
      cases waits with
      | started | answered => cases inside
      | _ => exact ⟨_, .caller .proceed rfl⟩
    | _ => exact ⟨_, .worker rfl⟩
  | joining joins ends =>
    cases ends with
    | exited => cases joins <;> exact ⟨_, .caller .proceed rfl⟩
    | _ => exact ⟨_, .worker rfl⟩
  | ready ready =>
    cases ready with
    | answered => cases inside
    | _ => exact ⟨_, .caller .proceed rfl⟩
  | notStarted | finished | dropped => cases inside

theorem Invariant.worker_lower {state next : State Monitor Snapshots}
    (holds : Invariant materialize original state)
    (taken : state.workerStep materialize = some next) :
    next.caller = state.caller ∧ next.worker.remaining < state.worker.remaining := by
  cases holds with
  | underway waits works => cases works <;> cases taken <;> exact ⟨rfl, Nat.lt_succ_self _⟩
  | joining joins ends => cases ends <;> cases taken <;> exact ⟨rfl, Nat.lt_succ_self _⟩
  | _ => cases taken

/-- The points at which a call is over. -/
inductive Caller.Over : Call → Caller Monitor Snapshots → Prop
  | started : Over .start (.idle none)
  | notStarted (error : Error) (monitor : Monitor) : Over .start (.notStarted error monitor)
  | answered (answer : Except Error Bool) : Over .query (.idle (some answer))
  | finished (returned : Except Error (SnapshotOutcome Monitor Snapshots)) :
      Over .finish (.gone (some returned))
  | dropped : Over .drop (.gone none)

theorem State.joinWorker_same {state joined : State Monitor Snapshots}
    (taken : state.joinWorker = some joined) :
    joined.caller = state.caller ∧ joined.worker = state.worker := by
  unfold State.joinWorker at taken
  split at taken
  · split at taken <;> cases taken
    exact ⟨rfl, rfl⟩
  · cases taken
    exact ⟨rfl, rfl⟩

/-- A step of the caller inside a call goes on with the call or ends it. -/
theorem State.callerStep_lower {state next : State Monitor Snapshots} {decision : Decision}
    {call : Call} (inside : state.caller.call = some call)
    (taken : state.callerStep decision = some next) :
    (next.caller.call = some call ∨ next.caller.Over call) ∧ next.remaining < state.remaining := by
  obtain ⟨caller, worker, monitors, results, outcome, handle⟩ := state
  cases decision with
  | proceed =>
    cases caller with
    | starting monitor =>
      cases inside
      cases taken
      exact ⟨.inl rfl, by simp [State.remaining, Caller.remaining, Worker.remaining]; omega⟩
    | handing monitor =>
      cases inside
      simp only [State.callerStep] at taken
      split at taken <;> cases taken <;>
        exact ⟨.inl rfl, by simp [State.remaining, Caller.remaining]⟩
    | handed =>
      cases inside
      cases taken
      exact ⟨.inr .started, by simp [State.remaining, Caller.remaining]⟩
    | refused monitor =>
      cases inside
      obtain ⟨joined, same, rfl⟩ := Option.map_eq_some_iff.mp taken
      obtain ⟨-, worker⟩ := State.joinWorker_same same
      exact ⟨.inr (.notStarted _ _), by simp [State.remaining, Caller.remaining, worker]⟩
    | polling =>
      cases inside
      simp only [State.callerStep] at taken
      split at taken
      · cases taken
        exact ⟨.inr (.answered _), by simp [State.remaining, Caller.remaining]⟩
      · split at taken <;> cases taken
        · exact ⟨.inl rfl, by simp [State.remaining, Caller.remaining]⟩
        · exact ⟨.inr (.answered _), by simp [State.remaining, Caller.remaining]⟩
        · exact ⟨.inl rfl, by simp [State.remaining, Caller.remaining]⟩
    | pollJoining answer =>
      cases inside
      obtain ⟨joined, same, rfl⟩ := Option.map_eq_some_iff.mp taken
      obtain ⟨-, worker⟩ := State.joinWorker_same same
      exact ⟨.inr (.answered _), by simp [State.remaining, Caller.remaining, worker]⟩
    | finishing =>
      cases inside
      simp only [State.callerStep] at taken
      split at taken
      · cases taken
        exact ⟨.inl rfl, by simp [State.remaining, Caller.remaining]⟩
      · split at taken <;> cases taken <;>
          exact ⟨.inl rfl, by simp [State.remaining, Caller.remaining]⟩
    | finishJoining =>
      cases inside
      obtain ⟨joined, same, rfl⟩ := Option.map_eq_some_iff.mp taken
      obtain ⟨-, worker⟩ := State.joinWorker_same same
      split <;> exact ⟨.inl rfl, by simp [State.remaining, Caller.remaining, worker]⟩
    | dropping returns =>
      have joining : (Caller.dropJoining returns).call = some call := by
        cases returns <;> exact inside
      simp only [State.callerStep] at taken
      split at taken
      · cases taken
        exact ⟨.inl joining, by simp [State.remaining, Caller.remaining]⟩
      · split at taken <;> cases taken <;>
          exact ⟨.inl joining, by simp [State.remaining, Caller.remaining]⟩
    | dropJoining returns =>
      obtain ⟨joined, same, rfl⟩ := Option.map_eq_some_iff.mp taken
      obtain ⟨-, worker⟩ := State.joinWorker_same same
      refine ⟨.inr ?_, by simp [State.remaining, Caller.remaining, worker]⟩
      cases returns <;> cases inside
      · exact .dropped
      · exact .finished _
    | _ => cases inside
  | spawnFails source =>
    cases caller with
    | starting monitor =>
      cases inside
      cases taken
      exact ⟨.inr (.notStarted _ _), by simp [State.remaining, Caller.remaining]⟩
    | _ => cases taken
  | _ =>
    cases caller with
    | idle => cases inside
    | _ => cases taken

/-- A call that is over has returned what it promises. -/
theorem Invariant.returned {state : State Monitor Snapshots} {call : Call}
    (holds : Invariant materialize original state) (ended : state.caller.Over call) :
    Returned materialize original call state.caller := by
  cases holds with
  | notStarted source => cases ended; exact .notStarted source
  | underway waits works =>
    cases waits with
    | started => cases ended; exact .started
    | answered => cases ended; exact .answered false
    | _ => cases ended
  | joining joins => cases joins <;> cases ended
  | ready ready =>
    cases ready with
    | answered => cases ended; exact .answered true
    | _ => cases ended
  | finished => cases ended; exact .finished
  | dropped => cases ended; exact .dropped
  | _ => cases ended

/-- A step inside a call goes on with the call or returns from it, and not forever. -/
theorem Invariant.lower {state next : State Monitor Snapshots} {call : Call}
    (holds : Invariant materialize original state) (inside : state.caller.call = some call)
    (taken : Step materialize state next) :
    (next.caller.call = some call ∨ Returned materialize original call next.caller) ∧
      next.remaining < state.remaining := by
  have kept : Invariant materialize original next := holds.step taken
  cases taken with
  | caller decision taken =>
    obtain ⟨goes, lower⟩ := State.callerStep_lower inside taken
    exact ⟨goes.imp_right kept.returned, lower⟩
  | worker taken =>
    obtain ⟨same, lower⟩ := holds.worker_lower taken
    refine ⟨.inl (same ▸ inside), ?_⟩
    unfold State.remaining
    rw [same]
    exact Nat.add_lt_add_left lower _

theorem Invariant.returns {state : State Monitor Snapshots} {call : Call}
    (holds : Invariant materialize original state) (inside : state.caller.call = some call) :
    Inevitably (Step materialize)
      (fun next => Returned materialize original call next.caller) state := by
  refine Inevitably.of_measure
    (fun state => Invariant materialize original state ∧ (state.caller.call = some call ∨
      Returned materialize original call state.caller))
    State.remaining ?_ ?_ ?_ ⟨holds, .inl inside⟩
  · rintro state next ⟨holds, inside⟩ open_ taken
    exact ⟨holds.step taken, (holds.lower (inside.resolve_right open_) taken).1⟩
  · rintro state ⟨holds, inside⟩ open_
    exact holds.goes (inside.resolve_right open_)
  · rintro state next ⟨holds, inside⟩ open_ taken
    exact (holds.lower (inside.resolve_right open_) taken).2

/-- Once the request is gone there is no thread that could take a step. -/
theorem Invariant.stopped {state next : State Monitor Snapshots}
    (holds : Invariant materialize original state) (ended : state.caller.call = none)
    (left : ∀ answer, state.caller ≠ .idle answer) : ¬Step materialize state next := by
  intro taken
  have worker : state.workerStep materialize = none := by
    cases holds with
    | underway waits =>
      cases waits with
      | started | answered => exact absurd rfl (left _)
      | _ => cases ended
    | joining joins => cases joins <;> cases ended
    | ready | notStarted | finished | dropped => rfl
    | _ => cases ended
  have caller (decision : Decision) : state.callerStep decision = none := by
    obtain ⟨caller, worker, monitors, results, outcome, handle⟩ := state
    cases caller with
    | idle answer => exact absurd rfl (left answer)
    | notStarted | gone => cases decision <;> rfl
    | dropping returns => cases returns <;> cases ended
    | dropJoining returns => cases returns <;> cases ended
    | _ => cases ended
  cases taken with
  | caller decision taken => exact nomatch (caller decision).symm.trans taken
  | worker taken => exact nomatch worker.symm.trans taken

/-- The monitor has one owner until a request is dropped with it, the caller gets it back from a
start failure or from `finish`, every call returns, and then the worker is gone. -/
theorem monitor_owned_once (materialize : Monitor → SnapshotOutcome Monitor Snapshots)
    (original : Monitor) {state : State Monitor Snapshots}
    (reached : Relation.ReflTransGen (Step materialize) (.start original) state) :
    (state.caller ≠ .gone none → ∃ owner monitor, state.owners = [(owner, monitor)] ∧
        (monitor = original ∨ monitor = (materialize original).monitor)) ∧
      (∀ call, state.caller.call = some call → Inevitably (Step materialize)
        (fun next => Returned materialize original call next.caller) state) ∧
      (∀ error monitor, state.caller = .notStarted error monitor →
        monitor = original ∧ ∀ next, ¬Step materialize state next) ∧
      (∀ returned, state.caller = .gone (some returned) →
        returned = .ok (materialize original)) ∧
      (∀ returned, state.caller = .gone returned → ∀ next, ¬Step materialize state next) := by
  have holds : Invariant materialize original state := Invariant.reached reached
  refine ⟨holds.owners, fun call inside => holds.returns inside, ?_, ?_, ?_⟩
  · intro error monitor failed
    have ended : state.caller.Over .start := failed ▸ .notStarted error monitor
    have back := holds.returned ended
    rw [failed] at back
    cases back
    exact ⟨rfl, fun next => holds.stopped (by rw [failed]; rfl) (by simp [failed])⟩
  · intro returned gone
    have ended : state.caller.Over .finish := gone ▸ .finished returned
    have back := holds.returned ended
    rw [gone] at back
    cases back
    rfl
  · intro returned gone next
    exact holds.stopped (by rw [gone]; rfl) (by simp [gone])

/-- A monitor that counts its snapshots. -/
def counted (count : Nat) : SnapshotOutcome Nat (List Nat) := ⟨count + 1, [count]⟩

/-- The caller asks twice and then finishes. -/
theorem monitor_owned_once_asked :
    ∃ state, Relation.ReflTransGen (Step counted) (.start 7) state ∧
      state.caller = .gone (some (.ok ⟨8, [7]⟩)) ∧ ∀ next, ¬Step counted state next := by
  have run : Relation.ReflTransGen (Step counted) (.start 7)
      ⟨.gone (some (.ok ⟨8, [7]⟩)), .exited, ⟨none, false, false⟩, ⟨none, false, false⟩, none,
        false⟩ :=
    .head (.caller .proceed rfl) <| .head (.caller .proceed rfl) <|
      .head (.caller .proceed rfl) <| .head (.caller .poll rfl) <|
      .head (.caller .proceed rfl) <| .head (.worker rfl) <|
      .head (.worker rfl) <| .head (.worker rfl) <| .head (.caller .poll rfl) <|
      .head (.caller .proceed rfl) <| .head (.worker rfl) <| .head (.worker rfl) <|
      .head (.caller .proceed rfl) <| .head (.caller .finish rfl) <|
      .head (.caller .proceed rfl) <| .head (.caller .proceed rfl) <|
      .head (.caller .proceed rfl) <| .head (.caller .proceed rfl) .refl
  exact ⟨_, run, rfl, (monitor_owned_once _ _ run).2.2.2.2 _ rfl⟩

end Invariant

end SnapshotRequest

end DamonRs
