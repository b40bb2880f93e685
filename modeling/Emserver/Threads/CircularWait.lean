import Emserver.Threads

/-!
# Circular waits

Which steps lead from a state without a circular wait to one with it.  The io
thread completes the writes, so it must not wait for one; and the processing
thread must not be joined by itself, nor while it waits for a write.
-/

set_option autoImplicit false

namespace Emserver.Threads

open Lib.Runs

/-- The io thread is in no wait that counts. -/
def ioRuns (mutex : Bool) (state : State) : Bool :=
  match state.io with
  | .idle => true
  | .callback _ => true
  | .lockWait _ => !mutex
  | _ => false

/-- The processing thread waits for a write of the current session. -/
def WorkerStuck (state : State) : Prop :=
  state.worker = .sendWait .current ∧ state.current.inSendMode = true

instance (state : State) : Decidable (WorkerStuck state) := by
  unfold WorkerStuck
  infer_instance

/-- When a step leads to no circular wait: the io thread gets the send mutex (where
waiting for it counts, it sends) only with no write outstanding, and destroys no
session while its processing thread waits for a write; the processing thread waits
for a write only while the io thread does not wait, and closes only what the io
thread holds. -/
def Safe (mutex : Bool) (state : State) : Event → Prop
  | .connect => state.installed = true → ¬ WorkerStuck state
  | .readError _ => ¬ WorkerStuck state
  | .ioSend =>
      state.installed = true → mutex = true ∨ state.current.lock = none →
        state.current.inSendMode = false
  | .ioLock => state.current.inSendMode = false
  | .ioReturn => state.deferred = true → ¬ WorkerStuck state
  | .workerSend =>
      state.installed = true → state.current.inSendMode = true → ioRuns mutex state = true
  | .workerClose => state.installed = true → ioHolds state = true
  | _ => True

instance (mutex : Bool) (state : State) (event : Event) : Decidable (Safe mutex state event) := by
  cases event <;> unfold Safe <;> infer_instance

/-- What holds while no wait is circular.  Only the processing thread is ever in
the loop, and it is there with the send mutex. -/
structure Flowing (mutex : Bool) (state : State) : Prop where
  ioNotSending : ∀ callback, state.io ≠ .sendWait callback
  workerNotLocked : ∀ on, state.worker ≠ .lockWait on
  workerNotJoined : state.worker ≠ .selfJoin
  lockHeld : state.current.lock = some .worker ↔ state.worker = .sendWait .current
  lockNotIo : state.current.lock ≠ some .io
  dyingJoined : state.worker = .sendWait .dying → ∃ next, state.io = .join next
  ioRunsFor : ∀ on, state.worker = .sendWait on → (state.sending on).inSendMode = true →
    ioRuns mutex state = true

section Flowing
variable {mutex : Bool} {state : State} (flowing : Flowing mutex state)
include flowing

theorem Flowing.lock_none (elsewhere : state.worker ≠ .sendWait .current) :
    state.current.lock = none := by
  cases lock : state.current.lock with
  | none => rfl
  | some owner =>
      cases owner with
      | io => exact absurd lock flowing.lockNotIo
      | worker => exact absurd (flowing.lockHeld.mp lock) elsewhere

theorem Flowing.io_waits {other : Thread} (waits : waitsFor mutex state .io = some other) :
    other = .worker ∧ ioRuns mutex state = false := by
  unfold waitsFor at waits
  cases io : state.io with
  | idle => simp [io] at waits
  | callback callback => simp [io] at waits
  | sendWait callback => exact absurd io (flowing.ioNotSending callback)
  | lockWait callback =>
      cases mutex with
      | false => simp [io] at waits
      | true =>
          simp only [io, if_true] at waits
          cases other with
          | io => exact absurd waits flowing.lockNotIo
          | worker => simp [ioRuns, io]
  | join next =>
      simp only [io] at waits
      split at waits
      · contradiction
      · cases waits
        simp [ioRuns, io]

theorem Flowing.worker_waits {other : Thread}
    (waits : waitsFor mutex state .worker = some other) :
    other = .io ∧ ioRuns mutex state = true := by
  unfold waitsFor at waits
  cases worker : state.worker with
  | lockWait on => exact absurd worker (flowing.workerNotLocked on)
  | selfJoin => exact absurd worker flowing.workerNotJoined
  | sendWait on =>
      simp only [worker] at waits
      split at waits
      · rename_i mode
        cases waits
        exact ⟨rfl, flowing.ioRunsFor on worker mode⟩
      · contradiction
  | _ => simp [worker] at waits

theorem Flowing.not_circular : ¬ CircularWait mutex state := by
  rintro ⟨thread, other, waits, otherWaits⟩
  obtain ⟨last, waitsToo⟩ := Option.isSome_iff_exists.mp otherWaits
  cases thread with
  | io =>
      obtain ⟨rfl, blocked⟩ := flowing.io_waits waits
      obtain ⟨_, runs⟩ := flowing.worker_waits waitsToo
      simp [runs] at blocked
  | worker =>
      obtain ⟨rfl, runs⟩ := flowing.worker_waits waits
      obtain ⟨_, blocked⟩ := flowing.io_waits waitsToo
      simp [runs] at blocked

/-! ## What a step leaves -/

/-- A session is destroyed by an io thread that is not destroying another. -/
theorem flowing_destroy (notJoin : ∀ after, state.io ≠ .join after) (next : Option Callback)
    (loose : ¬ WorkerStuck state) : Flowing mutex (destroy state next) := by
  have worker : ∀ on, state.worker.onDying = .sendWait on →
      on = .dying ∧ state.worker = .sendWait .current := by
    intro on waits
    cases pc : state.worker with
    | sendWait before =>
        rw [pc] at waits
        cases before with
        | current => simpa [WorkerPc.onDying, eq_comm] using waits
        | dying => exact absurd (flowing.dyingJoined pc) (by simpa using notJoin)
    | _ => simp [pc, WorkerPc.onDying] at waits
  refine ⟨?_, ?_, ?_, ?_, ?_, fun _ => ⟨next, rfl⟩, ?_⟩
  · intro callback impossible
    contradiction
  · intro on waits
    cases pc : state.worker with
    | lockWait before => exact flowing.workerNotLocked before pc
    | _ => simp [destroy, pc, WorkerPc.onDying] at waits
  · intro waits
    cases pc : state.worker with
    | selfJoin => exact flowing.workerNotJoined pc
    | _ => simp [destroy, pc, WorkerPc.onDying] at waits
  · constructor
    · intro impossible
      contradiction
    · intro waits
      exact nomatch (worker .current waits).1
  · intro impossible
    contradiction
  · intro on waits mode
    obtain ⟨rfl, before⟩ := worker on waits
    exact absurd ⟨before, mode⟩ loose

/-- The io thread sends in a callback, or gets the mutex there. -/
theorem flowing_ioSend (notJoin : ∀ next, state.io ≠ .join next) (callback : Callback)
    (quiet : mutex = true ∨ state.current.lock = none → state.current.inSendMode = false) :
    Flowing mutex (ioSend state callback) := by
  have notDying : state.worker ≠ .sendWait .dying := by
    intro waits
    obtain ⟨next, io⟩ := flowing.dyingJoined waits
    exact notJoin next io
  cases lock : state.current.lock with
  | some owner =>
      have outcome : ioSend state callback = { state with io := .lockWait callback } := by
        simp [ioSend, Sending.sendData, lock]
      rw [outcome]
      refine ⟨by simp, flowing.workerNotLocked, flowing.workerNotJoined, flowing.lockHeld,
        flowing.lockNotIo, fun waits => absurd waits notDying, ?_⟩
      intro on waits mode
      cases on with
      | dying => exact absurd waits notDying
      | current =>
          cases mutex with
          | false => rfl
          | true =>
              have idle := quiet (.inl rfl)
              rw [State.sending, idle] at mode
              contradiction
  | none =>
      have elsewhere : state.worker ≠ .sendWait .current := by
        intro waits
        rw [flowing.lockHeld.mpr waits] at lock
        contradiction
      have outcome : ioSend state callback =
          { state with current := state.current.startWrite, io := .callback callback } := by
        simp [ioSend, Sending.sendData, lock, quiet (.inr lock)]
      rw [outcome]
      refine ⟨by simp, flowing.workerNotLocked, flowing.workerNotJoined, ?_,
        by simp [Sending.startWrite], fun waits => absurd waits notDying, fun _ _ _ => rfl⟩
      simp [Sending.startWrite, elsewhere]

theorem flowing_workerSend (calls : state.worker = .callback)
    (allowed : state.current.inSendMode = true → ioRuns mutex state = true) :
    Flowing mutex (workerSend state .current) := by
  have lock := flowing.lock_none (by simp [calls])
  cases mode : state.current.inSendMode with
  | true =>
      have outcome : workerSend state .current =
          { state with
            current := { state.current with lock := some .worker }
            worker := .sendWait .current } := by
        simp [workerSend, State.sending, State.setSending, Sending.sendData, lock, mode]
      rw [outcome]
      exact ⟨flowing.ioNotSending, by simp, by simp, by simp, by simp, by simp,
        fun _ _ _ => allowed mode⟩
  | false =>
      have outcome : workerSend state .current =
          { state with current := state.current.startWrite, worker := .callback } := by
        simp [workerSend, State.sending, State.setSending, Sending.sendData, lock, mode]
      rw [outcome]
      exact ⟨flowing.ioNotSending, by simp, by simp, by simp [Sending.startWrite],
        by simp [Sending.startWrite], by simp, by simp⟩

theorem flowing_workerWake (on : Which) (waits : state.worker = .sendWait on) :
    Flowing mutex
      { state.setSending on (state.sending on).startWrite with worker := .callback } := by
  cases on with
  | current =>
      exact ⟨flowing.ioNotSending, by simp, by simp,
        by simp [State.setSending, Sending.startWrite],
        by simp [State.setSending, Sending.startWrite], by simp, by simp⟩
  | dying =>
      have lock := flowing.lock_none (by simp [waits])
      exact ⟨flowing.ioNotSending, by simp, by simp, by simp [State.setSending, lock],
        by simp [State.setSending, lock], by simp, by simp⟩

theorem flowing_handlerWrite (idle : state.io = .idle) :
    Flowing mutex { state with current := state.current.handlerWrite } where
  ioNotSending := flowing.ioNotSending
  workerNotLocked := flowing.workerNotLocked
  workerNotJoined := flowing.workerNotJoined
  lockHeld := flowing.lockHeld
  lockNotIo := flowing.lockNotIo
  dyingJoined := flowing.dyingJoined
  ioRunsFor _ _ _ := by simp [ioRuns, idle]

theorem flowing_joined (exited : state.worker = .exited) (next : Option Callback) :
    Flowing mutex { state with
      dying := .fresh
      io := match next with
        | none => .idle
        | some callback => .callback callback
      worker := if next = some .connected then .idle else .absent
      needExit := false } := by
  have lock := flowing.lock_none (by simp [exited])
  have pc : ∀ on, (if next = some .connected then WorkerPc.idle else .absent) ≠ .sendWait on := by
    intro on
    split <;> simp
  refine ⟨?_, ?_, ?_, ?_, flowing.lockNotIo, fun waits => absurd waits (pc .dying),
    fun on waits => absurd waits (pc on)⟩
  · intro callback impossible
    cases next <;> contradiction
  · intro on
    simp only
    split <;> simp
  · simp only
    split <;> simp
  · simp [lock, pc]

end Flowing

section Moves
variable {mutex : Bool} {state next : State}

theorem flowing_start : Flowing mutex start := by
  refine ⟨?_, ?_, ?_, ?_, ?_, ?_, ?_⟩ <;> simp [start, Sending.fresh]

/-- What changes neither thread's waits nor the current session's writes. -/
theorem Flowing.congr (flowing : Flowing mutex state)
    (current : next.current = state.current) (dying : next.dying = state.dying)
    (io : next.io = state.io) (worker : next.worker = state.worker) : Flowing mutex next := by
  obtain ⟨ioNotSending, workerNotLocked, workerNotJoined, lockHeld, lockNotIo, dyingJoined,
    ioRunsFor⟩ := flowing
  refine ⟨?_, ?_, ?_, ?_, ?_, ?_, ?_⟩
  · rwa [io]
  · rwa [worker]
  · rwa [worker]
  · rwa [current, worker]
  · rwa [current]
  · rwa [worker, io]
  · intro on waits mode
    have runs := ioRunsFor on (worker ▸ waits) (by cases on <;> simp_all [State.sending])
    simpa [ioRuns, io] using runs

/-- What moves the processing thread where it does not wait, from where it did not. -/
theorem Flowing.workerMoves (flowing : Flowing mutex state)
    (current : next.current = state.current) (io : next.io = state.io)
    (before : ∀ on, state.worker ≠ .sendWait on) (sends : ∀ on, next.worker ≠ .sendWait on)
    (locks : ∀ on, next.worker ≠ .lockWait on) (joins : next.worker ≠ .selfJoin) :
    Flowing mutex next where
  ioNotSending := io ▸ flowing.ioNotSending
  workerNotLocked := locks
  workerNotJoined := joins
  lockHeld := by
    rw [current, flowing.lock_none (before .current)]
    simp [sends .current]
  lockNotIo := current ▸ flowing.lockNotIo
  dyingJoined waits := absurd waits (sends .dying)
  ioRunsFor on waits := absurd waits (sends on)

theorem Flowing.ioMoves (flowing : Flowing mutex state)
    (notJoin : ∀ after, state.io ≠ .join after)
    (current : next.current = state.current) (worker : next.worker = state.worker)
    (runs : ioRuns mutex next = true) : Flowing mutex next where
  ioNotSending callback io := by simp [ioRuns, io] at runs
  workerNotLocked := worker ▸ flowing.workerNotLocked
  workerNotJoined := worker ▸ flowing.workerNotJoined
  lockHeld := by
    rw [current, worker]
    exact flowing.lockHeld
  lockNotIo := current ▸ flowing.lockNotIo
  dyingJoined waits := by
    obtain ⟨after, io⟩ := flowing.dyingJoined (worker ▸ waits)
    exact absurd io (notJoin after)
  ioRunsFor _ _ _ := runs

/-! ## Steps and runs -/

theorem flowing_sessionError (flowing : Flowing mutex state)
    (notJoin : ∀ after, state.io ≠ .join after) (loose : ¬ WorkerStuck state)
    (reported : Bool) : Flowing mutex (sessionError state reported) := by
  have removed : Flowing mutex { state with installed := false } :=
    flowing.congr rfl rfl rfl rfl
  exact flowing_destroy removed notJoin _ loose

end Moves

theorem flowing_step (mutex : Bool) (state : State) (event : Event) (next : State)
    (flowing : Flowing mutex state) (safe : Safe mutex state event)
    (taken : step state event = some next) : Flowing mutex next := by
  cases event with
  | connect =>
      obtain ⟨⟨io, free⟩, rfl⟩ := of_guard taken
      unfold install
      split
      · rename_i installed
        exact flowing_destroy flowing (by simp [io]) _ (safe installed)
      · rename_i installed
        have absent : state.worker = .absent := by simpa [installed] using free
        refine ⟨?_, ?_, ?_, ?_, ?_, ?_, ?_⟩ <;> simp [Sending.fresh]
  | read =>
      obtain ⟨_, rfl⟩ := of_guard taken
      exact flowing.congr rfl rfl rfl rfl
  | readError reported =>
      obtain ⟨⟨io, _⟩, rfl⟩ := of_guard taken
      exact flowing_sessionError flowing (by simp [io]) safe reported
  | writeDone error =>
      simp only [step, Option.ite_none_right_eq_some] at taken
      obtain ⟨⟨io, _, _⟩, taken⟩ := taken
      have written := flowing_handlerWrite flowing io
      cases error with
      | none =>
          cases taken
          exact written
      | some reported =>
          cases taken
          refine flowing_sessionError written (by simp [io]) ?_ reported
          rintro ⟨_, mode⟩
          contradiction
  | joined =>
      cases io : state.io with
      | join after =>
          simp only [step, io, Option.ite_none_right_eq_some, Option.some.injEq] at taken
          obtain ⟨exited, rfl⟩ := taken
          exact flowing_joined flowing exited after
      | _ => simp [step, io] at taken
  | ioSend =>
      cases io : state.io with
      | callback callback =>
          simp only [step, io] at taken
          split at taken
          · rename_i installed
            cases taken
            exact flowing_ioSend flowing (by simp [io]) callback (safe installed)
          · cases taken
            exact flowing
      | _ => simp [step, io] at taken
  | ioClose =>
      cases io : state.io with
      | callback callback =>
          simp only [step, io] at taken
          split at taken
          · cases taken
            exact flowing.congr rfl rfl io.symm rfl
          · cases taken
            exact flowing
      | _ => simp [step, io] at taken
  | ioReturn =>
      cases io : state.io with
      | callback callback =>
          simp only [step, io] at taken
          split at taken
          · rename_i deferred
            cases taken
            exact flowing_destroy flowing (by simp [io]) none (safe deferred)
          · cases taken
            exact flowing.ioMoves (by simp [io]) rfl rfl rfl
      | _ => simp [step, io] at taken
  | ioLock =>
      cases io : state.io with
      | lockWait callback =>
          simp only [step, io, Option.ite_none_right_eq_some, Option.some.injEq] at taken
          obtain ⟨_, rfl⟩ := taken
          exact flowing_ioSend flowing (by simp [io]) callback fun _ => safe
      | _ => simp [step, io] at taken
  | ioWake =>
      cases io : state.io with
      | sendWait callback => exact absurd io (flowing.ioNotSending callback)
      | _ => simp [step, io] at taken
  | message =>
      obtain ⟨⟨worker, _⟩, rfl⟩ := of_guard taken
      exact flowing.workerMoves rfl rfl (by simp [worker]) (by simp) (by simp) (by simp)
  | workerSend =>
      simp only [step, Option.ite_none_right_eq_some] at taken
      obtain ⟨worker, taken⟩ := taken
      split at taken
      · rename_i installed
        cases taken
        exact flowing_workerSend flowing worker (safe installed)
      · cases taken
        exact flowing
  | workerClose =>
      simp only [step, Option.ite_none_right_eq_some] at taken
      obtain ⟨worker, taken⟩ := taken
      split at taken
      · rename_i installed
        cases taken
        rw [workerClose, if_pos (safe installed)]
        exact flowing.congr rfl rfl rfl rfl
      · cases taken
        exact flowing
  | workerReturn =>
      obtain ⟨worker, rfl⟩ := of_guard taken
      exact flowing.workerMoves rfl rfl (by simp [worker]) (by simp) (by simp) (by simp)
  | workerLock =>
      cases worker : state.worker with
      | lockWait on => exact absurd worker (flowing.workerNotLocked on)
      | _ => simp [step, worker] at taken
  | workerWake =>
      cases worker : state.worker with
      | sendWait on =>
          simp only [step, worker, Option.some.injEq] at taken
          subst taken
          exact flowing_workerWake flowing on worker
      | _ => simp [step, worker] at taken
  | workerExit =>
      obtain ⟨⟨worker, _⟩, rfl⟩ := of_guard taken
      exact flowing.workerMoves rfl rfl (by simp [worker]) (by simp) (by simp) (by simp)

/-! Every other step ends in a circular wait. -/

section Circular
variable {mutex : Bool} (state : State)

/-- The io thread joins a processing thread that waits for a write. -/
theorem circular_of_destroy (next : Option Callback) (stuck : WorkerStuck state) :
    CircularWait mutex (destroy state next) := by
  obtain ⟨worker, mode⟩ := stuck
  refine ⟨.io, .worker, ?_, ?_⟩
  · simp [waitsFor, destroy, worker, WorkerPc.onDying]
  · simp [waitsFor, destroy, worker, WorkerPc.onDying, State.sending, mode]

/-- The io thread waits for a write itself, or for the thread that waits for it. -/
theorem circular_of_ioSend (flowing : Flowing mutex state) (callback : Callback)
    (counts : mutex = true ∨ state.current.lock = none)
    (mode : state.current.inSendMode = true) : CircularWait mutex (ioSend state callback) := by
  cases lock : state.current.lock with
  | none =>
      refine ⟨.io, .io, ?_, ?_⟩ <;> simp [waitsFor, ioSend, Sending.sendData, lock, mode]
  | some owner =>
      cases owner with
      | io => exact absurd lock flowing.lockNotIo
      | worker =>
          have worker := flowing.lockHeld.mp lock
          have isCounted : mutex = true := by simpa [lock] using counts
          subst isCounted
          refine ⟨.io, .worker, ?_, ?_⟩
          · simp [waitsFor, ioSend, Sending.sendData, lock]
          · simp [waitsFor, ioSend, Sending.sendData, lock, worker, State.sending, mode]

/-- The processing thread waits for a write while the io thread waits for it. -/
theorem circular_of_workerSend (flowing : Flowing mutex state)
    (worker : state.worker = .callback) (mode : state.current.inSendMode = true)
    (blocked : ioRuns mutex state = false) :
    CircularWait mutex (workerSend state .current) := by
  have lock := flowing.lock_none (by simp [worker])
  have outcome : workerSend state .current =
      { state with
        current := { state.current with lock := some .worker }
        worker := .sendWait .current } := by
    simp [workerSend, State.sending, State.setSending, Sending.sendData, lock, mode]
  rw [outcome]
  refine ⟨.worker, .io, ?_, ?_⟩
  · simp [waitsFor, State.sending, mode]
  · cases io : state.io with
    | sendWait callback => exact absurd io (flowing.ioNotSending callback)
    | lockWait callback =>
        have isCounted : mutex = true := by simpa [ioRuns, io] using blocked
        simp [waitsFor, isCounted]
    | join next => simp [waitsFor]
    | _ => simp [ioRuns, io] at blocked

end Circular

theorem safe_of_not_circular (mutex : Bool) (state : State) (event : Event) (next : State)
    (flowing : Flowing mutex state) (taken : step state event = some next)
    (straight : ¬ CircularWait mutex next) : Safe mutex state event := by
  cases event with
  | connect =>
      obtain ⟨_, rfl⟩ := of_guard taken
      intro installed stuck
      rw [install, if_pos installed] at straight
      exact straight (circular_of_destroy state _ stuck)
  | readError reported =>
      obtain ⟨_, rfl⟩ := of_guard taken
      intro stuck
      exact straight (circular_of_destroy { state with installed := false } _ stuck)
  | ioSend =>
      intro installed counts
      cases io : state.io with
      | callback callback =>
          simp only [step, io, if_pos installed, Option.some.injEq] at taken
          subst taken
          cases mode : state.current.inSendMode with
          | false => rfl
          | true => exact absurd (circular_of_ioSend state flowing callback counts mode) straight
      | _ => simp [step, io] at taken
  | ioLock =>
      cases io : state.io with
      | lockWait callback =>
          simp only [step, io, Option.ite_none_right_eq_some, Option.some.injEq] at taken
          obtain ⟨free, rfl⟩ := taken
          change state.current.inSendMode = false
          cases mode : state.current.inSendMode with
          | false => rfl
          | true =>
              exact absurd (circular_of_ioSend state flowing callback (.inr free) mode) straight
      | _ => simp [step, io] at taken
  | ioReturn =>
      intro deferred stuck
      cases io : state.io with
      | callback callback =>
          simp only [step, io, if_pos deferred, Option.some.injEq] at taken
          subst taken
          exact straight (circular_of_destroy state none stuck)
      | _ => simp [step, io] at taken
  | workerSend =>
      intro installed mode
      simp only [step, if_pos installed, Option.ite_none_right_eq_some,
        Option.some.injEq] at taken
      obtain ⟨worker, rfl⟩ := taken
      cases runs : ioRuns mutex state with
      | true => rfl
      | false => exact absurd (circular_of_workerSend state flowing worker mode runs) straight
  | workerClose =>
      intro installed
      simp only [step, if_pos installed, Option.ite_none_right_eq_some,
        Option.some.injEq] at taken
      obtain ⟨_, rfl⟩ := taken
      cases holds : ioHolds state with
      | true => rfl
      | false =>
          rw [workerClose, if_neg (by simp [holds])] at straight
          exact absurd ⟨.worker, .worker, rfl, rfl⟩ straight
  | _ => trivial

/-- No state of a run has a circular wait exactly when all its steps are safe,
whether a wait for the send mutex counts or not. -/
theorem no_circular_wait_iff (mutex : Bool) (events : List Event) :
    Throughout step (fun state => ¬ CircularWait mutex state) start events ↔
      Guarded step (Safe mutex) start events :=
  throughout_iff_guarded (fun _ => True)
    (fun state event next _ => flowing_step mutex state event next)
    (fun _ flowing => flowing.not_circular)
    (fun state event next _ => safe_of_not_circular mutex state event next)
    flowing_start (fun _ _ => trivial)

/-- Two sends in the connected callback; a close in a request callback; a read
error while a request callback waits for a write. -/
theorem circular_waits_reached :
    (∃ state, run step start [.connect, .ioSend, .ioSend] = some state ∧
      CircularWait false state) ∧
    (∃ state, run step start [.connect, .ioReturn, .read, .message, .workerClose] = some state ∧
      CircularWait false state) ∧
    ∃ state, run step start [.connect, .ioReturn, .read, .message, .workerSend, .workerSend,
        .readError true] = some state ∧
      CircularWait false state :=
  ⟨⟨_, rfl, .io, .io, rfl, rfl⟩, ⟨_, rfl, .worker, .worker, rfl, rfl⟩,
    ⟨_, rfl, .io, .worker, rfl, rfl⟩⟩

end Emserver.Threads
