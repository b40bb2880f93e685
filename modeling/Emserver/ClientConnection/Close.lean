import Emserver.ClientConnection
import Emserver.Lib.Closing

/-!
# Closing the client

What `connectionClose` leaves running.  It cancels the timer and drops the
session; a resolve or connect in flight, an expiry that is already queued and an
error handler about to reopen all go on.  A close is final exactly when none of
them is there at its return.
-/

set_option autoImplicit false

namespace Emserver.ClientConnection

open Emserver.TcpSession
open Lib.Runs
open Lib.Closing

/-- What a closed client must not do; reporting that it is not connected is all
right. -/
def Effect.forbidden : Effect → Bool
  | .connectedStateChanged none => false
  | _ => true

def isOpen : Event → Bool
  | .connectionOpen _ => true
  | _ => false

def isCloseReturn : Event → Bool
  | .closeReturn => true
  | _ => false

def client : Machine State Event Effect := ⟨step, isOpen, isCloseReturn, Effect.forbidden⟩

/-- Nothing was installed, started or reported connected while the client was
closed. -/
def CloseHolds (pair : State × Watch Effect) : Prop := pair.2.closed = true → pair.2.late = []

/-- Nothing is left that could install a session or start an attempt. -/
structure Quiescent (state : State) : Prop where
  notResolving : state.resolving = []
  notConnecting : state.connecting = []
  timerIdle : ¬ state.timer.pending
  notReopening : state.reopening = false
  noSession : state.session = none

instance (state : State) : Decidable (Quiescent state) :=
  decidable_of_iff (state.resolving = [] ∧ state.connecting = [] ∧ ¬ state.timer.pending ∧
    state.reopening = false ∧ state.session = none)
    ⟨fun ⟨resolving, connecting, timer, reopening, session⟩ =>
        ⟨resolving, connecting, timer, reopening, session⟩,
      fun ⟨resolving, connecting, timer, reopening, session⟩ =>
        ⟨resolving, connecting, timer, reopening, session⟩⟩

theorem quiescent_absorbing : client.Absorbing Quiescent := by
  intro state event next effects quiescent taken unopened
  obtain ⟨resolving, connecting, timer, reopening, session⟩ := quiescent
  have timerParts : state.timer.armed = false ∧ state.timer.expired = 0 := by
    simpa [ReconnectTimer.pending] using timer
  cases event with
  | connectionOpen point => contradiction
  | closeTransport =>
      cases (of_guard taken).2
      refine ⟨⟨resolving, connecting, ?_, reopening, session⟩, rfl⟩
      simp [closeConnection, ReconnectTimer.pending, timerParts]
  | closeSession =>
      cases (of_guard taken).2
      exact ⟨⟨resolving, connecting, timer, reopening, rfl⟩, rfl⟩
  | closeReturn =>
      cases (of_guard taken).2
      refine ⟨⟨resolving, connecting, timer, reopening, session⟩, ?_⟩
      unfold report
      split <;> rfl
  | registerCallback =>
      cases taken
      exact ⟨⟨resolving, connecting, timer, reopening, session⟩, rfl⟩
  | resolved id erCode => simp [client, step, resolving] at taken
  | connected id erCode => simp [client, step, connecting] at taken
  | timerExpires => simp [client, step, timerParts] at taken
  | timerExpired => simp [client, step, timerParts] at taken
  | timerAborted =>
      cases (of_guard taken).2
      exact ⟨⟨resolving, connecting, timer, reopening, session⟩, rfl⟩
  | sessionError code => simp [client, step, session] at taken
  | reopen => simp [client, step, reopening] at taken

/-! ## What goes on after other closes -/

theorem goesOn_of_loud {state : State} (event : Event) {outcome : State × List Effect}
    (stepped : step state event = some outcome) (unopened : isOpen event = false)
    (notReturn : isCloseReturn event = false)
    (loud : outcome.2.filter Effect.forbidden ≠ []) : Breaks client CloseHolds state :=
  .now event stepped unopened notReturn fun holds => loud (holds rfl)

theorem goesOn_of_reopening (state : State) (reopening : state.reopening = true) :
    Breaks client CloseHolds state :=
  goesOn_of_loud .reopen (if_pos reopening) rfl rfl (by simp [openConnection, Effect.forbidden])

section IoIdle
variable (state : State) (idle : state.reopening = false)
include idle

theorem goesOn_of_resolving (session : Nat) (resolving : session ∈ state.resolving) :
    Breaks client CloseHolds state :=
  goesOn_of_loud (.resolved session none)
    (if_pos ⟨(ioIdle_iff state).mpr idle, resolving⟩) rfl rfl
    (by simp [onHandlerResolved, Effect.forbidden])

theorem goesOn_of_connecting (session : Nat) (connecting : session ∈ state.connecting) :
    Breaks client CloseHolds state :=
  goesOn_of_loud (.connected session none)
    (if_pos ⟨(ioIdle_iff state).mpr idle, connecting⟩) rfl rfl
    (by simp [onHandlerAccepted, onClientConnected, Effect.forbidden])

theorem goesOn_of_expired (expired : 0 < state.timer.expired) :
    Breaks client CloseHolds state :=
  goesOn_of_loud .timerExpired (if_pos ⟨(ioIdle_iff state).mpr idle, expired⟩) rfl rfl
    (by simp [onReconnectTimerTimeout, openConnection, Effect.forbidden])

theorem goesOn_of_armed (armed : state.timer.armed = true) : Breaks client CloseHolds state :=
  .later .timerExpires (if_pos armed) rfl rfl rfl
    (goesOn_of_expired _ idle (Nat.succ_pos state.timer.expired))

theorem goesOn_of_session (session : state.session.isSome = true) :
    Breaks client CloseHolds state :=
  .later (.sessionError (.other 1))
    (if_pos ⟨(ioIdle_iff state).mpr idle, session⟩) rfl rfl
    (by
      change (report _ none).filter Effect.forbidden = []
      unfold report
      split <;> rfl)
    (goesOn_of_reopening _ rfl)

end IoIdle

theorem goesOn_of_not_quiescent (state : State) (active : ¬ Quiescent state) :
    Breaks client CloseHolds state := by
  by_cases reopening : state.reopening = true
  case pos => exact goesOn_of_reopening state reopening
  have idle : state.reopening = false := by simpa using reopening
  by_contra ends
  refine active ⟨?_, ?_, ?_, idle, ?_⟩
  · refine List.eq_nil_iff_forall_not_mem.mpr fun session resolving => ?_
    exact ends (goesOn_of_resolving state idle session resolving)
  · refine List.eq_nil_iff_forall_not_mem.mpr fun session connecting => ?_
    exact ends (goesOn_of_connecting state idle session connecting)
  · rintro (armed | expired)
    · exact ends (goesOn_of_armed state idle armed)
    · exact ends (goesOn_of_expired state idle expired)
  · cases session : state.session with
    | none => rfl
    | some id => exact absurd (goesOn_of_session state idle (by simp [session])) ends

/-! ## Final closes -/

/-- A close is final exactly when it returns on a quiescent client: in a run
whose closes all do, nothing is installed, started or reported connected while
the client is closed, and a close that does not is broken by some future. -/
theorem connectionClose_final_iff (events : List Event)
    (guarded : Guarded client.watched
      (fun pair event => isCloseReturn event = true → Quiescent pair.1)
      (start, ⟨false, []⟩) events) :
    Throughout client.watched
      (fun pair => pair.2.closed = true → pair.2.late = [] ∧ pair.1.session = none)
      (start, ⟨false, []⟩) events ∧
    ∀ closed, run client.watched (start, ⟨false, []⟩) (events ++ [.closeReturn]) = some closed →
      ((∀ future final, client.Unopened future → run client.watched closed future = some final →
        CloseHolds final) ↔ Quiescent closed.1) := by
  have settled := settled_throughout quiescent_absorbing start events guarded
  refine ⟨settled.mono fun pair here closed => ⟨here.1, (here.2 closed).noSession⟩, ?_⟩
  exact final_iff quiescent_absorbing (fun _ _ _ => rfl) goesOn_of_not_quiescent start events
    .closeReturn rfl rfl settled

/-- A connection that was established is closed. -/
def closedRun : List Event :=
  [.connectionOpen ⟨"127.0.0.1", 8000⟩, .resolved 0 none, .connected 0 none,
    .closeTransport, .closeSession, .closeReturn]

theorem connectionClose_final_iff_closedRun :
    Throughout client.watched
      (fun pair => pair.2.closed = true → pair.2.late = [] ∧ pair.1.session = none)
      (start, ⟨false, []⟩) closedRun :=
  (connectionClose_final_iff closedRun (by decide)).1

/-- The close comes while a connect is in flight. -/
def connectingRun : List Event :=
  [.connectionOpen ⟨"127.0.0.1", 8000⟩, .resolved 0 none,
    .closeTransport, .closeSession, .closeReturn, .connected 0 none]

theorem connect_completes_after_close :
    ∃ pair, run client.watched (start, ⟨false, []⟩) connectingRun = some pair ∧
      pair.2.closed = true ∧ pair.2.late = [.install 0] ∧ pair.1.session = some 0 :=
  ⟨_, rfl, rfl, rfl, rfl⟩

end Emserver.ClientConnection
