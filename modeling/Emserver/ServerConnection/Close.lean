import Emserver.ServerConnection
import Emserver.Lib.Closing

/-!
# Closing the server

What `close` leaves running.  Cancelling the acceptor aborts an accept that has
not completed; one that has is still handled, and an error handler on its way to
`listen(true)` opens the acceptor again.
-/

set_option autoImplicit false

namespace Emserver.ServerConnection

open Emserver.TcpSession
open Lib.Runs
open Lib.Closing

/-- What a closed server must not do. -/
def Effect.newClient : Effect → Bool
  | .clientConnected _ => true
  | _ => false

def isListen : Event → Bool
  | .listen _ => true
  | _ => false

def isCloseReturn : Event → Bool
  | .closeReturn => true
  | _ => false

def server : Machine State Event Effect := ⟨step, isListen, isCloseReturn, Effect.newClient⟩

/-- While the server is closed it has no session, no acceptor, no outstanding
accept, and reports no new client. -/
def StaysClosed (pair : State × Watch Effect) : Prop :=
  pair.2.closed = true →
    pair.1.session = none ∧ pair.1.acceptor = false ∧ pair.1.accepting = [] ∧ pair.2.late = []

/-- Nothing is left that could install a session or open the acceptor. -/
structure Quiescent (state : State) : Prop where
  noSession : state.session = none
  noAcceptor : state.acceptor = false
  notAccepting : state.accepting = []
  onlyAborted : ∀ completion ∈ state.completions, completion.2 = some .operationAborted
  notReopening : state.reopening = false

instance (state : State) : Decidable (Quiescent state) :=
  decidable_of_iff (state.session = none ∧ state.acceptor = false ∧ state.accepting = [] ∧
    (∀ completion ∈ state.completions, completion.2 = some ErrorCode.operationAborted) ∧
    state.reopening = false)
    ⟨fun ⟨session, acceptor, accepting, aborted, reopening⟩ =>
        ⟨session, acceptor, accepting, aborted, reopening⟩,
      fun ⟨session, acceptor, accepting, aborted, reopening⟩ =>
        ⟨session, acceptor, accepting, aborted, reopening⟩⟩

theorem quiescent_absorbing : server.Absorbing Quiescent := by
  intro state event next effects quiescent taken unopened
  obtain ⟨session, acceptor, accepting, aborted, reopening⟩ := quiescent
  cases event with
  | listen success => contradiction
  | closeAcceptor =>
      obtain ⟨_, same⟩ := of_guard taken
      simp only [transportListen, acceptor, Bool.false_eq_true, if_false] at same
      cases same
      exact ⟨⟨session, rfl, accepting, aborted, reopening⟩, rfl⟩
  | closeSession =>
      cases (of_guard taken).2
      exact ⟨⟨rfl, acceptor, accepting, aborted, reopening⟩, rfl⟩
  | closeReturn =>
      cases (of_guard taken).2
      exact ⟨⟨session, acceptor, accepting, aborted, reopening⟩, rfl⟩
  | registerCallback =>
      cases taken
      exact ⟨⟨session, acceptor, accepting, aborted, reopening⟩, rfl⟩
  | accepted id result => simp [server, step, accepting] at taken
  | handlerAccept id erCode =>
      obtain ⟨⟨_, member⟩, taken⟩ := of_guard taken
      have isAborted : erCode = some .operationAborted := aborted _ member
      rw [handlerAccept, if_pos isAborted] at taken
      cases taken
      exact ⟨⟨session, acceptor, accepting,
        fun completion inside => aborted completion (List.mem_of_mem_erase inside),
        reopening⟩, rfl⟩
  | sessionError code => simp [server, step, session] at taken
  | reopen success => simp [server, step, reopening] at taken

theorem staysClosed_of_quiescent (state : State) (quiescent : Quiescent state) :
    StaysClosed (state, ⟨true, []⟩) :=
  fun _ => ⟨quiescent.noSession, quiescent.noAcceptor, quiescent.notAccepting, rfl⟩

/-! ## What goes on after other closes -/

theorem opens_of_reopening (state : State) (reopening : state.reopening = true) :
    Breaks server StaysClosed state :=
  .now (.reopen true) (if_pos reopening) rfl rfl fun stays => by
    have acceptor := (stays rfl).2.1
    simp [listenAndAccept, transportListen, acceptNewConnection] at acceptor

theorem installs_of_completion (state : State) (idle : state.reopening = false)
    (session : Nat) (result : Option ErrorCode)
    (queued : (session, result) ∈ state.completions)
    (notAborted : result ≠ some .operationAborted) : Breaks server StaysClosed state :=
  .now (.handlerAccept session result) (if_pos ⟨(ioIdle_iff state).mpr idle, queued⟩) rfl rfl
    fun stays => by
      have session := (stays rfl).1
      rw [handlerAccept, if_neg notAborted] at session
      simp only [transportClientConnectedCallback, transportListen, Bool.false_eq_true,
        if_false] at session
      split at session <;> simp [resetAcceptor] at session

theorem breaks_of_not_quiescent (state : State) (active : ¬ Quiescent state) :
    Breaks server StaysClosed state := by
  by_cases reopening : state.reopening = true
  case pos => exact opens_of_reopening state reopening
  have idle : state.reopening = false := by simpa using reopening
  by_cases stays : StaysClosed (state, ⟨true, []⟩)
  case neg => exact .already stays
  obtain ⟨session, acceptor, accepting, _⟩ := stays rfl
  by_contra ends
  refine active ⟨session, acceptor, accepting, ?_, idle⟩
  rintro ⟨id, result⟩ queued
  by_contra notAborted
  exact ends (installs_of_completion state idle id result queued notAborted)

/-! ## Final closes -/

/-- A close is final exactly when it returns on a quiescent server: in a run
whose closes all do, the server stays closed until it listens again, and a close
that does not is broken by some future. -/
theorem close_final_iff (events : List Event)
    (guarded : Guarded server.watched
      (fun pair event => isCloseReturn event = true → Quiescent pair.1)
      (start, ⟨false, []⟩) events) :
    Throughout server.watched StaysClosed (start, ⟨false, []⟩) events ∧
    ∀ closed, run server.watched (start, ⟨false, []⟩) (events ++ [.closeReturn]) = some closed →
      ((∀ future final, server.Unopened future → run server.watched closed future = some final →
        StaysClosed final) ↔ Quiescent closed.1) := by
  have settled := settled_throughout quiescent_absorbing start events guarded
  refine ⟨settled.mono fun pair here closed => ?_, ?_⟩
  · have quiescent := here.2 closed
    exact ⟨quiescent.noSession, quiescent.noAcceptor, quiescent.notAccepting, here.1⟩
  · exact final_iff quiescent_absorbing staysClosed_of_quiescent breaks_of_not_quiescent start
      events .closeReturn rfl rfl settled

/-- The server is closed while an accept is outstanding, which the close aborts. -/
def abortedRun : List Event :=
  [.listen true, .closeAcceptor, .closeSession, .closeReturn,
    .handlerAccept 0 (some .operationAborted)]

theorem close_final_iff_abortedRun :
    Throughout server.watched StaysClosed (start, ⟨false, []⟩) abortedRun :=
  (close_final_iff abortedRun (by decide)).1

/-- The accept has completed when the close comes, and is handled after it. -/
def acceptedRun : List Event :=
  [.registerCallback, .listen true, .accepted 0 none,
    .closeAcceptor, .closeSession, .closeReturn, .handlerAccept 0 none]

theorem accept_handled_after_close :
    ∃ pair, run server.watched (start, ⟨false, []⟩) acceptedRun = some pair ∧
      pair.2.closed = true ∧ pair.1.session = some ⟨0, true⟩ ∧
      pair.2.late = [.clientConnected ⟨0, true⟩] :=
  ⟨_, rfl, rfl, rfl, rfl⟩

end Emserver.ServerConnection
