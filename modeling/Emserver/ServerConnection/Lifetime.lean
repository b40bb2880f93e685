import Emserver.ServerConnection.Reports
import Emserver.TcpSession.Lifetime

/-!
# The lifetime of the server's session

`CServer` drops its session in `close` and in `callbackSessionError`.  Only the
latter can come when no operation of the session is left.
-/

set_option autoImplicit false

namespace Emserver.ServerConnection

open Emserver.TcpSession
open Lib.Runs

def ofSession : Event → Bool
  | .sessionError _ => true
  | _ => false

def ofIoThread : Event → Bool
  | .handlerAccept _ _ => true
  | .sessionError _ => true
  | .reopen _ => true
  | _ => false

/-- `transportClientConnectedCallback` calls `waitReading` before `onClientConnected_`. -/
def owner : Lifetime.Owner State Event Effect Session :=
  ⟨step, State.session, Session.isOpen, Event.sessionError, ofSession, ofIoThread, true⟩

theorem owner_drops : owner.Drops := by
  intro state code next effects error stepped
  obtain ⟨⟨_, installed⟩, failed⟩ := of_guard stepped
  refine ⟨installed, ?_⟩
  have passed : forwarded code = some code := if_neg error
  simp only [sessionFails, passed] at failed
  by_cases early : ReturnsEarly code
  · rw [callbackSessionError_early state code early] at failed
    cases failed
    rfl
  · rw [callbackSessionError_reopens state code early] at failed
    cases failed
    rfl

def takesSession : Event → Bool
  | .closeSession => true
  | _ => false

/-- Apart from errors, only `close` takes a session from the server. -/
theorem owner_takes : Lifetime.Takes owner takesSession Single := by
  intro state event next effects single own taken
  change (next.session = state.session ∨ state.session = none) ↔
    (takesSession event = true → state.session = none)
  cases event with
  | listen success =>
      obtain ⟨⟨_, isDrained⟩, _⟩ := of_guard taken
      simp only [drained, Bool.and_eq_true, Option.isNone_iff_eq_none] at isDrained
      exact Lifetime.taking_of_kept rfl (.inr isDrained.1.2)
  | closeAcceptor =>
      obtain ⟨_, same⟩ := of_guard taken
      cases same
      exact Lifetime.taking_of_kept rfl (.inl (stopListening_listened state).session)
  | closeSession =>
      obtain ⟨_, same⟩ := of_guard taken
      cases same
      simp [takesSession, eq_comm]
  | closeReturn =>
      obtain ⟨_, same⟩ := of_guard taken
      cases same
      exact Lifetime.taking_of_kept rfl (.inl rfl)
  | registerCallback =>
      cases taken
      exact Lifetime.taking_of_kept rfl (.inl rfl)
  | accepted session result =>
      obtain ⟨_, same⟩ := of_guard taken
      cases same
      exact Lifetime.taking_of_kept rfl (.inl rfl)
  | handlerAccept session erCode =>
      obtain ⟨⟨_, queued⟩, taken⟩ := of_guard taken
      unfold handlerAccept at taken
      split at taken
      case isTrue aborted =>
        cases taken
        exact Lifetime.taking_of_kept rfl (.inl rfl)
      case isFalse notAborted =>
        have arrives : live (session, erCode) = true := by simpa [live] using notAborted
        exact Lifetime.taking_of_kept rfl (.inr (single.free queued arrives))
  | sessionError code => contradiction
  | reopen success =>
      obtain ⟨_, same⟩ := of_guard taken
      have listened := listenAndAccept_listened { state with reopening := false } success
      rw [same] at listened
      exact Lifetime.taking_of_kept rfl (.inl listened.session)

/-- Whatever the order of calls, accepts, operations and handlers, no operation is
ever left with a destroyed session exactly when `close` finds no session and every
session that fails does so by its read, with no write left. -/
theorem server_session_outlives_iff (events : List (Lifetime.Event Event)) :
    Throughout (Lifetime.step owner) (fun state => state.dangling = false)
        (Lifetime.begin start) events ↔
      Guarded (Lifetime.step owner) (Lifetime.Clean (Lifetime.Spares owner takesSession))
        (Lifetime.begin start) events :=
  Lifetime.notDangling_iff_spares owner_takes owner_drops single_step start rfl single_start
    events

example : (run (Lifetime.step owner) (Lifetime.begin start)
    [.owner (.listen true), .owner (.accepted 0 none), .owner (.handlerAccept 0 none),
      .owner .closeAcceptor, .owner .closeSession]).map Lifetime.State.dangling = some true := by
  decide

end Emserver.ServerConnection
