import Mathlib.Data.List.Count
import Emserver.ServerConnection

/-!
# What the user is told of clients

The `ClientConnected` callback of the server is called with the address of a
client and again, with no address, when the client is lost.  A user that keeps
track of these calls knows the client the server holds, and is never told of a
second client or of a loss that is none, exactly as long as the server drops its
session loudly and the callback is registered while there is none.
-/

set_option autoImplicit false

namespace Emserver.ServerConnection

open Emserver.TcpSession
open Lib.Runs

inductive Report where
  | clientConnected (session : Session)
  | clientLost
  deriving DecidableEq

def Effect.report : Effect → Option Report
  | .asyncAccept _ => none
  | .clientConnected session => some (.clientConnected session)
  | .clientLost => some .clientLost

/-- The reports beside the run. -/
def noteReports (_before : State) (_event : Event) (effects : List Effect)
    (reports : List Report) : List Report :=
  reports ++ effects.filterMap Effect.report

def reported : State × List Report → Event → Option (State × List Report) :=
  observed step noteReports

/-- How a user keeps track: a client comes while there is none, and the one that
is there is lost. -/
def track : Option Session → Report → Option (Option Session)
  | none, .clientConnected session => some (some session)
  | some _, .clientLost => some none
  | none, .clientLost => none
  | some _, .clientConnected _ => none

/-- The user's view of a server with a registered callback. -/
def Told (pair : State × List Report) : Prop :=
  pair.1.callback = true → run track none pair.2 = some pair.1.session

def live (completion : Nat × Option ErrorCode) : Bool :=
  completion.2 ≠ some .operationAborted

/-- The accepts that can become the session, and the session. -/
def clients (state : State) : Nat :=
  state.accepting.length + state.completions.countP live + state.session.toList.length

theorem clients_resetAcceptor (state : State) :
    clients (resetAcceptor state) =
      state.completions.countP live + state.session.toList.length := by
  have aborted : (state.accepting.map fun session =>
      (session, some ErrorCode.operationAborted)).countP live = 0 := by
    rw [List.countP_map]
    exact List.countP_eq_zero.mpr fun session _ => by simp [live]
  simp [clients, resetAcceptor, List.countP_append, aborted]

theorem clients_stopListening (state : State) :
    clients (transportListen state false true).1 ≤ clients state := by
  unfold transportListen
  split
  case isTrue impossible => contradiction
  case isFalse =>
    split
    case isTrue =>
      rw [clients_resetAcceptor, clients]
      omega
    case isFalse => exact Nat.le_refl _

/-- Only what asks for clients has changed. -/
structure Listened (before after : State) : Prop where
  session : after.session = before.session
  callback : after.callback = before.callback
  reopening : after.reopening = before.reopening

theorem listenAndAccept_listened (state : State) (success : Bool) :
    Listened state (listenAndAccept state success).1 := by
  cases success with
  | false => exact ⟨rfl, rfl, rfl⟩
  | true => exact ⟨rfl, rfl, rfl⟩

theorem stopListening_listened (state : State) :
    Listened state (transportListen state false true).1 := by
  unfold transportListen
  split
  case isTrue impossible => contradiction
  case isFalse =>
    split
    case isTrue => exact ⟨rfl, rfl, rfl⟩
    case isFalse => exact ⟨rfl, rfl, rfl⟩

theorem connectedCallback_eq (state : State) (ptrSession : Session) :
    transportClientConnectedCallback state ptrSession =
      ((transportListen { state with session := some ptrSession } false true).1,
        if state.callback then [.clientConnected ptrSession] else []) := by
  have kept := (stopListening_listened { state with session := some ptrSession }).callback
  simp only [transportClientConnectedCallback]
  rw [kept]

theorem clients_listenAndAccept (state : State) (success : Bool) (nothing : clients state = 0) :
    clients (listenAndAccept state success).1 ≤ 1 := by
  cases success with
  | false =>
      rw [show (listenAndAccept state false).1 = state from rfl, nothing]
      exact Nat.zero_le 1
  | true =>
      have reset := clients_resetAcceptor state
      have grown : clients (listenAndAccept state true).1 = clients (resetAcceptor state) + 1 := by
        simp only [listenAndAccept, transportListen, acceptNewConnection, clients, if_true,
          List.length_append, List.length_singleton]
        omega
      rw [clients] at nothing
      omega

/-- At most one client is on its way or there, and none while the server is about to
listen again. -/
structure Single (state : State) : Prop where
  one : clients state ≤ 1
  reopening : state.reopening = true → clients state = 0

theorem single_start : Single start := ⟨by decide, nofun⟩

theorem Single.fewer {state next : State} (single : Single state)
    (fewer : clients next ≤ clients state)
    (reopens : next.reopening = true → state.reopening = true) : Single next := by
  refine ⟨Nat.le_trans fewer single.one, fun reopening => ?_⟩
  have none := single.reopening (reopens reopening)
  omega

theorem Single.listened {state : State} (success : Bool) (nothing : clients state = 0)
    (idle : state.reopening = false) : Single (listenAndAccept state success).1 := by
  have listened := listenAndAccept_listened state success
  refine ⟨clients_listenAndAccept state success nothing, fun reopening => ?_⟩
  rw [listened.reopening, idle] at reopening
  contradiction

theorem clients_erase (state : State) (completion : Nat × Option ErrorCode) :
    clients { state with completions := state.completions.erase completion } ≤
      clients state := by
  simp only [clients, List.countP_erase]
  omega

theorem clients_handled (state : State) (completion : Nat × Option ErrorCode)
    (queued : completion ∈ state.completions) (arrives : live completion = true) :
    clients { state with completions := state.completions.erase completion } + 1 =
      clients state := by
  have counted := List.countP_erase live state.completions completion
  rw [if_pos ⟨queued, arrives⟩] at counted
  have positive : 0 < state.completions.countP live :=
    List.countP_pos_iff.mpr ⟨completion, queued, arrives⟩
  simp only [clients, counted]
  omega

/-- A client that arrives finds none there. -/
theorem Single.free {state : State} (single : Single state)
    {completion : Nat × Option ErrorCode} (queued : completion ∈ state.completions)
    (arrives : live completion = true) : state.session = none := by
  have positive : 0 < state.completions.countP live :=
    List.countP_pos_iff.mpr ⟨completion, queued, arrives⟩
  have one := single.one
  rw [clients] at one
  have nobody : state.session.toList = [] := List.eq_nil_of_length_eq_zero (by omega)
  simpa using nobody

theorem Single.connected {state : State} (single : Single state)
    {completion : Nat × Option ErrorCode} (queued : completion ∈ state.completions)
    (arrives : live completion = true) (ptrSession : Session) :
    Single (transportListen { state with
      completions := state.completions.erase completion
      session := some ptrSession } false true).1 := by
  have free := single.free queued arrives
  have handled := clients_handled state completion queued arrives
  have installed : clients { state with
      completions := state.completions.erase completion
      session := some ptrSession } = clients state := by
    rw [← handled]
    simp [clients, free]
  have fewer := clients_stopListening { state with
    completions := state.completions.erase completion
    session := some ptrSession }
  have kept := stopListening_listened { state with
    completions := state.completions.erase completion
    session := some ptrSession }
  rw [installed] at fewer
  exact single.fewer fewer fun reopening => kept.reopening.symm.trans reopening

theorem single_step (state : State) (event : Event) (next : State) (effects : List Effect)
    (single : Single state) (taken : step state event = some (next, effects)) : Single next := by
  cases event with
  | listen success =>
      obtain ⟨⟨_, isDrained⟩, same⟩ := of_guard taken
      simp only [drained, ioIdle, Bool.and_eq_true, List.isEmpty_iff, Option.isNone_iff_eq_none,
        Bool.not_eq_true'] at isDrained
      obtain ⟨⟨completions, session⟩, idle⟩ := isDrained
      have nothing : clients { state with acceptor := false, accepting := [] } = 0 := by
        simp [clients, completions, session]
      have listening := Single.listened success nothing idle
      change listenAndAccept _ success = (next, effects) at same
      rwa [same] at listening
  | closeAcceptor =>
      obtain ⟨_, same⟩ := of_guard taken
      cases same
      exact single.fewer (clients_stopListening state) fun reopening =>
        (stopListening_listened state).reopening.symm.trans reopening
  | closeSession =>
      obtain ⟨_, same⟩ := of_guard taken
      cases same
      exact single.fewer (by simp [clients]) id
  | closeReturn =>
      obtain ⟨_, same⟩ := of_guard taken
      cases same
      exact ⟨single.one, single.reopening⟩
  | registerCallback =>
      cases taken
      exact ⟨single.one, single.reopening⟩
  | accepted session result =>
      obtain ⟨⟨member, arrives⟩, same⟩ := of_guard taken
      cases same
      have here : live (session, result) = true := by simpa [live] using arrives
      have positive := List.length_pos_of_mem member
      refine single.fewer ?_ id
      simp only [clients, List.length_erase_of_mem member, List.countP_append,
        List.countP_singleton, here, if_true]
      omega
  | handlerAccept session erCode =>
      obtain ⟨⟨idle, queued⟩, taken⟩ := of_guard taken
      have finished := (ioIdle_iff state).mp idle
      unfold handlerAccept at taken
      split at taken
      case isTrue aborted =>
        cases taken
        exact single.fewer (clients_erase state _) id
      case isFalse notAborted =>
        have arrives : live (session, erCode) = true := by simpa [live] using notAborted
        rw [connectedCallback_eq] at taken
        cases taken
        exact single.connected queued arrives ⟨session, erCode.isNone⟩
  | sessionError code =>
      obtain ⟨⟨idle, installed⟩, taken⟩ := of_guard taken
      obtain ⟨there, session⟩ := Option.isSome_iff_exists.mp installed
      have one := single.one
      have lost : clients { state with session := none } = 0 := by
        rw [clients, session] at one
        simp only [Option.toList_some, List.length_singleton] at one
        simp only [clients, Option.toList_none, List.length_nil]
        omega
      unfold sessionFails at taken
      split at taken
      case h_1 =>
        cases taken
        exact single
      case h_2 passed _ =>
        by_cases early : ReturnsEarly passed
        · rw [callbackSessionError_early state passed early] at taken
          cases taken
          exact ⟨Nat.le_succ_of_le (Nat.le_of_eq lost), fun _ => lost⟩
        · rw [callbackSessionError_reopens state passed early] at taken
          cases taken
          exact ⟨Nat.le_succ_of_le (Nat.le_of_eq lost), fun _ => lost⟩
  | reopen success =>
      obtain ⟨reopening, same⟩ := of_guard taken
      have nothing : clients { state with reopening := false } = 0 := single.reopening reopening
      have listening := Single.listened success nothing rfl
      rwa [same] at listening

/-! ## Keeping track -/

/-- Before a callback is registered there are no reports. -/
structure Tracked (state : State) (reports : List Report) : Prop where
  unregistered : state.callback = false → reports = []
  told : Told (state, reports)

theorem Tracked.silent {state next : State} {reports : List Report} {effects : List Effect}
    (tracked : Tracked state reports) (session : next.session = state.session)
    (callback : next.callback = state.callback)
    (silent : effects.filterMap Effect.report = []) :
    Tracked next (reports ++ effects.filterMap Effect.report) := by
  rw [silent, List.append_nil]
  refine ⟨fun none => tracked.unregistered (callback.symm.trans none), fun registered => ?_⟩
  rw [session]
  exact tracked.told (callback.symm.trans registered)

/-- One more report takes the user from one session to the next. -/
theorem Tracked.report {state next : State} {reports : List Report}
    (tracked : Tracked state reports) (callback : next.callback = state.callback)
    (report : Report) (follows : track state.session report = some next.session)
    (effects : List Effect)
    (reported : effects.filterMap Effect.report =
      if state.callback then [report] else []) :
    Tracked next (reports ++ effects.filterMap Effect.report) := by
  rw [reported]
  cases registered : state.callback with
  | false =>
      rw [if_neg (by decide), List.append_nil]
      refine ⟨fun _ => tracked.unregistered registered, fun impossible => ?_⟩
      rw [callback, registered] at impossible
      contradiction
  | true =>
      rw [if_pos rfl]
      refine ⟨fun none => ?_, fun _ => ?_⟩
      · rw [callback, registered] at none
        contradiction
      · rw [run_append, tracked.told registered, Option.bind_some, run, follows,
          Option.bind_some]
        rfl

end Emserver.ServerConnection
