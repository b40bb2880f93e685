import Emserver.ServerConnection

/-!
# Listening again

Between `listen` and `close` the server either holds a client or waits for one.
Two things break this: an accept that fails, whose session is installed all the
same, and an error on which `callbackSessionError` returns before it listens.
-/

set_option autoImplicit false

namespace Emserver.ServerConnection

open Emserver.TcpSession
open Lib.Runs

/-- A client whose accept succeeded, and no acceptor. -/
def HoldsClient (state : State) : Prop :=
  (∃ id, state.session = some ⟨id, true⟩) ∧ state.acceptor = false

/-- No client, and an acceptor with one `async_accept` whose handler has not run. -/
def AwaitsClient (state : State) : Prop :=
  state.session = none ∧ state.acceptor = true ∧
    state.accepting.length + state.completions.length = 1

/-- When no handler is running the server holds a client or awaits one. -/
def Serves (state : State) : Prop :=
  state.reopening = false → HoldsClient state ∨ AwaitsClient state

/-- The handlers of a server that is listening, where opening an acceptor succeeds. -/
def isHandler : Event → Bool
  | .registerCallback => true
  | .accepted _ _ => true
  | .handlerAccept _ _ => true
  | .sessionError _ => true
  | .reopen success => success
  | _ => false

/-- Accepts succeed, and errors reach the end of `callbackSessionError`. -/
def Benign (_state : State) : Event → Prop
  | .handlerAccept _ erCode => erCode = none
  | .sessionError code => ∀ passed, forwarded code = some passed → ¬ ReturnsEarly passed
  | _ => True

instance (state : State) (event : Event) : Decidable (Benign state event) :=
  match event with
  | .handlerAccept _ erCode => inferInstanceAs (Decidable (erCode = none))
  | .sessionError code =>
      match passed : forwarded code with
      | none => .isTrue fun other found => by simp [passed] at found
      | some forwardedCode => decidable_of_iff (¬ ReturnsEarly forwardedCode) (by
          simp [Benign, passed])
  | .listen _ => .isTrue trivial
  | .closeAcceptor => .isTrue trivial
  | .closeSession => .isTrue trivial
  | .closeReturn => .isTrue trivial
  | .registerCallback => .isTrue trivial
  | .accepted _ _ => .isTrue trivial
  | .reopen _ => .isTrue trivial

/-- Besides, a server with a client or about to reopen has no accept left, and no
queued accept was aborted. -/
structure Serving (state : State) : Prop where
  serves : Serves state
  settled : state.acceptor = false → state.accepting = [] ∧ state.completions = []
  reopened : state.reopening = true → state.session = none ∧ state.acceptor = false
  notAborted : ∀ completion ∈ state.completions, completion.2 ≠ some .operationAborted

theorem Serving.acceptor_of_accepting {state : State} (serving : Serving state) {session : Nat}
    (member : session ∈ state.accepting) : state.acceptor = true := by
  cases acceptor : state.acceptor with
  | true => rfl
  | false => simp [(serving.settled acceptor).1] at member

theorem Serving.acceptor_of_completion {state : State} (serving : Serving state)
    {completion : Nat × Option ErrorCode} (member : completion ∈ state.completions) :
    state.acceptor = true := by
  cases acceptor : state.acceptor with
  | true => rfl
  | false => simp [(serving.settled acceptor).2] at member

theorem Serving.awaits {state : State} (serving : Serving state)
    (finished : state.reopening = false) (acceptor : state.acceptor = true) :
    AwaitsClient state := by
  rcases serving.serves finished with holds | awaits
  · simp [holds.2] at acceptor
  · exact awaits

theorem Serving.holds {state : State} (serving : Serving state)
    (finished : state.reopening = false) (installed : state.session.isSome = true) :
    HoldsClient state := by
  rcases serving.serves finished with holds | awaits
  · exact holds
  · simp [awaits.1] at installed

theorem serving_listenAndAccept (state : State) (session : state.session = none)
    (accepting : state.accepting = []) (completions : state.completions = [])
    (idle : state.reopening = false) : Serving (listenAndAccept state true).1 := by
  have outcome : (listenAndAccept state true).1 =
      { state with
        nextSession := state.nextSession + 1
        acceptor := true
        accepting := [state.nextSession] } := by
    simp [listenAndAccept, transportListen, resetAcceptor, acceptNewConnection, accepting,
      completions]
  rw [outcome]
  exact ⟨fun _ => .inr ⟨session, rfl, by simp [completions]⟩, by simp,
    fun reopening => by simp [idle] at reopening, by simp [completions]⟩

theorem serving_connected (state : State) (session : Nat) (acceptor : state.acceptor = true)
    (accepting : state.accepting = []) (completions : state.completions = [])
    (idle : state.reopening = false) :
    Serving (transportClientConnectedCallback state ⟨session, true⟩).1 := by
  have outcome : (transportClientConnectedCallback state ⟨session, true⟩).1 =
      { state with session := some ⟨session, true⟩, acceptor := false } := by
    simp [transportClientConnectedCallback, transportListen, resetAcceptor, acceptor, accepting,
      completions]
  rw [outcome]
  exact ⟨fun _ => .inl ⟨⟨session, rfl⟩, rfl⟩, fun _ => ⟨accepting, completions⟩,
    fun reopening => by simp [idle] at reopening, by simp [completions]⟩

theorem serving_step (state : State) (event : Event) (after : State)
    (inside : isHandler event = true) (serving : Serving state) (benign : Benign state event)
    (taken : stateStep step state event = some after) : Serving after := by
  obtain ⟨effects, stepped⟩ := stateStep_some taken
  cases event with
  | listen success => contradiction
  | closeAcceptor => contradiction
  | closeSession => contradiction
  | closeReturn => contradiction
  | registerCallback =>
      cases stepped
      exact ⟨serving.serves, serving.settled, serving.reopened, serving.notAborted⟩
  | accepted id result =>
      obtain ⟨⟨member, notAborted⟩, same⟩ := of_guard stepped
      cases same
      have acceptor := serving.acceptor_of_accepting member
      have positive := List.length_pos_of_mem member
      refine ⟨fun finished => .inr ?_, ?_, serving.reopened, ?_⟩
      · obtain ⟨session, _, one⟩ := serving.awaits finished acceptor
        refine ⟨session, acceptor, ?_⟩
        simp only [List.length_erase_of_mem member, List.length_append, List.length_singleton]
        omega
      · intro impossible
        simp [acceptor] at impossible
      · intro completion queued
        rcases List.mem_append.mp queued with earlier | now
        · exact serving.notAborted completion earlier
        · rw [List.mem_singleton.mp now]
          exact notAborted
  | handlerAccept id erCode =>
      obtain ⟨⟨idle, member⟩, stepped⟩ := of_guard stepped
      have finished := (ioIdle_iff state).mp idle
      have acceptor := serving.acceptor_of_completion member
      obtain ⟨_, _, one⟩ := serving.awaits finished acceptor
      have positive := List.length_pos_of_mem member
      have accepting : state.accepting = [] := List.length_eq_zero_iff.mp (by omega)
      have completions : state.completions.erase (id, erCode) = [] :=
        List.length_eq_zero_iff.mp (by rw [List.length_erase_of_mem member]; omega)
      have success : erCode = none := benign
      subst success
      have connected := serving_connected
        { state with completions := state.completions.erase (id, none) } id acceptor accepting
        completions finished
      change transportClientConnectedCallback _ ⟨id, true⟩ = (after, effects) at stepped
      rwa [stepped] at connected
  | sessionError code =>
      obtain ⟨⟨idle, installed⟩, stepped⟩ := of_guard stepped
      have finished := (ioIdle_iff state).mp idle
      cases passed : forwarded code with
      | none =>
          simp only [sessionFails, passed] at stepped
          cases stepped
          exact serving
      | some code =>
          obtain ⟨_, acceptor⟩ := serving.holds finished installed
          simp only [sessionFails, passed,
            callbackSessionError_reopens state code (benign code passed)] at stepped
          cases stepped
          exact ⟨by simp [Serves], fun _ => serving.settled acceptor,
            fun _ => ⟨rfl, acceptor⟩, serving.notAborted⟩
  | reopen success =>
      obtain ⟨reopening, stepped⟩ := of_guard stepped
      obtain ⟨session, acceptor⟩ := serving.reopened reopening
      obtain ⟨accepting, completions⟩ := serving.settled acceptor
      have success : success = true := inside
      subst success
      have listening := serving_listenAndAccept { state with reopening := false } session
        accepting completions rfl
      rwa [stepped] at listening

/-- A handler that is not benign leaves the server deaf or with a session that was
never accepted. -/
theorem benign_of_serves (state : State) (event : Event) (after : State)
    (inside : isHandler event = true) (serving : Serving state)
    (taken : stateStep step state event = some after) (serves : Serves after) :
    Benign state event := by
  obtain ⟨effects, stepped⟩ := stateStep_some taken
  cases event with
  | handlerAccept id erCode =>
      obtain ⟨⟨idle, member⟩, stepped⟩ := of_guard stepped
      have finished := (ioIdle_iff state).mp idle
      have acceptor := serving.acceptor_of_completion member
      cases erCode with
      | none => rfl
      | some code =>
          exfalso
          have notAborted := serving.notAborted _ member
          rw [handlerAccept, if_neg notAborted] at stepped
          simp only [transportClientConnectedCallback, transportListen, acceptor,
            Bool.false_eq_true, if_false, if_true, Prod.mk.injEq] at stepped
          obtain ⟨rfl, _⟩ := stepped
          rcases serves finished with ⟨⟨other, session⟩, _⟩ | ⟨session, _⟩
          · simp [resetAcceptor] at session
          · simp [resetAcceptor] at session
  | sessionError code =>
      obtain ⟨⟨idle, installed⟩, stepped⟩ := of_guard stepped
      have finished := (ioIdle_iff state).mp idle
      intro failure passed early
      obtain ⟨_, acceptor⟩ := serving.holds finished installed
      simp only [sessionFails, passed, callbackSessionError_early state failure early] at stepped
      cases stepped
      rcases serves finished with ⟨⟨other, session⟩, _⟩ | ⟨_, open', _⟩
      · simp at session
      · simp [acceptor] at open'
  | _ => trivial

/-- After a successful `listen` the server is never left deaf exactly when every
accept succeeds and every error that reaches `callbackSessionError` reopens. -/
theorem server_serves_iff (before listening : State) (events : List Event)
    (listens : stateStep step before (.listen true) = some listening)
    (inside : ∀ event ∈ events, isHandler event = true) :
    Throughout (stateStep step) Serves listening events ↔
      Guarded (stateStep step) Benign listening events := by
  obtain ⟨effects, stepped⟩ := stateStep_some listens
  obtain ⟨⟨_, isDrained⟩, stepped⟩ := of_guard stepped
  simp only [drained, ioIdle, Bool.and_eq_true, List.isEmpty_iff, Option.isNone_iff_eq_none,
    Bool.not_eq_true'] at isDrained
  obtain ⟨⟨completions, session⟩, idle⟩ := isDrained
  have serving := serving_listenAndAccept { before with acceptor := false, accepting := [] }
    session rfl completions idle
  change listenAndAccept _ true = _ at stepped
  rw [stepped] at serving
  exact throughout_iff_guarded _ serving_step (fun state serving => serving.serves)
    benign_of_serves serving inside

def listeningServer : State := (listen start true).1

/-- Two clients one after the other; the first resets its connection. -/
def twoClients : List Event :=
  [.accepted 0 none, .handlerAccept 0 none, .sessionError (.other 104), .reopen true,
    .accepted 1 none, .handlerAccept 1 none]

theorem server_serves_iff_twoClients :
    Throughout (stateStep step) Serves listeningServer twoClients :=
  (server_serves_iff start listeningServer twoClients rfl (by decide)).mpr (by decide)

theorem server_deaf_after_abort :
    (∃ state, run (stateStep step) listeningServer
        [.accepted 0 none, .handlerAccept 0 none, .sessionError .connectionAborted] =
          some state ∧
      state.reopening = false ∧ state.session = none ∧ state.acceptor = false) ∧
    ∃ state, run (stateStep step) listeningServer
        [.accepted 0 (some (.other 24)), .handlerAccept 0 (some (.other 24))] = some state ∧
      state.reopening = false ∧ state.session = some ⟨0, false⟩ ∧ state.acceptor = false :=
  ⟨⟨_, rfl, rfl, rfl, rfl⟩, ⟨_, rfl, rfl, rfl, rfl⟩⟩

end Emserver.ServerConnection
