import Emserver.ClientConnection.Reconnect
import Emserver.TcpSession.Lifetime

/-!
# The lifetime of the client's session

`EmserverAdapter` drops its session in `connectionClose` and in `onSessionError`, and
`onClientConnected` replaces it.  An attempt that was started beside an installed
session can do either: its resolver's error is reported as the session's.  User code
runs between the installation and `waitReading`.
-/

set_option autoImplicit false

namespace Emserver.ClientConnection

open Emserver.TcpSession
open Lib.Runs

def ofSession : Event → Bool
  | .sessionError _ => true
  | _ => false

def ofIoThread : Event → Bool
  | .resolved _ _ => true
  | .connected _ _ => true
  | .timerExpired => true
  | .timerAborted => true
  | .sessionError _ => true
  | .reopen => true
  | _ => false

/-- A session is installed with its socket open.  `onClientConnected` calls the
callback before `waitReading`. -/
def owner : Lifetime.Owner State Event Effect Nat :=
  ⟨step, State.session, fun _ => true, Event.sessionError, ofSession, ofIoThread, false⟩

theorem owner_drops : owner.Drops := by
  intro state code next effects error stepped
  obtain ⟨⟨_, installed⟩, failed⟩ := of_guard stepped
  refine ⟨installed, ?_⟩
  have passed : forwarded code = some code := if_neg error
  have session := onSessionError_session state code
  rw [sessionFails, passed] at failed
  simp only [failed] at session
  exact session

/-! ## The number of a session -/

/-- How often a session is being resolved, being connected or installed. -/
def places (state : State) (session : Nat) : Nat :=
  state.resolving.count session + state.connecting.count session +
    state.session.toList.count session

/-- A session is in one place at most, and a number not given yet in none. -/
structure Numbered (state : State) : Prop where
  once : ∀ session, places state session ≤ 1
  fresh : ∀ session, state.nextSession ≤ session → places state session = 0

theorem numbered_start : Numbered start := by
  constructor <;> simp [places, start]

theorem Numbered.fewer {state next : State} (numbered : Numbered state)
    (same : next.nextSession = state.nextSession)
    (fewer : ∀ session, places next session ≤ places state session) : Numbered next := by
  refine ⟨fun session => Nat.le_trans (fewer session) (numbered.once session), ?_⟩
  intro session fresh
  rw [same] at fresh
  exact Nat.le_zero.mp (numbered.fresh session fresh ▸ fewer session)

theorem places_openConnection (state : State) (pDestPoint : Option ConnectionPoint)
    (session : Nat) :
    places (openConnection state pDestPoint).1 session =
      places state session + if state.nextSession = session then 1 else 0 := by
  simp only [places, openConnection, List.count_append, List.count_singleton, beq_iff_eq]
  omega

theorem numbered_openConnection (state : State) (pDestPoint : Option ConnectionPoint)
    (numbered : Numbered state) : Numbered (openConnection state pDestPoint).1 := by
  constructor
  · intro session
    rw [places_openConnection]
    by_cases now : state.nextSession = session
    · simp [numbered.fresh session (Nat.le_of_eq now), now]
    · simpa [now] using numbered.once session
  · intro session fresh
    change state.nextSession + 1 ≤ session at fresh
    rw [places_openConnection, numbered.fresh session (by omega), if_neg (by omega)]

theorem count_erase_le (sessions : List Nat) (gone session : Nat) :
    (sessions.erase gone).count session ≤ sessions.count session :=
  List.Sublist.count_le session List.erase_sublist

theorem numbered_onSessionError (state : State) (code : ErrorCode) (numbered : Numbered state) :
    Numbered (onSessionError state code).1 := by
  have dropped : Numbered { state with session := none } :=
    numbered.fewer rfl fun session => by simp [places]
  by_cases early : ReturnsEarly code
  · rw [onSessionError_early state code early]
    exact dropped
  · rw [onSessionError_reopens state code early]
    exact dropped.fewer rfl fun session => Nat.le_refl _

theorem numbered_step (state : State) (event : Event) (next : State) (effects : List Effect)
    (numbered : Numbered state) (taken : step state event = some (next, effects)) :
    Numbered next := by
  cases event with
  | connectionOpen point =>
      obtain ⟨_, same⟩ := of_guard taken
      have opened := numbered_openConnection state (some point) numbered
      rwa [same] at opened
  | closeTransport =>
      obtain ⟨_, same⟩ := of_guard taken
      cases same
      exact numbered.fewer rfl fun session => Nat.le_refl _
  | closeSession =>
      obtain ⟨_, same⟩ := of_guard taken
      cases same
      exact numbered.fewer rfl fun session => by simp [places]
  | closeReturn =>
      obtain ⟨_, same⟩ := of_guard taken
      cases same
      exact numbered.fewer rfl fun session => Nat.le_refl _
  | registerCallback =>
      cases taken
      exact numbered.fewer rfl fun session => Nat.le_refl _
  | resolved id erCode =>
      obtain ⟨⟨_, member⟩, same⟩ := of_guard taken
      have erased : Numbered { state with resolving := state.resolving.erase id } :=
        numbered.fewer rfl fun session => by
          have fewer := count_erase_le state.resolving id session
          simp only [places]
          omega
      cases erCode with
      | none =>
          cases same
          refine numbered.fewer rfl fun session => ?_
          simp only [places, List.count_append, List.count_singleton, List.count_erase]
          by_cases here : id = session
          · subst here
            have positive := List.count_pos_iff.mpr member
            simp
            omega
          · simp [here]
      | some code =>
          have failed := numbered_onSessionError _ code erased
          change onSessionError _ code = (next, effects) at same
          rwa [same] at failed
  | connected id erCode =>
      obtain ⟨⟨_, member⟩, same⟩ := of_guard taken
      cases erCode with
      | none =>
          cases same
          refine numbered.fewer rfl fun session => ?_
          simp only [places, List.count_erase, Option.toList_some, List.count_singleton]
          by_cases here : id = session
          · subst here
            have positive := List.count_pos_iff.mpr member
            simp
            omega
          · simp [here]
      | some code =>
          cases same
          refine numbered.fewer rfl fun session => ?_
          have fewer := count_erase_le state.connecting id session
          simp only [places]
          omega
  | timerExpires =>
      obtain ⟨_, same⟩ := of_guard taken
      cases same
      exact numbered.fewer rfl fun session => Nat.le_refl _
  | timerExpired =>
      obtain ⟨_, same⟩ := of_guard taken
      have opened := numbered_openConnection
        { state with timer := { state.timer with expired := state.timer.expired - 1 } } none
        (numbered.fewer rfl fun session => Nat.le_refl _)
      change openConnection _ none = (next, effects) at same
      rwa [same] at opened
  | timerAborted =>
      obtain ⟨_, same⟩ := of_guard taken
      cases same
      exact numbered.fewer rfl fun session => Nat.le_refl _
  | sessionError code =>
      obtain ⟨_, same⟩ := of_guard taken
      cases passed : forwarded code with
      | none =>
          rw [sessionFails, passed] at same
          cases same
          exact numbered
      | some code =>
          rw [sessionFails, passed] at same
          have failed := numbered_onSessionError state code numbered
          simp only [same] at failed
          exact failed
  | reopen =>
      obtain ⟨_, same⟩ := of_guard taken
      have opened := numbered_openConnection { state with reopening := false } none
        (numbered.fewer rfl fun session => Nat.le_refl _)
      rwa [same] at opened

/-- A session that is being connected is not the one installed. -/
theorem Numbered.other {state : State} (numbered : Numbered state) {id : Nat}
    (connecting : id ∈ state.connecting) : state.session ≠ some id := by
  intro installed
  have one := numbered.once id
  have positive := List.count_pos_iff.mpr connecting
  simp only [places, installed, Option.toList_some, List.count_singleton_self] at one
  omega

/-! ## Taking the session away -/

/-- `connectionClose`, a resolver's error and a second connection. -/
def takesSession : Event → Bool
  | .closeSession => true
  | .resolved _ erCode => erCode.isSome
  | .connected _ erCode => erCode.isNone
  | _ => false

theorem owner_takes : Lifetime.Takes owner takesSession Numbered := by
  intro state event next effects numbered own taken
  change (next.session = state.session ∨ state.session = none) ↔
    (takesSession event = true → state.session = none)
  cases event with
  | closeSession =>
      obtain ⟨_, same⟩ := of_guard taken
      cases same
      simp [takesSession, eq_comm]
  | registerCallback =>
      cases taken
      exact Lifetime.taking_of_kept rfl (.inl rfl)
  | resolved id erCode =>
      obtain ⟨_, same⟩ := of_guard taken
      cases erCode with
      | none =>
          cases same
          exact Lifetime.taking_of_kept rfl (.inl rfl)
      | some code =>
          have lost := onSessionError_session
            { state with resolving := state.resolving.erase id } code
          change onSessionError _ code = (next, effects) at same
          rw [same] at lost
          rw [lost]
          simp [takesSession, eq_comm]
  | connected id erCode =>
      obtain ⟨⟨_, connecting⟩, same⟩ := of_guard taken
      cases erCode with
      | none =>
          cases same
          change (some id = state.session ∨ state.session = none) ↔ _
          simp [takesSession, (numbered.other connecting).symm]
      | some code =>
          cases same
          exact Lifetime.taking_of_kept rfl (.inl rfl)
  | sessionError code => contradiction
  | _ =>
      obtain ⟨_, same⟩ := of_guard taken
      cases same
      exact Lifetime.taking_of_kept rfl (.inl rfl)

/-- Whatever the order of calls, attempts, timers, operations and handlers, no
operation is ever left with a destroyed session exactly when `connectionClose`, a
resolver's error and a second connection find no session in use, and every session
that fails does so by its read, with no write left. -/
theorem client_session_outlives_iff (events : List (Lifetime.Event Event)) :
    Throughout (Lifetime.step owner) (fun state => state.dangling = false)
        (Lifetime.begin start) events ↔
      Guarded (Lifetime.step owner) (Lifetime.Clean (Lifetime.Spares owner takesSession))
        (Lifetime.begin start) events :=
  Lifetime.notDangling_iff_spares owner_takes owner_drops numbered_step start rfl numbered_start
    events

example : (run (Lifetime.step owner) (Lifetime.begin start)
    [.owner (.connectionOpen ⟨"", 0⟩), .owner .timerExpires, .owner .timerExpired,
      .owner (.resolved 0 none), .owner (.connected 0 none), .waitReading,
      .owner (.resolved 1 (some (.other 1)))]).map Lifetime.State.dangling = some true := by
  decide

end Emserver.ClientConnection
