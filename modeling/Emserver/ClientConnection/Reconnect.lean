import Emserver.ClientConnection

/-!
# Reconnecting

What happens between `connectionOpen` and `connectionClose`: the client goes on
trying until it has a session, and its attempts may overlap.
-/

set_option autoImplicit false

namespace Emserver.ClientConnection

open Emserver.TcpSession
open Lib.Runs

/-! ## The client goes on trying -/

def lastReport (effects : List Effect) (reported : Option ConnectedState) :
    Option ConnectedState :=
  effects.foldl
    (fun last effect => match effect with
      | .connectedStateChanged state => some state
      | _ => last)
    reported

/-- A client beside the last state its `ConnectedStateChanged` callback was given. -/
abbrev reporting :
    State × Option ConnectedState → Event → Option (State × Option ConnectedState) :=
  observed step fun _ _ => lastReport

def isClose : Event → Bool
  | .closeTransport => true
  | .closeSession => true
  | .closeReturn => true
  | _ => false

/-- When no handler is running the client has a session or a reconnection is
pending, and the last report is right. -/
def KeepsTrying (pair : State × Option ConnectedState) : Prop :=
  pair.1.reopening = false →
    (pair.1.session.isSome = true ∨ 0 < attempts pair.1 ∨ pair.1.timer.pending) ∧
      ∀ connected, pair.2 = some connected → connected.isSome = pair.1.session.isSome

/-- An error that reaches `onSessionError` while a session is installed does not
return early there. -/
def Careful (pair : State × Option ConnectedState) (event : Event) : Prop :=
  ∀ code, reportedError event = some code → pair.1.session.isSome = true → ¬ ReturnsEarly code

instance (pair : State × Option ConnectedState) (event : Event) :
    Decidable (Careful pair event) :=
  match found : reportedError event with
  | none => .isTrue fun code passed => by simp [found] at passed
  | some code =>
      decidable_of_iff (pair.1.session.isSome = true → ¬ ReturnsEarly code) (by
        constructor
        · intro careful other passed installed
          rw [found] at passed
          cases passed
          exact careful installed
        · exact fun careful => careful code found)

/-- What the client last reported is right. -/
structure Consistent (pair : State × Option ConnectedState) : Prop where
  told : ∀ connected, pair.2 = some connected → connected.isSome = pair.1.session.isSome
  listening : pair.2.isSome = true → pair.1.callback = true

/-- Moreover a client without a session is about to reopen or its timer is running. -/
structure Trying (pair : State × Option ConnectedState) : Prop extends Consistent pair where
  waiting : pair.1.session = none → pair.1.reopening = true ∨ pair.1.timer.pending

theorem consistent_unreported (state : State) : Consistent (state, none) where
  told _ impossible := nomatch impossible
  listening impossible := nomatch impossible

theorem Trying.keepsTrying {pair : State × Option ConnectedState} (trying : Trying pair) :
    KeepsTrying pair := by
  intro finished
  refine ⟨?_, trying.told⟩
  cases session : pair.1.session with
  | some id => exact .inl rfl
  | none =>
      rcases trying.waiting session with reopening | pending
      · rw [finished] at reopening
        contradiction
      · exact .inr (.inr pending)

/-! What the handlers leave. -/

section Handlers
variable (state : State) {reported : Option ConnectedState}
variable (listening : reported.isSome = true → state.callback = true)
include listening

theorem consistent_report (connected : ConnectedState)
    (right : connected.isSome = state.session.isSome) :
    Consistent (state, lastReport (report state connected) reported) := by
  cases callback : state.callback with
  | true =>
      simp only [report, callback, if_true, lastReport, List.foldl_cons, List.foldl_nil]
      exact ⟨fun other same => Option.some.inj same ▸ right, fun _ => callback⟩
  | false =>
      cases reported with
      | none =>
          simp only [report, callback, Bool.false_eq_true, if_false, lastReport, List.foldl_nil]
          exact consistent_unreported state
      | some last => simp [callback] at listening

theorem trying_onClientConnected (session : Nat) :
    Trying ((onClientConnected state session).1,
      lastReport (onClientConnected state session).2 reported) where
  toConsistent :=
    consistent_report { state with session := some session } listening (some session) rfl
  waiting impossible := by simp [onClientConnected] at impossible

theorem trying_onSessionError (code : ErrorCode) (late : ¬ ReturnsEarly code) :
    Trying ((onSessionError state code).1,
      lastReport (onSessionError state code).2 reported) := by
  rw [onSessionError_reopens state code late]
  exact ⟨consistent_report { state with session := none, reopening := true } listening none rfl,
    fun _ => .inl rfl⟩

end Handlers

theorem trying_openConnection (state : State) {reported : Option ConnectedState}
    (consistent : Consistent (state, reported)) (pDestPoint : Option ConnectionPoint) :
    Trying ((openConnection state pDestPoint).1,
      lastReport (openConnection state pDestPoint).2 reported) :=
  ⟨⟨consistent.told, consistent.listening⟩, fun _ => .inr (restart_pending state.timer)⟩

/-- A careful error leads to a reopening, or finds no session. -/
theorem trying_error (state : State) {reported : Option ConnectedState}
    (trying : Trying (state, reported)) (code : ErrorCode)
    (careful : state.session.isSome = true → ¬ ReturnsEarly code) :
    Trying ((onSessionError state code).1,
      lastReport (onSessionError state code).2 reported) := by
  by_cases early : ReturnsEarly code
  case neg => exact trying_onSessionError state trying.listening code early
  have absent : state.session = none := by
    cases session : state.session with
    | none => rfl
    | some id => exact absurd early (careful (by simp [session]))
  have same : { state with session := none } = state := by
    cases state
    cases absent
    rfl
  rw [onSessionError_early state code early, same]
  exact trying

/-- An error gets to `onSessionError` from a failed resolve, which is no longer
outstanding then, or from the installed session. -/
theorem step_of_reportedError {state next : State} {event : Event} {effects : List Effect}
    {code : ErrorCode} (stepped : step state event = some (next, effects))
    (passed : reportedError event = some code) :
    ioIdle state = true ∧ ∃ resolving,
      onSessionError { state with resolving := resolving } code = (next, effects) := by
  cases event with
  | resolved id erCode =>
      obtain ⟨⟨idle, _⟩, same⟩ := of_guard stepped
      cases passed
      exact ⟨idle, state.resolving.erase id, same⟩
  | sessionError failure =>
      obtain ⟨⟨idle, _⟩, same⟩ := of_guard stepped
      have forwards : forwarded failure = some code := passed
      rw [sessionFails, forwards] at same
      exact ⟨idle, state.resolving, same⟩
  | _ => contradiction

theorem trying_step (pair : State × Option ConnectedState) (event : Event)
    (after : State × Option ConnectedState) (unclosed : isClose event = false)
    (trying : Trying pair) (careful : Careful pair event)
    (taken : reporting pair event = some after) : Trying after := by
  obtain ⟨state, reported⟩ := pair
  obtain ⟨next, effects, stepped, rfl⟩ := observed_some taken
  obtain ⟨⟨told, listening⟩, waiting⟩ := trying
  cases passed : reportedError event with
  | some code =>
      obtain ⟨_, resolving, same⟩ := step_of_reportedError stepped passed
      have outcome := trying_error { state with resolving := resolving }
        ⟨⟨told, listening⟩, waiting⟩ code (careful code passed)
      rwa [same] at outcome
  | none =>
    cases event with
    | closeTransport => contradiction
    | closeSession => contradiction
    | closeReturn => contradiction
    | connectionOpen point =>
        cases (of_guard stepped).2
        exact trying_openConnection state ⟨told, listening⟩ _
    | registerCallback =>
        cases stepped
        exact ⟨⟨told, fun _ => rfl⟩, waiting⟩
    | resolved id erCode =>
        cases passed
        cases (of_guard stepped).2
        exact ⟨⟨told, listening⟩, waiting⟩
    | connected id erCode =>
        obtain ⟨_, same⟩ := of_guard stepped
        cases erCode with
        | none =>
            cases same
            exact trying_onClientConnected
              { state with connecting := state.connecting.erase id, timer := state.timer.cancel }
              listening id
        | some code =>
            cases same
            exact ⟨⟨told, listening⟩, waiting⟩
    | timerExpires =>
        cases (of_guard stepped).2
        exact ⟨⟨told, listening⟩, fun _ => .inr (.inr (Nat.succ_pos state.timer.expired))⟩
    | timerExpired =>
        cases (of_guard stepped).2
        exact trying_openConnection
          { state with timer := { state.timer with expired := state.timer.expired - 1 } }
          ⟨told, listening⟩ none
    | timerAborted =>
        cases (of_guard stepped).2
        exact ⟨⟨told, listening⟩, waiting⟩
    | sessionError code =>
        have dropped : forwarded code = none := passed
        obtain ⟨_, same⟩ := of_guard stepped
        rw [sessionFails, dropped] at same
        cases same
        exact ⟨⟨told, listening⟩, waiting⟩
    | reopen =>
        cases (of_guard stepped).2
        exact trying_openConnection { state with reopening := false } ⟨told, listening⟩ none

/-! With a callback registered from the start nothing less will do. -/

/-- The callback is registered and knows of the installed session. -/
structure Informed (pair : State × Option ConnectedState) : Prop extends Trying pair where
  registered : pair.1.callback = true
  informed : pair.1.session.isSome = true → pair.2.isSome = true

theorem lastReport_isSome (effects : List Effect) (reported : Option ConnectedState)
    (spoken : reported.isSome = true) : (lastReport effects reported).isSome = true := by
  unfold lastReport
  induction effects generalizing reported with
  | nil => exact spoken
  | cons effect rest ih =>
      cases effect with
      | connectedStateChanged connected => exact ih (some connected) rfl
      | _ => exact ih reported spoken

@[simp] theorem onSessionError_session (state : State) (code : ErrorCode) :
    (onSessionError state code).1.session = none := by
  unfold onSessionError
  split_ifs <;> rfl

@[simp] theorem onSessionError_callback (state : State) (code : ErrorCode) :
    (onSessionError state code).1.callback = state.callback := by
  unfold onSessionError
  split_ifs <;> rfl

/-- A session is installed by a successful connect only, and no step takes the
callback away. -/
theorem step_session {state next : State} {event : Event} {effects : List Effect}
    (stepped : step state event = some (next, effects)) :
    (next.callback = true ∨ next.callback = state.callback) ∧
      (next.session = state.session ∨ next.session = none ∨
        ∃ id, event = .connected id none ∧ next.session = some id ∧
          effects = .install id :: report state (some id)) := by
  cases passed : reportedError event with
  | some code =>
      obtain ⟨_, resolving, same⟩ := step_of_reportedError stepped passed
      have session := onSessionError_session { state with resolving := resolving } code
      have callback := onSessionError_callback { state with resolving := resolving } code
      rw [same] at session callback
      exact ⟨.inr callback, .inr (.inl session)⟩
  | none =>
    cases event with
    | registerCallback =>
        cases stepped
        exact ⟨.inl rfl, .inl rfl⟩
    | resolved id erCode =>
        cases passed
        cases (of_guard stepped).2
        exact ⟨.inr rfl, .inl rfl⟩
    | connected id erCode =>
        obtain ⟨_, same⟩ := of_guard stepped
        cases erCode with
        | none =>
            cases same
            exact ⟨.inr rfl, .inr (.inr ⟨id, rfl, rfl, rfl⟩)⟩
        | some code =>
            cases same
            exact ⟨.inr rfl, .inl rfl⟩
    | sessionError code =>
        have dropped : forwarded code = none := passed
        obtain ⟨_, same⟩ := of_guard stepped
        rw [sessionFails, dropped] at same
        cases same
        exact ⟨.inr rfl, .inl rfl⟩
    | closeSession =>
        cases (of_guard stepped).2
        exact ⟨.inr rfl, .inr (.inl rfl)⟩
    | _ =>
        cases (of_guard stepped).2
        exact ⟨.inr rfl, .inl rfl⟩

theorem informed_step (pair : State × Option ConnectedState) (event : Event)
    (after : State × Option ConnectedState) (unclosed : isClose event = false)
    (informed : Informed pair) (careful : Careful pair event)
    (taken : reporting pair event = some after) : Informed after := by
  have trying := trying_step pair event after unclosed informed.toTrying careful taken
  obtain ⟨state, reported⟩ := pair
  obtain ⟨next, effects, stepped, rfl⟩ := observed_some taken
  obtain ⟨callback, session⟩ := step_session stepped
  refine ⟨trying, callback.elim (fun now => now) fun same => same.trans informed.registered,
    fun installed => ?_⟩
  rcases session with same | absent | ⟨id, _, _, reportedNow⟩
  · rw [same] at installed
    exact lastReport_isSome effects reported (informed.informed installed)
  · simp [absent] at installed
  · have registered : state.callback = true := informed.registered
    simp [reportedNow, report, registered, lastReport]

/-- An early return leaves a report that is wrong. -/
theorem not_keepsTrying_of_early (state : State) (reported : Option ConnectedState)
    (code : ErrorCode) (informed : Informed (state, reported)) (idle : ioIdle state = true)
    (installed : state.session.isSome = true) (early : ReturnsEarly code) :
    ¬ KeepsTrying ((onSessionError state code).1,
      lastReport (onSessionError state code).2 reported) := by
  rw [onSessionError_early state code early]
  intro keeps
  have finished := (ioIdle_iff state).mp idle
  obtain ⟨connected, last⟩ := Option.isSome_iff_exists.mp (informed.informed installed)
  have before := informed.told connected last
  have after := (keeps finished).2 connected last
  rw [installed] at before
  rw [before] at after
  simp at after

theorem careful_of_keepsTrying (pair : State × Option ConnectedState) (event : Event)
    (after : State × Option ConnectedState) (informed : Informed pair)
    (taken : reporting pair event = some after) (keeps : KeepsTrying after) :
    Careful pair event := by
  intro code passed installed early
  obtain ⟨state, reported⟩ := pair
  obtain ⟨next, effects, stepped, rfl⟩ := observed_some taken
  obtain ⟨idle, resolving, same⟩ := step_of_reportedError stepped passed
  obtain ⟨⟨⟨told, listening⟩, waiting⟩, registered, spoken⟩ := informed
  have wrong := not_keepsTrying_of_early { state with resolving := resolving } reported code
    ⟨⟨⟨told, listening⟩, waiting⟩, registered, spoken⟩ idle installed early
  rw [same] at wrong
  exact wrong keeps

/-- After `connectionOpen` the client goes on trying, and its last report stays
right, as long as every error that finds a session installed reopens; with a
callback registered before, only so. -/
theorem client_keeps_trying_iff (before : State) (reported : Option ConnectedState)
    (consistent : Consistent (before, reported)) (point : ConnectionPoint)
    (opened : State × Option ConnectedState) (events : List Event)
    (opens : reporting (before, reported) (.connectionOpen point) = some opened)
    (unclosed : ∀ event ∈ events, isClose event = false) :
    (Guarded reporting Careful opened events → Throughout reporting KeepsTrying opened events) ∧
      (before.callback = true → (before.session.isSome = true → reported.isSome = true) →
        (Throughout reporting KeepsTrying opened events ↔
          Guarded reporting Careful opened events)) := by
  obtain ⟨next, effects, stepped, rfl⟩ := observed_some opens
  obtain ⟨_, stepped⟩ := of_guard stepped
  cases stepped
  have trying := trying_openConnection before consistent (some point)
  constructor
  · intro guarded
    exact (throughout_of_guarded _ trying_step trying unclosed guarded).mono
      fun pair => Trying.keepsTrying
  · intro registered told
    exact throughout_iff_guarded _ informed_step (fun pair informed => informed.keepsTrying)
      (fun pair event after _ => careful_of_keepsTrying pair event after)
      ⟨trying, registered, told⟩ unclosed

/-- A client with a callback, just opened. -/
def openedClient : State × Option ConnectedState :=
  ((openConnection { start with callback := true } (some ⟨"127.0.0.1", 8000⟩)).1, none)

/-- The peer resets the connection. -/
def resetRun : List Event :=
  [.resolved 0 none, .connected 0 none, .sessionError (.other 104), .reopen]

theorem client_keeps_trying_iff_resetRun :
    Throughout reporting KeepsTrying openedClient resetRun :=
  (client_keeps_trying_iff { start with callback := true } none (consistent_unreported _)
    ⟨"127.0.0.1", 8000⟩ openedClient resetRun rfl (by decide)).1 (by decide)

/-- The peer aborts the connection: `onSessionError` drops the session and
returns. -/
def abortedRun : List Event :=
  [.registerCallback, .connectionOpen ⟨"127.0.0.1", 8000⟩, .resolved 0 none, .connected 0 none,
    .sessionError .connectionAborted]

theorem client_gives_up_after_abort :
    ∃ pair, run reporting (start, none) abortedRun = some pair ∧ pair.1.reopening = false ∧
      pair.1.session = none ∧ attempts pair.1 = 0 ∧ ¬ pair.1.timer.pending ∧
        pair.2 = some (some 0) :=
  ⟨_, rfl, rfl, rfl, rfl, by decide, rfl⟩

/-! ## Attempts may overlap -/

/-- How often the timer expired while an attempt was outstanding or a session
installed, and how often an installed session was replaced. -/
structure Overlap where
  expiries : Nat
  replaced : Nat
  deriving DecidableEq

def overlapping (before : State) (event : Event) (_effects : List Effect) (overlap : Overlap) :
    Overlap :=
  match event with
  | .timerExpired =>
      if 0 < attempts before ∨ before.session.isSome then
        { overlap with expiries := overlap.expiries + 1 }
      else overlap
  | .connected _ none =>
      if before.session.isSome then { overlap with replaced := overlap.replaced + 1 }
      else overlap
  | _ => overlap

abbrev counting : State × Overlap → Event → Option (State × Overlap) :=
  observed step overlapping

def isUserCall : Event → Bool
  | .connectionOpen _ => true
  | event => isClose event

/-- The attempts, the installed session and the attempt about to be made. -/
def ongoing (state : State) : Nat :=
  attempts state + state.session.isSome.toNat + state.reopening.toNat

/-- What is ongoing, and each replacement, is paid for by the opening or by an
overlapping expiry. -/
structure Paid (pair : State × Overlap) : Prop where
  balance : ongoing pair.1 + pair.2.replaced ≤ 1 + pair.2.expiries
  replacements : pair.2.replaced ≤ pair.2.expiries

theorem ongoing_openConnection (state : State) (pDestPoint : Option ConnectionPoint) :
    ongoing (openConnection state pDestPoint).1 = ongoing state + 1 := by
  simp only [ongoing, attempts, openConnection, List.length_append, List.length_singleton]
  omega

theorem ongoing_onSessionError (state : State) (code : ErrorCode)
    (idle : ioIdle state = true) :
    ongoing (onSessionError state code).1 ≤ attempts state + 1 := by
  have finished := (ioIdle_iff state).mp idle
  unfold onSessionError
  split_ifs <;> simp [ongoing, attempts, finished]

theorem attempts_resolving (state : State) (session : Nat) (member : session ∈ state.resolving) :
    attempts { state with resolving := state.resolving.erase session } + 1 = attempts state := by
  have positive := List.length_pos_of_mem member
  simp only [attempts, List.length_erase_of_mem member]
  omega

theorem attempts_connecting (state : State) (session : Nat)
    (member : session ∈ state.connecting) :
    attempts { state with connecting := state.connecting.erase session } + 1 =
      attempts state := by
  have positive := List.length_pos_of_mem member
  simp only [attempts, List.length_erase_of_mem member]
  omega

/-! What each step does to the number of those ongoing. -/

section Ongoing
variable {state next : State} {effects : List Effect}

theorem ongoing_resolved (id : Nat) (erCode : Option ErrorCode)
    (stepped : step state (.resolved id erCode) = some (next, effects)) :
    ongoing next ≤ ongoing state := by
  obtain ⟨⟨idle, member⟩, stepped⟩ := of_guard stepped
  have fewer := attempts_resolving state id member
  cases erCode with
  | none =>
      cases stepped
      simp only [ongoing, attempts, List.length_append, List.length_singleton] at *
      omega
  | some code =>
      change onSessionError _ code = (next, effects) at stepped
      have bound := ongoing_onSessionError
        { state with resolving := state.resolving.erase id } code idle
      rw [stepped] at bound
      simp only [ongoing] at *
      omega

/-- The attempt becomes the session and takes the place of the one installed. -/
theorem ongoing_connected (id : Nat)
    (stepped : step state (.connected id none) = some (next, effects)) :
    0 < ongoing next ∧ ongoing next + state.session.isSome.toNat = ongoing state := by
  obtain ⟨⟨_, member⟩, stepped⟩ := of_guard stepped
  have fewer := attempts_connecting state id member
  have now : ongoing next = attempts state + state.reopening.toNat := by
    cases stepped
    simp only [ongoing, Option.isSome_some, Bool.toNat_true]
    exact congrArg (· + state.reopening.toNat) fewer
  rw [now, ongoing]
  constructor <;> omega

theorem ongoing_notConnected (id : Nat) (code : ErrorCode)
    (stepped : step state (.connected id (some code)) = some (next, effects)) :
    ongoing next ≤ ongoing state := by
  obtain ⟨⟨_, member⟩, stepped⟩ := of_guard stepped
  have fewer := attempts_connecting state id member
  cases stepped
  simp only [ongoing, attempts] at *
  omega

theorem ongoing_timerExpired
    (stepped : step state .timerExpired = some (next, effects)) :
    ongoing next = ongoing state + 1 := by
  obtain ⟨_, stepped⟩ := of_guard stepped
  have more := ongoing_openConnection
    { state with timer := { state.timer with expired := state.timer.expired - 1 } } none
  change openConnection _ none = (next, effects) at stepped
  rw [stepped] at more
  exact more

theorem ongoing_sessionError (code : ErrorCode)
    (stepped : step state (.sessionError code) = some (next, effects)) :
    ongoing next ≤ ongoing state := by
  obtain ⟨⟨idle, installed⟩, stepped⟩ := of_guard stepped
  cases passed : forwarded code with
  | none =>
      simp only [sessionFails, passed] at stepped
      cases stepped
      exact Nat.le_refl _
  | some code =>
      simp only [sessionFails, passed] at stepped
      have bound := ongoing_onSessionError state code idle
      rw [stepped] at bound
      simp only [ongoing, installed, Bool.toNat_true] at *
      omega

theorem ongoing_reopen (stepped : step state .reopen = some (next, effects)) :
    ongoing next = ongoing state := by
  obtain ⟨isReopening, stepped⟩ := of_guard stepped
  have reopening : state.reopening = true := isReopening
  have more := ongoing_openConnection { state with reopening := false } none
  rw [stepped] at more
  simp only [ongoing, reopening, Bool.toNat_true] at more ⊢
  exact more

end Ongoing

/-- A session that is installed replaces the one that is there. -/
theorem overlapping_connected (before : State) (session : Nat) (effects : List Effect)
    (overlap : Overlap) :
    overlapping before (.connected session none) effects overlap =
      { overlap with replaced := overlap.replaced + before.session.isSome.toNat } := by
  cases installed : before.session.isSome <;> simp [overlapping, installed]

/-- An expiry with nothing ongoing is the only one that is not counted. -/
theorem overlapping_timerExpired (before : State) (effects : List Effect) (overlap : Overlap)
    (finished : before.reopening = false) :
    (ongoing before = 0 ∧ overlapping before .timerExpired effects overlap = overlap) ∨
      overlapping before .timerExpired effects overlap =
        { overlap with expiries := overlap.expiries + 1 } := by
  unfold overlapping
  by_cases overlaps : 0 < attempts before ∨ before.session.isSome = true
  · right
    exact if_pos overlaps
  · left
    refine ⟨?_, if_neg overlaps⟩
    simp only [not_or, Bool.not_eq_true] at overlaps
    simp only [ongoing, overlaps.2, finished, Bool.toNat_false]
    omega

theorem Paid.fewer {state next : State} {overlap : Overlap} (paid : Paid (state, overlap))
    (fewer : ongoing next ≤ ongoing state) : Paid (next, overlap) :=
  ⟨Nat.le_trans (Nat.add_le_add_right fewer _) paid.balance, paid.replacements⟩

theorem paid_step (pair : State × Overlap) (event : Event) (after : State × Overlap)
    (inside : isUserCall event = false) (paid : Paid pair)
    (taken : counting pair event = some after) : Paid after := by
  obtain ⟨state, overlap⟩ := pair
  obtain ⟨next, effects, stepped, rfl⟩ := observed_some taken
  cases event with
  | connectionOpen point => contradiction
  | closeTransport => contradiction
  | closeSession => contradiction
  | closeReturn => contradiction
  | registerCallback =>
      cases stepped
      exact paid.fewer (Nat.le_refl _)
  | resolved id erCode => exact paid.fewer (ongoing_resolved id erCode stepped)
  | connected id erCode =>
      cases erCode with
      | none =>
          obtain ⟨positive, replaces⟩ := ongoing_connected id stepped
          have balance := paid.balance
          simp only at positive replaces balance
          rw [overlapping_connected]
          exact ⟨by simp only; omega, by simp only; omega⟩
      | some code => exact paid.fewer (ongoing_notConnected id code stepped)
  | timerExpires =>
      cases (of_guard stepped).2
      exact paid.fewer (Nat.le_refl _)
  | timerExpired =>
      have finished := (ioIdle_iff state).mp (of_guard stepped).1.1
      have more := ongoing_timerExpired stepped
      have balance := paid.balance
      have replacements := paid.replacements
      simp only at more balance replacements
      rcases overlapping_timerExpired state effects overlap finished with ⟨nothing, same⟩ | counted
      · rw [same]
        exact ⟨by simp only; omega, replacements⟩
      · rw [counted]
        exact ⟨by simp only; omega, by simp only; omega⟩
  | timerAborted =>
      cases (of_guard stepped).2
      exact paid.fewer (Nat.le_refl _)
  | sessionError code => exact paid.fewer (ongoing_sessionError code stepped)
  | reopen => exact paid.fewer (Nat.le_of_eq (ongoing_reopen stepped))

/-- After a single `connectionOpen` the attempts outstanding and the installed
session are at most one more than the expiries that overlapped with them; so with
no such expiry there is at most one attempt, none beside a session, and no
session is replaced. -/
theorem attempts_bounded_by_overlaps (callback : Bool) (point : ConnectionPoint)
    (opened : State × Overlap) (events : List Event)
    (opens : counting ({ start with callback := callback }, ⟨0, 0⟩) (.connectionOpen point) =
      some opened)
    (inside : ∀ event ∈ events, isUserCall event = false) :
    Throughout counting
      (fun pair =>
        attempts pair.1 + pair.1.session.isSome.toNat + pair.2.replaced ≤ 1 + pair.2.expiries ∧
        (pair.2.expiries = 0 → attempts pair.1 ≤ 1 ∧
          (pair.1.session.isSome = true → attempts pair.1 = 0) ∧ pair.2.replaced = 0))
      opened events := by
  have paidStart : Paid opened := by
    cases opens
    exact ⟨Nat.le_refl 1, Nat.le_refl 0⟩
  have paid := throughout_of_kept paid_step paidStart inside
  refine paid.mono fun pair ⟨balance, replacements⟩ => ?_
  unfold ongoing at balance
  refine ⟨by omega, fun none => ⟨by omega, fun installed => ?_, by omega⟩⟩
  rw [installed, Bool.toNat_true] at balance
  omega

/-- The network is slower than the timer, and both attempts succeed. -/
def slowRun : List Event :=
  [.timerExpires, .timerExpired, .resolved 0 none, .connected 0 none, .resolved 1 none,
    .connected 1 none]

theorem attempts_bounded_by_overlaps_slowRun :
    Throughout counting
      (fun pair =>
        attempts pair.1 + pair.1.session.isSome.toNat + pair.2.replaced ≤ 1 + pair.2.expiries ∧
        (pair.2.expiries = 0 → attempts pair.1 ≤ 1 ∧
          (pair.1.session.isSome = true → attempts pair.1 = 0) ∧ pair.2.replaced = 0))
      ((openConnection start (some ⟨"127.0.0.1", 8000⟩)).1, ⟨0, 0⟩) slowRun :=
  attempts_bounded_by_overlaps false ⟨"127.0.0.1", 8000⟩ _ slowRun rfl (by decide)

theorem two_attempts_and_replacement :
    (∃ pair, run counting (start, ⟨0, 0⟩)
        (.connectionOpen ⟨"127.0.0.1", 8000⟩ :: slowRun.take 2) = some pair ∧
      attempts pair.1 = 2) ∧
    ∃ pair, run counting (start, ⟨0, 0⟩)
        (.connectionOpen ⟨"127.0.0.1", 8000⟩ :: slowRun) = some pair ∧
      pair.2.replaced = 1 :=
  ⟨⟨_, rfl, rfl⟩, ⟨_, rfl, rfl⟩⟩

end Emserver.ClientConnection
