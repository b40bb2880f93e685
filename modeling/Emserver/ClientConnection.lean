import Emserver.TcpSession
import Emserver.Lib.Runs

/-!
# The client's connection

`EmserverAdapter` (`client/src/emserveradapter.cpp`) over `TransportClient`
(`client/src/transport_client.cpp`).  A handler is a function from the state to
the next state and its effects; `step` says when the io service may run it.

The io thread runs one handler at a time, in any order, and a handler without user
code inside is one step: a resolve, a connect or an expiry of the timer counts as
outstanding until its handler has returned.  `onSessionError` is two steps, since
user code can run between its report and its `openConnection`, and
`connectionClose` is three.  A queued completion is delivered even when the
timer has been cancelled since.
-/

set_option autoImplicit false

namespace Emserver.ClientConnection

open Emserver.TcpSession

structure ConnectionPoint where
  interface : String
  port : UInt32
  deriving DecidableEq, Repr

/-- The `ConnectedState` a callback is given: the session whose endpoints it
carries, or `none` for the default-constructed one. -/
abbrev ConnectedState := Option Nat

/-! ## The reconnect timer -/

/-- Whether a wait is pending, and the completions already queued: without error,
and with `operation_aborted`. -/
structure ReconnectTimer where
  armed : Bool
  expired : Nat
  aborted : Nat
  deriving DecidableEq, Repr

def ReconnectTimer.cancel (timer : ReconnectTimer) : ReconnectTimer :=
  if timer.armed then { timer with armed := false, aborted := timer.aborted + 1 } else timer

/-- `expires_from_now` cancels the wait that is pending; `async_wait` starts another. -/
def ReconnectTimer.restart (timer : ReconnectTimer) : ReconnectTimer :=
  { timer.cancel with armed := true }

def ReconnectTimer.pending (timer : ReconnectTimer) : Prop :=
  timer.armed = true ∨ 0 < timer.expired

instance (timer : ReconnectTimer) : Decidable timer.pending := by
  unfold ReconnectTimer.pending
  infer_instance

@[simp] theorem cancel_armed (timer : ReconnectTimer) : timer.cancel.armed = false := by
  unfold ReconnectTimer.cancel
  cases armed : timer.armed <;> simp [armed]

@[simp] theorem cancel_expired (timer : ReconnectTimer) :
    timer.cancel.expired = timer.expired := by
  unfold ReconnectTimer.cancel
  split <;> rfl

@[simp] theorem restart_pending (timer : ReconnectTimer) : timer.restart.pending :=
  .inl rfl

/-! ## State -/

/-- How far a call of `connectionClose` has come. -/
inductive Closing where
  | idle
  | transportClosed
  | sessionReset
  deriving DecidableEq, Repr

/-- Sessions are numbered in the order `openConnection` creates them.  `resolving`
and `connecting` are the sessions whose operation has not completed; `reopening`
means `onSessionError` is about to call `openConnection`. -/
structure State where
  conf : ConnectionPoint
  nextSession : Nat
  resolving : List Nat
  connecting : List Nat
  timer : ReconnectTimer
  session : Option Nat
  callback : Bool
  reopening : Bool
  closing : Closing
  deriving DecidableEq, Repr

def start : State :=
  ⟨⟨"", 0⟩, 0, [], [], ⟨false, 0, 0⟩, none, false, false, .idle⟩

inductive Effect where
  | asyncResolve (point : ConnectionPoint) (session : Nat)
  | asyncConnect (session : Nat)
  | asyncWait
  | install (session : Nat)
  | connectedStateChanged (state : ConnectedState)
  deriving DecidableEq, Repr

/-! ## `TransportClient` and `EmserverAdapter` -/

def openConnection (state : State) (pDestPoint : Option ConnectionPoint) :
    State × List Effect :=
  let conf := pDestPoint.getD state.conf
  let session := state.nextSession
  ({ state with
      conf := conf
      nextSession := session + 1
      resolving := state.resolving ++ [session]
      timer := state.timer.restart },
    [.asyncResolve conf session, .asyncWait])

def closeConnection (state : State) : State := { state with timer := state.timer.cancel }

/-- The registered `ConnectedStateChanged` callback, if there is one. -/
def report (state : State) (connected : ConnectedState) : List Effect :=
  if state.callback then [.connectedStateChanged connected] else []

def onClientConnected (state : State) (session : Nat) : State × List Effect :=
  ({ state with session := some session }, .install session :: report state (some session))

/-- Up to the call of `openConnection`, which `reopening` announces. -/
def onSessionError (state : State) (code : ErrorCode) : State × List Effect :=
  let state := { state with session := none }
  if code = .operationAborted then (state, [])
  else if code = .operationNotSupported then (state, [])
  else if code = .connectionAborted then (state, [])
  else ({ state with reopening := true }, report state none)

def onReconnectTimerTimeout (state : State) (c : Option ErrorCode) : State × List Effect :=
  match c with
  | some _ => (state, [])
  | none => openConnection state none

def onHandlerResolved (state : State) (erCode : Option ErrorCode) (session : Nat) :
    State × List Effect :=
  match erCode with
  | some code => onSessionError state code
  | none => ({ state with connecting := state.connecting ++ [session] }, [.asyncConnect session])

def onHandlerAccepted (state : State) (erCode : Option ErrorCode) (session : Nat) :
    State × List Effect :=
  match erCode with
  | some _ => (state, [])
  | none => onClientConnected { state with timer := state.timer.cancel } session

/-- A read or write of the installed session fails. -/
def sessionFails (state : State) (code : ErrorCode) : State × List Effect :=
  match forwarded code with
  | none => (state, [])
  | some code => onSessionError state code

/-! ## Steps -/

inductive Event where
  | connectionOpen (point : ConnectionPoint)
  | closeTransport
  | closeSession
  | closeReturn
  | registerCallback
  | resolved (session : Nat) (erCode : Option ErrorCode)
  | connected (session : Nat) (erCode : Option ErrorCode)
  | timerExpires
  | timerExpired
  | timerAborted
  | sessionError (code : ErrorCode)
  | reopen
  deriving DecidableEq, Repr

def ioIdle (state : State) : Bool := !state.reopening

theorem ioIdle_iff (state : State) : ioIdle state = true ↔ state.reopening = false := by
  simp [ioIdle]

def step (state : State) : Event → Option (State × List Effect)
  | .connectionOpen point =>
      if state.closing = .idle then some (openConnection state (some point)) else none
  | .closeTransport =>
      if state.closing = .idle then
        some ({ closeConnection state with closing := .transportClosed }, [])
      else none
  | .closeSession =>
      if state.closing = .transportClosed then
        some ({ state with session := none, closing := .sessionReset }, [])
      else none
  | .closeReturn =>
      if state.closing = .sessionReset then
        some ({ state with closing := .idle }, report state none)
      else none
  | .registerCallback => some ({ state with callback := true }, [])
  | .resolved session erCode =>
      if ioIdle state ∧ session ∈ state.resolving then
        some (onHandlerResolved
          { state with resolving := state.resolving.erase session } erCode session)
      else none
  | .connected session erCode =>
      if ioIdle state ∧ session ∈ state.connecting then
        some (onHandlerAccepted
          { state with connecting := state.connecting.erase session } erCode session)
      else none
  | .timerExpires =>
      if state.timer.armed then
        some ({ state with
          timer := { state.timer with armed := false, expired := state.timer.expired + 1 } }, [])
      else none
  | .timerExpired =>
      if ioIdle state ∧ 0 < state.timer.expired then
        some (onReconnectTimerTimeout
          { state with timer := { state.timer with expired := state.timer.expired - 1 } } none)
      else none
  | .timerAborted =>
      if ioIdle state ∧ 0 < state.timer.aborted then
        some (onReconnectTimerTimeout
          { state with timer := { state.timer with aborted := state.timer.aborted - 1 } }
          (some .operationAborted))
      else none
  | .sessionError code =>
      if ioIdle state ∧ state.session.isSome then some (sessionFails state code) else none
  | .reopen =>
      if state.reopening then some (openConnection { state with reopening := false } none)
      else none

/-- The error an event passes to `onSessionError`. -/
def reportedError : Event → Option ErrorCode
  | .resolved _ erCode => erCode
  | .sessionError code => forwarded code
  | _ => none

theorem onSessionError_early (state : State) (code : ErrorCode) (early : ReturnsEarly code) :
    onSessionError state code = ({ state with session := none }, []) := by
  rcases early with rfl | rfl | rfl <;> rfl

theorem onSessionError_reopens (state : State) (code : ErrorCode) (late : ¬ ReturnsEarly code) :
    onSessionError state code =
      ({ state with session := none, reopening := true }, report state none) := by
  simp only [ReturnsEarly, not_or] at late
  simp [onSessionError, late, report]

def attempts (state : State) : Nat := state.resolving.length + state.connecting.length

end Emserver.ClientConnection
