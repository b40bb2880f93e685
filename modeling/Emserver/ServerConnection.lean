import Emserver.TcpSession
import Emserver.Lib.Runs

/-!
# The server's connection

`CServer` (`cserver/cserver.cpp`) over `TransportServer`
(`server/src/transport.cpp`).  As for the client, handlers are functions and
`step` says when they may run; a handler without user code inside is one step, so
that an accept counts as outstanding until its handler has returned.

An `async_accept` that has completed waits in `completions` with its result;
closing the acceptor completes the outstanding ones with `operation_aborted` and
leaves what is queued alone.  `callbackSessionError` is two steps and `close` is
three, since the io thread and user code run in between.  Opening an acceptor may
fail.
-/

set_option autoImplicit false

namespace Emserver.ServerConnection

open Emserver.TcpSession

/-- A session and whether its socket is open, which a successful accept makes it. -/
structure Session where
  id : Nat
  isOpen : Bool
  deriving DecidableEq, Repr

/-- How far a call of `close` has come. -/
inductive Closing where
  | idle
  | acceptorClosed
  | sessionReset
  deriving DecidableEq, Repr

/-- Sessions are numbered in the order `acceptNewConnection` creates them.
`reopening` means `callbackSessionError` is about to call `listen(true)`. -/
structure State where
  nextSession : Nat
  acceptor : Bool
  accepting : List Nat
  completions : List (Nat × Option ErrorCode)
  session : Option Session
  callback : Bool
  reopening : Bool
  closing : Closing
  deriving DecidableEq, Repr

def start : State := ⟨0, false, [], [], none, false, false, .idle⟩

inductive Effect where
  | asyncAccept (session : Nat)
  /-- `onClientConnected_` for a new client. -/
  | clientConnected (session : Session)
  /-- `onClientConnected_` with an empty address and port 0. -/
  | clientLost
  deriving DecidableEq, Repr

/-! ## `TransportServer` -/

/-- The accepts of an acceptor that is cancelled or replaced. -/
def resetAcceptor (state : State) : State :=
  { state with
    acceptor := false
    accepting := []
    completions := state.completions ++
      state.accepting.map fun session => (session, some .operationAborted) }

/-- `success` is whether the address could be parsed and the acceptor opened. -/
def transportListen (state : State) (needListen success : Bool) : State × Bool :=
  if needListen then
    if success then ({ resetAcceptor state with acceptor := true }, true) else (state, false)
  else if state.acceptor then (resetAcceptor state, false)
  else (state, false)

def acceptNewConnection (state : State) : State × List Effect :=
  if state.acceptor then
    ({ state with
        nextSession := state.nextSession + 1
        accepting := state.accepting ++ [state.nextSession] },
      [.asyncAccept state.nextSession])
  else (state, [])

/-! ## `CServer` -/

/-- `listen(true)`, then `acceptNewConnection` if it succeeded. -/
def listenAndAccept (state : State) (success : Bool) : State × List Effect :=
  let (state, isListen) := transportListen state true success
  if isListen then acceptNewConnection state else (state, [])

/-- `CServer::listen`: a new `TransportServer`, so the old acceptor and what it
had outstanding are gone. -/
def listen (state : State) (success : Bool) : State × List Effect :=
  listenAndAccept { state with acceptor := false, accepting := [] } success

def transportClientConnectedCallback (state : State) (ptrSession : Session) :
    State × List Effect :=
  let state := { state with session := some ptrSession }
  let (state, _) := transportListen state false true
  (state, if state.callback then [.clientConnected ptrSession] else [])

/-- Up to the call of `listen(true)`, which `reopening` announces. -/
def callbackSessionError (state : State) (code : ErrorCode) : State × List Effect :=
  let state := { state with session := none }
  if code = .operationAborted then (state, [])
  else if code = .operationNotSupported then (state, [])
  else if code = .connectionAborted then (state, [])
  else ({ state with reopening := true }, if state.callback then [.clientLost] else [])

/-- Every error but `operation_aborted` goes on to the connected callback. -/
def handlerAccept (state : State) (erCode : Option ErrorCode) (session : Nat) :
    State × List Effect :=
  if erCode = some .operationAborted then (state, [])
  else transportClientConnectedCallback state ⟨session, erCode.isNone⟩

def sessionFails (state : State) (code : ErrorCode) : State × List Effect :=
  match forwarded code with
  | none => (state, [])
  | some code => callbackSessionError state code

/-! ## Steps -/

inductive Event where
  | listen (success : Bool)
  | closeAcceptor
  | closeSession
  | closeReturn
  | registerCallback
  | accepted (session : Nat) (result : Option ErrorCode)
  | handlerAccept (session : Nat) (erCode : Option ErrorCode)
  | sessionError (code : ErrorCode)
  | reopen (success : Bool)
  deriving DecidableEq, Repr

def ioIdle (state : State) : Bool := !state.reopening

theorem ioIdle_iff (state : State) : ioIdle state = true ↔ state.reopening = false := by
  simp [ioIdle]

/-- The destructor of the old `TransportServer` joins its io thread, so nothing
of it is left to run. -/
def drained (state : State) : Bool :=
  state.completions.isEmpty && state.session.isNone && ioIdle state

def step (state : State) : Event → Option (State × List Effect)
  | .listen success =>
      if state.closing = .idle ∧ drained state then some (listen state success) else none
  | .closeAcceptor =>
      if state.closing = .idle then
        some ({ (transportListen state false true).1 with closing := .acceptorClosed }, [])
      else none
  | .closeSession =>
      if state.closing = .acceptorClosed then
        some ({ state with session := none, closing := .sessionReset }, [])
      else none
  | .closeReturn =>
      if state.closing = .sessionReset then some ({ state with closing := .idle }, []) else none
  | .registerCallback => some ({ state with callback := true }, [])
  | .accepted session result =>
      if session ∈ state.accepting ∧ result ≠ some .operationAborted then
        some ({ state with
          accepting := state.accepting.erase session
          completions := state.completions ++ [(session, result)] }, [])
      else none
  | .handlerAccept session erCode =>
      if ioIdle state ∧ (session, erCode) ∈ state.completions then
        some (handlerAccept
          { state with completions := state.completions.erase (session, erCode) } erCode session)
      else none
  | .sessionError code =>
      if ioIdle state ∧ state.session.isSome then some (sessionFails state code) else none
  | .reopen success =>
      if state.reopening then
        some (listenAndAccept { state with reopening := false } success)
      else none

theorem callbackSessionError_early (state : State) (code : ErrorCode)
    (early : ReturnsEarly code) :
    callbackSessionError state code = ({ state with session := none }, []) := by
  rcases early with rfl | rfl | rfl <;> rfl

theorem callbackSessionError_reopens (state : State) (code : ErrorCode)
    (late : ¬ ReturnsEarly code) :
    callbackSessionError state code =
      ({ state with session := none, reopening := true },
        if state.callback then [.clientLost] else []) := by
  simp only [ReturnsEarly, not_or] at late
  simp [callbackSessionError, late]

end Emserver.ServerConnection
