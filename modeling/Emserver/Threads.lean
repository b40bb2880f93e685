import Emserver.Lib.Runs

/-!
# The io thread and the processing thread

Who waits for whom in `TcpSession` (`common/src/tcpsession.cpp`) and
`CommonProcessor` (`common/src/commonprocessor.cpp`), as `EmserverAdapter` and
`CServer` use them.  The io thread runs the connect, accept, read and write
handlers and with them the connected and disconnected callbacks; the processing
thread of a session runs the request and response callbacks.  User code in a
callback sends, closes and returns as it likes.

A thread waits in `sendData`, for `m_sendSyncMutex` or in the `m_inSendMode` loop,
or in `~CommonProcessor`, for the processing thread to end.  The wait of the loop
may end at any time, by a notification or spuriously.
-/

set_option autoImplicit false

namespace Emserver.Threads

inductive Thread where
  | io
  | worker
  deriving DecidableEq, Repr

/-! ## Sending -/

/-- `m_inSendMode`, the number of `async_write`s outstanding, and who holds
`m_sendSyncMutex`; it is held across steps by a thread in the loop only. -/
structure Sending where
  inSendMode : Bool
  outstanding : Nat
  lock : Option Thread
  deriving DecidableEq, Repr

def Sending.fresh : Sending := ⟨false, 0, none⟩

/-- The end of `sendData`, from the loop on. -/
def Sending.startWrite (sending : Sending) : Sending :=
  ⟨true, sending.outstanding + 1, none⟩

inductive Wait where
  | done
  | lockWait
  | sendWait
  deriving DecidableEq, Repr

/-- `sendData` from the lock on, up to where the thread has to wait. -/
def Sending.sendData (sending : Sending) (thread : Thread) : Sending × Wait :=
  match sending.lock with
  | some _ => (sending, .lockWait)
  | none =>
      if sending.inSendMode then ({ sending with lock := some thread }, .sendWait)
      else (sending.startWrite, .done)

def Sending.handlerWrite (sending : Sending) : Sending :=
  { sending with inSendMode := false, outstanding := sending.outstanding - 1 }

/-! ## State -/

inductive Callback where
  | connected
  | disconnected
  deriving DecidableEq, Repr

/-- Where the io thread is; a session it destroys is joined before `next` runs. -/
inductive IoPc where
  | idle
  | callback (callback : Callback)
  | lockWait (callback : Callback)
  | sendWait (callback : Callback)
  | join (next : Option Callback)
  deriving DecidableEq, Repr

/-- The session in `m_session`, or held by the handler that installed it, and the
one being destroyed. -/
inductive Which where
  | current
  | dying
  deriving DecidableEq, Repr

inductive WorkerPc where
  | absent
  | idle
  | callback
  | lockWait (on : Which)
  | sendWait (on : Which)
  | selfJoin
  | exited
  deriving DecidableEq, Repr

/-- `installed` is whether `m_session` is set; `deferred`, whether it was reset
while the connected handler still holds the session; `queue`, the messages the
processing thread has still to hand to its callback. -/
structure State where
  installed : Bool
  deferred : Bool
  current : Sending
  dying : Sending
  io : IoPc
  worker : WorkerPc
  queue : Nat
  needExit : Bool
  deriving DecidableEq, Repr

def start : State := ⟨false, false, .fresh, .fresh, .idle, .absent, 0, false⟩

def State.sending (state : State) : Which → Sending
  | .current => state.current
  | .dying => state.dying

def State.setSending (state : State) (on : Which) (sending : Sending) : State :=
  match on with
  | .current => { state with current := sending }
  | .dying => { state with dying := sending }

/-- The handler the io thread is in holds the current session. -/
def ioHolds (state : State) : Bool :=
  match state.io with
  | .callback .connected => true
  | .lockWait .connected => true
  | .sendWait .connected => true
  | .join (some .connected) => true
  | _ => false

/-- A wait on a session goes on when that session is being destroyed. -/
def WorkerPc.onDying : WorkerPc → WorkerPc
  | .lockWait _ => .lockWait .dying
  | .sendWait _ => .sendWait .dying
  | other => other

/-! ## Steps -/

/-- `~TcpSession` on the io thread, up to the join. -/
def destroy (state : State) (next : Option Callback) : State :=
  { state with
    deferred := false
    current := .fresh
    dying := state.current
    io := .join next
    worker := state.worker.onDying
    queue := 0
    needExit := true }

/-- `m_session = session` in the connected handler; a session that was there is
destroyed before the callback. -/
def install (state : State) : State :=
  if state.installed then destroy state (some .connected)
  else { state with
    installed := true, deferred := false, current := .fresh, io := .callback .connected
    worker := .idle, queue := 0 }

/-- `onSessionError` and `callbackSessionError`: `reported` is whether the error
code gets to the disconnected callback. -/
def sessionError (state : State) (reported : Bool) : State :=
  destroy { state with installed := false } (if reported then some .disconnected else none)

/-- A send function called in a callback on the io thread. -/
def ioSend (state : State) (callback : Callback) : State :=
  let (sending, wait) := state.current.sendData .io
  { state with
    current := sending
    io := match wait with
      | .done => .callback callback
      | .lockWait => .lockWait callback
      | .sendWait => .sendWait callback }

/-- A send function called in a callback on the processing thread. -/
def workerSend (state : State) (on : Which) : State :=
  let (sending, wait) := (state.sending on).sendData .worker
  { state.setSending on sending with
    worker := match wait with
      | .done => .callback
      | .lockWait => .lockWait on
      | .sendWait => .sendWait on }

/-- The close function called in a callback on the processing thread: unless the
io thread holds the session too, its destructor runs here and joins this thread,
where an implementation may also throw. -/
def workerClose (state : State) : State :=
  if ioHolds state then { state with installed := false, deferred := true }
  else { state with installed := false, needExit := true, worker := .selfJoin }

inductive Event where
  | connect
  | read
  | readError (reported : Bool)
  | writeDone (error : Option Bool)
  | joined
  | ioSend
  | ioClose
  | ioReturn
  | ioLock
  | ioWake
  | message
  | workerSend
  | workerClose
  | workerReturn
  | workerLock
  | workerWake
  | workerExit
  deriving DecidableEq, Repr

/-- Without `m_session` the send and close functions do nothing that waits. -/
def step (state : State) : Event → Option State
  | .connect =>
      if state.io = .idle ∧ (state.installed ∨ state.worker = .absent) then
        some (install state)
      else none
  | .read =>
      if state.io = .idle ∧ state.installed then
        some { state with queue := state.queue + 1 }
      else none
  | .readError reported =>
      if state.io = .idle ∧ state.installed then some (sessionError state reported) else none
  | .writeDone error =>
      if state.io = .idle ∧ state.installed ∧ 0 < state.current.outstanding then
        let written := { state with current := state.current.handlerWrite }
        match error with
        | none => some written
        | some reported => some (sessionError written reported)
      else none
  | .joined =>
      match state.io with
      | .join next =>
          if state.worker = .exited then
            some { state with
              dying := .fresh
              io := match next with
                | none => .idle
                | some callback => .callback callback
              worker := if next = some .connected then .idle else .absent
              needExit := false }
          else none
      | _ => none
  | .ioSend =>
      match state.io with
      | .callback callback =>
          if state.installed then some (ioSend state callback) else some state
      | _ => none
  | .ioClose =>
      match state.io with
      | .callback _ =>
          -- only the connected callback finds a session, which its handler holds
          if state.installed then some { state with installed := false, deferred := true }
          else some state
      | _ => none
  | .ioReturn =>
      match state.io with
      | .callback _ =>
          if state.deferred then some (destroy state none) else some { state with io := .idle }
      | _ => none
  | .ioLock =>
      match state.io with
      | .lockWait callback =>
          if state.current.lock = none then some (ioSend state callback) else none
      | _ => none
  | .ioWake =>
      match state.io with
      | .sendWait callback =>
          some { state with current := state.current.startWrite, io := .callback callback }
      | _ => none
  | .message =>
      if state.worker = .idle ∧ state.needExit = false ∧ 0 < state.queue then
        some { state with queue := state.queue - 1, worker := .callback }
      else none
  | .workerSend =>
      if state.worker = .callback then
        if state.installed then some (workerSend state .current) else some state
      else none
  | .workerClose =>
      if state.worker = .callback then
        if state.installed then some (workerClose state) else some state
      else none
  | .workerReturn =>
      if state.worker = .callback then some { state with worker := .idle } else none
  | .workerLock =>
      match state.worker with
      | .lockWait on =>
          if (state.sending on).lock = none then some (workerSend state on) else none
      | _ => none
  | .workerWake =>
      match state.worker with
      | .sendWait on =>
          some { state.setSending on (state.sending on).startWrite with worker := .callback }
      | _ => none
  | .workerExit =>
      if state.worker = .idle ∧ state.needExit then some { state with worker := .exited }
      else none

/-! ## Waiting -/

/-- The thread whose step would end the wait of a thread that waits, in the loop or
in a join; `mutex` is whether a wait for `m_sendSyncMutex` counts too. -/
def waitsFor (mutex : Bool) (state : State) : Thread → Option Thread
  | .io =>
      match state.io with
      | .sendWait _ => if state.current.inSendMode then some .io else none
      | .lockWait _ => if mutex then state.current.lock else none
      | .join _ => if state.worker = .exited then none else some .worker
      | _ => none
  | .worker =>
      match state.worker with
      | .sendWait on => if (state.sending on).inSendMode then some .io else none
      | .lockWait on => if mutex then (state.sending on).lock else none
      | .selfJoin => some .worker
      | _ => none

/-- A thread waits for a step of a thread that waits itself. -/
def CircularWait (mutex : Bool) (state : State) : Prop :=
  ∃ thread other, waitsFor mutex state thread = some other ∧
    (waitsFor mutex state other).isSome = true

end Emserver.Threads
