import Emserver.CommonProcessor
import Emserver.Lib.Runs
import Emserver.TcpSession

/-!
# Sending

`TcpSession::sendData` and `TcpSession::handlerWrite`
(`common/src/tcpsession.cpp`) as steps of any number of callers, the network
library and the write handler.

The library copies nothing: `async_write` sends what `m_streamSend` held when it
was started, consumes what it transferred, and then queues the handler, which
consumes as many bytes again.  `handlerWrite` is one step, as it holds
`m_sendAvaliableMutex` from the consume to the notification and a caller enters
and leaves its wait under that mutex.
-/

set_option autoImplicit false

namespace Emserver.TcpSession.Sending

open Emserver.Protobuf

/-- Where the caller that holds `m_sendSyncMutex` is: at the condition of the
loop, in its body before the wait, in the wait, or past the loop. -/
inductive Phase where
  | testing
  | entering
  | waiting (notified : Bool)
  | leaving
  deriving DecidableEq

structure Caller where
  phase : Phase
  chunk : List UInt8
  deriving DecidableEq

inductive Stage where
  | inProgress
  | completed (code : Option ErrorCode)
  deriving DecidableEq

/-- An `async_write` whose handler has not run. -/
structure Write where
  content : List UInt8
  transferred : Nat
  stage : Stage
  deriving DecidableEq

/-- The socket, `m_inSendMode`, `m_streamSend`, the frames of the callers that wait
for `m_sendSyncMutex`, the caller that holds it, the outstanding writes, and the
bytes on the wire. -/
structure State where
  isOpen : Bool
  inSendMode : Bool
  streamSend : List UInt8
  blocked : List (List UInt8)
  holder : Option Caller
  writes : List Write
  wire : List UInt8
  deriving DecidableEq

def connected : State := ⟨true, false, [], [], none, [], []⟩

inductive Wake where
  | notified
  | timedOut
  | spurious
  deriving DecidableEq

inductive Event where
  | sendData (s : List UInt8)
  | acquire (index : Nat)
  | test
  | enterWait
  | wake (cause : Wake)
  | startWrite
  | transfer (index count : Nat)
  | complete (index : Nat) (code : Option ErrorCode)
  | handlerWrite (index : Nat)
  | close
  deriving DecidableEq

/-- `streambuf::consume`. -/
def consume (stream : List UInt8) (count : Nat) : List UInt8 := stream.drop count

/-! ## The caller -/

/-- `sendData` up to the lock. -/
def State.sendData (state : State) (chunk : List UInt8) : State :=
  if state.isOpen then { state with blocked := state.blocked ++ [chunk] } else state

def State.acquire (state : State) (index : Nat) : Option State :=
  match state.holder, state.blocked[index]? with
  | none, some chunk =>
      some { state with
        blocked := state.blocked.eraseIdx index
        holder := some ⟨.testing, chunk⟩ }
  | _, _ => none

def State.test (state : State) : Option State :=
  match state.holder with
  | some ⟨.testing, chunk⟩ =>
      some { state with
        holder := some ⟨if state.inSendMode then .entering else .leaving, chunk⟩ }
  | _ => none

def State.enterWait (state : State) : Option State :=
  match state.holder with
  | some ⟨.entering, chunk⟩ => some { state with holder := some ⟨.waiting false, chunk⟩ }
  | _ => none

/-- Only the time-out goes back to the condition of the loop. -/
def State.wake (state : State) (cause : Wake) : Option State :=
  match state.holder with
  | some ⟨.waiting notified, chunk⟩ =>
      if cause = .notified ∧ notified = false then none
      else
        some { state with
          holder := some ⟨if cause = .timedOut then .testing else .leaving, chunk⟩ }
  | _ => none

/-- `sendData` from the loop on; returning releases `m_sendSyncMutex`. -/
def State.startWrite (state : State) (chunk : List UInt8) : State :=
  { state with
    inSendMode := true
    streamSend := state.streamSend ++ chunk
    holder := none
    writes := state.writes ++ [⟨state.streamSend ++ chunk, 0, .inProgress⟩] }

/-! ## The library and the handler -/

/-- Some of the bytes of a write reach the wire. -/
def State.transfer (state : State) (index count : Nat) (write : Write) : State :=
  { state with
    writes := state.writes.set index { write with transferred := write.transferred + count }
    wire := state.wire ++ (write.content.drop write.transferred).take count }

/-- The operation ends with the bytes transferred so far. -/
def State.complete (state : State) (index : Nat) (write : Write) (code : Option ErrorCode) :
    State :=
  { state with
    streamSend := consume state.streamSend write.transferred
    writes := state.writes.set index { write with stage := .completed code } }

/-- `m_cv.notify_one()`: only the holder of `m_sendSyncMutex` can be waiting. -/
def Caller.notify (caller : Caller) : Caller :=
  match caller.phase with
  | .waiting _ => { caller with phase := .waiting true }
  | _ => caller

def State.handlerWrite (state : State) (index bytesTransmited : Nat) : State :=
  { state with
    streamSend := consume state.streamSend bytesTransmited
    inSendMode := false
    holder := state.holder.map Caller.notify
    writes := state.writes.eraseIdx index }

section Step
variable (crc : List UInt8 → UInt32) (protobuf : Codecs)

/-- The effect of a step is what it passes to `onSessionError_`. -/
def step (state : State) : Event → Option (State × List ErrorCode)
  | .sendData s => some (state.sendData (CommonProcessor.prepareData crc protobuf s), [])
  | .acquire index => (state.acquire index).map fun next => (next, [])
  | .test => state.test.map fun next => (next, [])
  | .enterWait => state.enterWait.map fun next => (next, [])
  | .wake cause => (state.wake cause).map fun next => (next, [])
  | .startWrite =>
      match state.holder with
      | some ⟨.leaving, chunk⟩ => some (state.startWrite chunk, [])
      | _ => none
  | .transfer index count =>
      match state.writes[index]? with
      | some write =>
          if write.stage = .inProgress ∧ write.transferred + count ≤ write.content.length then
            some (state.transfer index count write, [])
          else none
      | none => none
  | .complete index code =>
      match state.writes[index]? with
      | some write =>
          if write.stage = .inProgress then some (state.complete index write code, []) else none
      | none => none
  | .handlerWrite index =>
      match state.writes[index]? with
      | some ⟨_, transferred, .completed code⟩ =>
          some (state.handlerWrite index transferred, (code.bind forwarded).toList)
      | _ => none
  | .close => some ({ state with isOpen := false }, [])

end Step

/-! ## What is noted of a run -/

structure Completion where
  transferred : Nat
  size : Nat
  code : Option ErrorCode
  deriving DecidableEq

/-- The frames in the order their callers passed `m_sendSyncMutex`, those of them
whose write was started, and the finished operations. -/
structure History where
  passed : List (List UInt8)
  started : List (List UInt8)
  completions : List Completion
  deriving DecidableEq

def note (state : State) (event : Event) (_effects : List ErrorCode) (history : History) :
    History :=
  match event with
  | .acquire index => { history with passed := history.passed ++ state.blocked[index]?.toList }
  | .startWrite =>
      { history with started := history.started ++ (state.holder.map Caller.chunk).toList }
  | .complete index code =>
      { history with
        completions := history.completions ++
          (state.writes[index]?.map fun write =>
            ⟨write.transferred, write.content.length, code⟩).toList }
  | _ => history

def machine (crc : List UInt8 → UInt32) (protobuf : Codecs) :
    State × History → Event → Option (State × History) :=
  Lib.Runs.observed (step crc protobuf) note

def start : State × History := (connected, ⟨[], [], []⟩)

end Emserver.TcpSession.Sending
