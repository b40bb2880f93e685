import Emserver.CommonProcessor
import Emserver.Lib.Runs

/-!
# The worker thread

`CommonProcessor` (`common/src/commonprocessor.cpp`) with its threads apart: the
worker at each statement of `bufferProcessingThreadFunc` that reads or writes
shared data, the io thread on its way through `onReadedChunk`, and the thread
that runs the destructor, which sets `m_needExit` without the mutex.
-/

set_option autoImplicit false

namespace Emserver.CommonProcessor.Worker

open Emserver.BaseProtocol
open Emserver.BufferProcessor
open Emserver.Protobuf
open Lib.Runs

/-- Where the worker is: at the condition of the loop, at the lock, at `empty()`,
in `wait_for` or on its way out of it, at the swap, behind `lg.unlock()`, in the
loop over the extracted messages, and in it behind its test of `m_needExit`. -/
inductive Control where
  | testing
  | locking
  | examining
  | waiting (notified : Bool)
  | relocking (timedOut : Bool)
  | swapping
  | unlocked (acceptedChunks : List (List UInt8))
  | handing (messages : List Message)
  | calling (cmsg : CommonMessage) (messages : List Message)
  | faulted (fault : Fault)
  | exited
  deriving DecidableEq

/-- The io thread outside `onReadedChunk`, at its `lock_guard`, and behind it. -/
inductive Acceptor where
  | idle
  | locking (dataChunk : List UInt8)
  | holding (dataChunk : List UInt8)
  deriving DecidableEq

inductive Destructor where
  | notCalled
  | notifying
  | joining
  | joined
  deriving DecidableEq

deriving instance DecidableEq for CommonProcessor.State

structure State extends CommonProcessor.State where
  control : Control
  acceptor : Acceptor
  destructor : Destructor
  deriving DecidableEq

def constructed : State := ⟨CommonProcessor.start, .testing, .idle, .notCalled⟩

/-- The worker holds `m_mutexSync`. -/
def Control.Locked : Control → Prop
  | .examining => True
  | .swapping => True
  | _ => False

instance (control : Control) : Decidable control.Locked := by
  cases control <;> unfold Control.Locked <;> infer_instance

def Acceptor.Locked : Acceptor → Prop
  | .holding _ => True
  | _ => False

instance (acceptor : Acceptor) : Decidable acceptor.Locked := by
  cases acceptor <;> unfold Acceptor.Locked <;> infer_instance

def State.MutexFree (state : State) : Prop :=
  ¬ state.control.Locked ∧ ¬ state.acceptor.Locked

instance (state : State) : Decidable state.MutexFree := by
  unfold State.MutexFree
  infer_instance

inductive Wake where
  | notified
  | timedOut
  | spurious
  deriving DecidableEq

inductive Event where
  | registerCommonMessageIncomingCallback
  | onReadedChunk (chunk : List UInt8)
  | lockAcceptor
  | pushChunk
  | advance
  | wake (cause : Wake)
  | setNeedExit
  | notifyExit
  | join
  deriving DecidableEq

/-- `m_cvNeedProcessing.notify_one()`: only the worker waits. -/
def Control.notify : Control → Control
  | .waiting _ => .waiting true
  | control => control

/-! ## The io thread and the destructor -/

def State.onReadedChunk (state : State) (chunk : List UInt8) : Option State :=
  match state.acceptor with
  | .idle => some { state with acceptor := .locking chunk }
  | _ => none

def State.lockAcceptor (state : State) : Option State :=
  match state.acceptor with
  | .locking dataChunk =>
      if state.MutexFree then some { state with acceptor := .holding dataChunk } else none
  | _ => none

/-- The rest of `onReadedChunk`, under the mutex. -/
def State.pushChunk (state : State) : Option State :=
  match state.acceptor with
  | .holding dataChunk =>
      some { state with
        acceptorBuffer := state.acceptorBuffer ++ [dataChunk]
        control := state.control.notify
        acceptor := .idle }
  | _ => none

def State.setNeedExit (state : State) : Option State :=
  match state.destructor with
  | .notCalled => some { state with needExit := true, destructor := .notifying }
  | _ => none

def State.notifyExit (state : State) : Option State :=
  match state.destructor with
  | .notifying => some { state with control := state.control.notify, destructor := .joining }
  | _ => none

def State.join (state : State) : Option State :=
  match state.destructor, state.control with
  | .joining, .exited => some { state with destructor := .joined }
  | _, _ => none

/-! ## The worker -/

/-- The waiting worker is woken; with `no_timeout` it goes on to the swap. -/
def State.wake (state : State) (cause : Wake) : Option State :=
  match state.control with
  | .waiting notified =>
      if cause = .notified ∧ notified = false then none
      else some { state with control := .relocking (decide (cause = .timedOut)) }
  | _ => none

section Step
variable (crc : List UInt8 → UInt32) (protobuf : Codecs)

/-- From the test of `m_readCallback` to the loop over the messages only the
worker's own data is read. -/
def State.process (state : State) (acceptedChunks : List (List UInt8)) : State :=
  if !state.readCallback then { state with control := .testing }
  else
    match (state.processor.appendBuffers acceptedChunks).messages crc with
    | .error fault => { state with control := .faulted fault }
    | .ok (messages, processor) =>
        { state with processor := processor, control := .handing messages }

/-- A step of the loop over the messages up to the callback. -/
def State.handMessage (state : State) : List Message → State
  | [] => { state with control := .testing }
  | message :: messages =>
      match unpack protobuf message with
      | none => { state with control := .handing messages }
      | some cmsg =>
          if !state.needExit then { state with control := .calling cmsg messages }
          else { state with control := .testing }

/-- The worker's next statement; a timed-out wait leaves its scope on `continue`. -/
def State.advance (state : State) : Option State :=
  match state.control with
  | .testing =>
      some { state with control := if !state.needExit then .locking else .exited }
  | .locking => if state.MutexFree then some { state with control := .examining } else none
  | .examining =>
      some { state with
        control := if state.acceptorBuffer.isEmpty then .waiting false else .swapping }
  | .waiting _ => none
  | .relocking timedOut =>
      if state.MutexFree then
        some { state with control := if timedOut then .testing else .swapping }
      else none
  | .swapping =>
      some { state with acceptorBuffer := [], control := .unlocked state.acceptorBuffer }
  | .unlocked acceptedChunks => some (state.process crc acceptedChunks)
  | .handing messages => some (state.handMessage protobuf messages)
  | .calling cmsg messages =>
      some { state with
        delivered := state.delivered ++ [cmsg], control := .handing messages }
  | .faulted _ => none
  | .exited => none

def step (state : State) : Event → Option State
  | .registerCommonMessageIncomingCallback => some { state with readCallback := true }
  | .onReadedChunk chunk => state.onReadedChunk chunk
  | .lockAcceptor => state.lockAcceptor
  | .pushChunk => state.pushChunk
  | .advance => state.advance crc protobuf
  | .wake cause => state.wake cause
  | .setNeedExit => state.setNeedExit
  | .notifyExit => state.notifyExit
  | .join => state.join

/-- What an `advance` can do. -/
inductive Advanced (state : State) : State → Prop where
  | running (control : state.control = .testing) (goesOn : state.needExit = false) :
      Advanced state { state with control := .locking }
  | leaves (control : state.control = .testing) (exiting : state.needExit = true) :
      Advanced state { state with control := .exited }
  | locks (control : state.control = .locking) (free : state.MutexFree) :
      Advanced state { state with control := .examining }
  | sleeps (control : state.control = .examining) (nothing : state.acceptorBuffer = []) :
      Advanced state { state with control := .waiting false }
  | finds (control : state.control = .examining) (queued : state.acceptorBuffer ≠ []) :
      Advanced state { state with control := .swapping }
  | timesOut (control : state.control = .relocking true) (free : state.MutexFree) :
      Advanced state { state with control := .testing }
  | wakes (control : state.control = .relocking false) (free : state.MutexFree) :
      Advanced state { state with control := .swapping }
  | swaps (control : state.control = .swapping) :
      Advanced state { state with
        acceptorBuffer := [], control := .unlocked state.acceptorBuffer }
  | discards (chunks : List (List UInt8)) (control : state.control = .unlocked chunks)
      (unregistered : state.readCallback = false) :
      Advanced state { state with control := .testing }
  | faults (chunks : List (List UInt8)) (fault : Fault)
      (control : state.control = .unlocked chunks) (registered : state.readCallback = true)
      (failed : (state.processor.appendBuffers chunks).messages crc = .error fault) :
      Advanced state { state with control := .faulted fault }
  | scans (chunks : List (List UInt8)) (messages : List Message) (rest : Buffer)
      (control : state.control = .unlocked chunks) (registered : state.readCallback = true)
      (scanned : (state.processor.appendBuffers chunks).messages crc = .ok (messages, rest)) :
      Advanced state { state with processor := rest, control := .handing messages }
  | finishes (control : state.control = .handing []) :
      Advanced state { state with control := .testing }
  | skips (message : Message) (messages : List Message)
      (control : state.control = .handing (message :: messages))
      (opaquely : unpack protobuf message = none) :
      Advanced state { state with control := .handing messages }
  | hands (message : Message) (messages : List Message) (cmsg : CommonMessage)
      (control : state.control = .handing (message :: messages))
      (unpacked : unpack protobuf message = some cmsg) (goesOn : state.needExit = false) :
      Advanced state { state with control := .calling cmsg messages }
  | breaks (message : Message) (messages : List Message) (cmsg : CommonMessage)
      (control : state.control = .handing (message :: messages))
      (unpacked : unpack protobuf message = some cmsg) (exiting : state.needExit = true) :
      Advanced state { state with control := .testing }
  | calls (cmsg : CommonMessage) (messages : List Message)
      (control : state.control = .calling cmsg messages) :
      Advanced state { state with
        delivered := state.delivered ++ [cmsg], control := .handing messages }

theorem process_inv (state : State) (chunks : List (List UInt8))
    (control : state.control = .unlocked chunks) :
    Advanced crc protobuf state (state.process crc chunks) := by
  rcases Bool.eq_false_or_eq_true state.readCallback with registered | unregistered
  case inr =>
    have same : state.process crc chunks = { state with control := .testing } := by
      simp only [State.process, unregistered]
      rfl
    rw [same]
    exact .discards chunks control unregistered
  rcases scanned : (state.processor.appendBuffers chunks).messages crc with fault | ⟨messages, rest⟩
  · have same : state.process crc chunks = { state with control := .faulted fault } := by
      simp only [State.process, registered, scanned]
      rfl
    rw [same]
    exact .faults chunks fault control registered scanned
  · have same : state.process crc chunks =
        { state with processor := rest, control := .handing messages } := by
      simp only [State.process, registered, scanned]
      rfl
    rw [same]
    exact .scans chunks messages rest control registered scanned

theorem handMessage_inv (state : State) (messages : List Message)
    (control : state.control = .handing messages) :
    Advanced crc protobuf state (state.handMessage protobuf messages) := by
  cases messages with
  | nil => exact .finishes control
  | cons message messages =>
      rcases unpacked : unpack protobuf message with _ | cmsg
      · simp only [State.handMessage, unpacked]
        exact .skips message messages control unpacked
      rcases Bool.eq_false_or_eq_true state.needExit with exiting | goesOn
      · simp only [State.handMessage, unpacked, exiting]
        exact .breaks message messages cmsg control unpacked exiting
      · simp only [State.handMessage, unpacked, goesOn]
        exact .hands message messages cmsg control unpacked goesOn

theorem advance_inv (state next : State) (taken : state.advance crc protobuf = some next) :
    Advanced crc protobuf state next := by
  unfold State.advance at taken
  cases control : state.control <;> simp only [control] at taken
  case testing =>
    cases taken
    rcases Bool.eq_false_or_eq_true state.needExit with exiting | goesOn
    · simp only [exiting]
      exact .leaves control exiting
    · simp only [goesOn]
      exact .running control goesOn
  case locking =>
    obtain ⟨free, rfl⟩ := of_guard taken
    exact .locks control free
  case examining =>
    cases taken
    by_cases nothing : state.acceptorBuffer = []
    · simp only [nothing]
      exact .sleeps control nothing
    · simp only [List.isEmpty_eq_false_iff.mpr nothing]
      exact .finds control nothing
  case relocking timedOut =>
    obtain ⟨free, rfl⟩ := of_guard taken
    cases timedOut with
    | false => exact .wakes control free
    | true => exact .timesOut control free
  case swapping =>
    cases taken
    exact .swaps control
  case unlocked chunks =>
    cases taken
    exact process_inv crc protobuf state chunks control
  case handing messages =>
    cases taken
    exact handMessage_inv crc protobuf state messages control
  case calling cmsg messages =>
    cases taken
    exact .calls cmsg messages control
  all_goals contradiction

/-- What a step can do. -/
inductive Stepped (state : State) : Event → State → Prop where
  | registers : Stepped state .registerCommonMessageIncomingCallback
      { state with readCallback := true }
  | accepts (chunk : List UInt8) (idle : state.acceptor = .idle) :
      Stepped state (.onReadedChunk chunk) { state with acceptor := .locking chunk }
  | locks (chunk : List UInt8) (acceptor : state.acceptor = .locking chunk)
      (free : state.MutexFree) :
      Stepped state .lockAcceptor { state with acceptor := .holding chunk }
  | pushes (chunk : List UInt8) (acceptor : state.acceptor = .holding chunk) :
      Stepped state .pushChunk { state with
        acceptorBuffer := state.acceptorBuffer ++ [chunk]
        control := state.control.notify
        acceptor := .idle }
  | advances (next : State) (advanced : Advanced crc protobuf state next) :
      Stepped state .advance next
  | wakes (cause : Wake) (notified : Bool) (control : state.control = .waiting notified) :
      Stepped state (.wake cause)
        { state with control := .relocking (decide (cause = .timedOut)) }
  | exits (notCalled : state.destructor = .notCalled) :
      Stepped state .setNeedExit { state with needExit := true, destructor := .notifying }
  | notifies (notifying : state.destructor = .notifying) :
      Stepped state .notifyExit
        { state with control := state.control.notify, destructor := .joining }
  | joins (joining : state.destructor = .joining) (exited : state.control = .exited) :
      Stepped state .join { state with destructor := .joined }

theorem step_inv (state : State) (event : Event) (next : State)
    (taken : step crc protobuf state event = some next) :
    Stepped crc protobuf state event next := by
  cases event with
  | registerCommonMessageIncomingCallback =>
      cases taken
      exact .registers
  | onReadedChunk chunk =>
      simp only [step, State.onReadedChunk] at taken
      split at taken
      case h_2 => contradiction
      case h_1 idle =>
        cases taken
        exact .accepts chunk idle
  | lockAcceptor =>
      simp only [step, State.lockAcceptor] at taken
      split at taken
      case h_2 => contradiction
      case h_1 chunk locking =>
        obtain ⟨free, rfl⟩ := of_guard taken
        exact .locks chunk locking free
  | pushChunk =>
      simp only [step, State.pushChunk] at taken
      split at taken
      case h_2 => contradiction
      case h_1 chunk holding =>
        cases taken
        exact .pushes chunk holding
  | advance => exact .advances next (advance_inv crc protobuf state next taken)
  | wake cause =>
      simp only [step, State.wake] at taken
      split at taken
      case h_2 => contradiction
      case h_1 notified control =>
        split at taken
        case isTrue => contradiction
        case isFalse =>
          cases taken
          exact .wakes cause notified control
  | setNeedExit =>
      simp only [step, State.setNeedExit] at taken
      split at taken
      case h_2 => contradiction
      case h_1 notCalled =>
        cases taken
        exact .exits notCalled
  | notifyExit =>
      simp only [step, State.notifyExit] at taken
      split at taken
      case h_2 => contradiction
      case h_1 notifying =>
        cases taken
        exact .notifies notifying
  | join =>
      simp only [step, State.join] at taken
      split at taken
      case h_2 => contradiction
      case h_1 joining exited =>
        cases taken
        exact .joins joining exited

end Step

end Emserver.CommonProcessor.Worker
