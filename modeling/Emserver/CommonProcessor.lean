import Emserver.BufferProcessor
import Emserver.Protobuf

/-!
# The common processor

`common/src/commonprocessor.cpp`.  The io thread queues chunks with
`onReadedChunk`; the worker's loop body swaps the queue out, scans it and hands
the messages to the read callback.  Between two changes of the queue the loop
body is atomic, so a run is an interleaving of the two as `Event`s.
-/

set_option autoImplicit false

namespace Emserver.CommonProcessor

open Emserver.BaseProtocol
open Emserver.BufferProcessor
open Emserver.Protobuf

/-- `m_acceptorBuffer`, `m_needExit`, whether `m_readCallback` is set, the
worker's local `processor`, and the messages handed to the callback so far. -/
structure State where
  acceptorBuffer : List (List UInt8)
  needExit : Bool
  readCallback : Bool
  processor : Buffer
  delivered : List CommonMessage

def start : State := ⟨[], false, false, BufferProcessor.empty, []⟩

inductive Event where
  | registerCommonMessageIncomingCallback
  | onReadedChunk (chunk : List UInt8)
  | waitTimedOut
  | iterate
  deriving DecidableEq

section Codecs
variable (crc : List UInt8 → UInt32) (protobuf : Codecs)

def serializedContainer (s : List UInt8) : List UInt8 :=
  let msg : CommonMessage := ⟨some 1, some s⟩
  let trMsg : TransportContainer :=
    ⟨some 1, some (protobuf.commonMessage.serializeAsString msg)⟩
  protobuf.transportContainer.serializeAsString trMsg

def prepareData (s : List UInt8) : List UInt8 :=
  (create (serializedContainer protobuf s)).makeProtocolMessage crc

/-- What one extracted message hands to the callback; the result of the inner
parse is not looked at. -/
def unpack (message : Message) : Option CommonMessage :=
  let (trMsg, isExtracted) := protobuf.transportContainer.parseFromString message.payload
  if isExtracted && isInitialized trMsg then
    trMsg.payload.map fun payload => (protobuf.commonMessage.parseFromString payload).1
  else none

/-- The body of the `while` loop, from the swap on.  An iteration first waits
while the queue is empty: `waitTimedOut` is the wait that ends in `continue`, and
as a wake-up can be spurious `iterate` also runs on an empty queue. -/
def bufferProcessingThreadFunc (state : State) : Except Fault State :=
  if state.needExit then .ok state
  else
    let acceptedChunks := state.acceptorBuffer
    let swapped := { state with acceptorBuffer := [] }
    if !state.readCallback then .ok swapped
    else do
      let (messages, processor) ← (state.processor.appendBuffers acceptedChunks).messages crc
      .ok { swapped with
        processor := processor
        delivered := state.delivered ++ messages.filterMap (unpack protobuf) }

/-- An iteration hands over what the scan of the swapped-out chunks finds. -/
theorem bufferProcessingThreadFunc_scanned (state : State) (running : state.needExit = false)
    (registered : state.readCallback = true) (messages : List Message) (rest : Buffer)
    (scanned : (state.processor.appendBuffers state.acceptorBuffer).messages crc =
      .ok (messages, rest)) :
    bufferProcessingThreadFunc crc protobuf state =
      .ok { state with
        acceptorBuffer := []
        processor := rest
        delivered := state.delivered ++ messages.filterMap (unpack protobuf) } := by
  simp only [bufferProcessingThreadFunc, running, registered, scanned]
  rfl

def step (state : State) : Event → Except Fault State
  | .registerCommonMessageIncomingCallback => .ok { state with readCallback := true }
  | .onReadedChunk chunk =>
      .ok { state with acceptorBuffer := state.acceptorBuffer ++ [chunk] }
  | .waitTimedOut => .ok state
  | .iterate => bufferProcessingThreadFunc crc protobuf state

def run (state : State) : List Event → Except Fault State
  | [] => .ok state
  | event :: rest => do
      let next ← step crc protobuf state event
      run next rest

theorem run_append (state : State) (past future : List Event) :
    run crc protobuf state (past ++ future) =
      (run crc protobuf state past).bind fun next => run crc protobuf next future := by
  induction past generalizing state with
  | nil => rfl
  | cons event rest ih =>
      simp only [List.cons_append, run, bind]
      cases step crc protobuf state event with
      | error fault => rfl
      | ok next => exact ih next

theorem run_concat (state next : State) (past : List Event) (event : Event)
    (earlier : run crc protobuf state past = .ok next) :
    run crc protobuf state (past ++ [event]) = step crc protobuf next event := by
  rw [run_append, earlier]
  simp only [Except.bind, run, bind]
  cases step crc protobuf next event <;> rfl

/-! ## Sender and receiver -/

/-- What the sender wraps, the receiver unwraps. -/
theorem unpack_serializedContainer (s : List UInt8) :
    unpack protobuf (create (serializedContainer protobuf s)) = some ⟨some 1, some s⟩ := by
  have inner := protobuf.commonMessage.roundTrip ⟨some 1, some s⟩ rfl
  have outer := protobuf.transportContainer.roundTrip
    ⟨some 1, some (protobuf.commonMessage.serializeAsString ⟨some 1, some s⟩)⟩ rfl
  simp only [unpack, create, serializedContainer, outer, isInitialized]
  simp [inner]

theorem filterMap_unpack (strings : List (List UInt8)) :
    (strings.map fun s => create (serializedContainer protobuf s)).filterMap (unpack protobuf) =
      strings.map fun s => ⟨some 1, some s⟩ := by
  induction strings with
  | nil => rfl
  | cons s rest ih => simp [unpack_serializedContainer, ih]

end Codecs

/-- The bytes the io thread has queued in a run. -/
def received : List Event → List UInt8
  | [] => []
  | .onReadedChunk chunk :: rest => chunk ++ received rest
  | .registerCommonMessageIncomingCallback :: rest => received rest
  | .waitTimedOut :: rest => received rest
  | .iterate :: rest => received rest

@[simp] theorem received_append (past future : List Event) :
    received (past ++ future) = received past ++ received future := by
  induction past with
  | nil => rfl
  | cons event rest ih => cases event <;> simp [received, ih]

end Emserver.CommonProcessor
