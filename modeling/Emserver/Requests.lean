import Mathlib.Data.List.Forall2
import Emserver.EmserverProcessor
import Emserver.DataConverter
import Emserver.Protobuf.Wire

/-!
# Requests from the client to the server

The senders of `client/src/emserveradapter.cpp` and the registrations of the
`CServer` constructor.  A session hands `sendData` strings over as the
`CommonMessage` payloads of the other side.
-/

set_option autoImplicit false

namespace Emserver.Requests

open Emserver.Protobuf
open Emserver.EmserverProcessor
open Emserver.DataConverter

/-! ## Client -/

/-- `methodCounter`, whether `m_session` is set, and what went to `sendData`. -/
structure Adapter where
  methodCounter : Int64
  session : Bool
  sent : List (List UInt8)

def wrongCallCode : Int32 := -1
def invalidSessionError : Int32 := -2

section Client
variable (protobuf : Codecs)

/-- The common body of the two senders: the call code is narrowed to `int32_t`,
and a message that could not be made is sent all the same. -/
def Adapter.send (adapter : Adapter) (code : MethodCode) (req : MethodMessage) :
    Int64 × Adapter :=
  let ret := adapter.methodCounter.toInt32
  let adapter := { adapter with methodCounter := adapter.methodCounter + 1 }
  let msg := makeMessage protobuf code (some req) ret.toInt64
  let ret := if msg.isEmpty then wrongCallCode else ret
  if adapter.session then (ret.toInt64, { adapter with sent := adapter.sent ++ [msg] })
  else (invalidSessionError.toInt64, adapter)

def Adapter.sendRequestCapabilities (adapter : Adapter) : Int64 × Adapter :=
  adapter.send protobuf .requestCapabilites (.requestCapabilities ⟨none⟩)

def Adapter.sendSensorsControl (adapter : Adapter) (sensors : List SensorBase) :
    Int64 × Adapter :=
  adapter.send protobuf .sensorsConfigurationControl
    (.sensorsControl (sensorsToProto protobuf sensors))

inductive Request where
  | sendRequestCapabilities
  | sendSensorsControl (sensors : List SensorBase)
  deriving DecidableEq

def Adapter.issue (adapter : Adapter) : Request → Int64 × Adapter
  | .sendRequestCapabilities => adapter.sendRequestCapabilities protobuf
  | .sendSensorsControl sensors => adapter.sendSensorsControl protobuf sensors

def Adapter.issueAll (adapter : Adapter) : List Request → Adapter
  | [] => adapter
  | request :: rest => Adapter.issueAll (adapter.issue protobuf request).2 rest

end Client

/-! ## Server -/

inductive ServerHandler where
  | callbackEmserverCapsRequest
  | callbackEmserverSensorControlRequest
  deriving DecidableEq

/-- `m_processor` as the constructor of `CServer` leaves it. -/
def serverProcessor : Processor ServerHandler :=
  ((EmserverProcessor.create 1).registerCallback .requestCapabilites
    ⟨.callbackCapabilityRequest, .callbackEmserverCapsRequest⟩).registerCallback
      .sensorControl ⟨.callbackSensorControl, .callbackEmserverSensorControlRequest⟩

section Server
variable (protobuf : Codecs)

/-- The server's processor handed one `sendData` string. -/
def handle (message : List UInt8) : Except BadAnyCast (Outcome ServerHandler) :=
  serverProcessor.callbackRecievedCommonMessage protobuf ⟨some 1, some message⟩

def handlerOf : Request → ServerHandler
  | .sendRequestCapabilities => .callbackEmserverCapsRequest
  | .sendSensorsControl _ => .callbackEmserverSensorControlRequest

def envelopeId (message : List UInt8) : Option Int64 :=
  (protobuf.serverCommonMessage.parseFromString message).1.id

/-- One message makes the server invoke the request's handler once, under the
id of the envelope, and no other. -/
def Reaches (request : Request) (message : List UInt8) : Prop :=
  ∃ outcome, handle protobuf message = .ok outcome ∧
    ∃ argument id, outcome.invoked = [⟨handlerOf request, argument, id⟩] ∧
      envelopeId protobuf message = some id

def AllReach (adapter : Adapter) (requests : List Request) : Prop :=
  ∃ messages, (adapter.issueAll protobuf requests).sent = adapter.sent ++ messages ∧
    List.Forall₂ (Reaches protobuf) requests messages

/-! ## One request -/

/-- What a request puts in its envelope. -/
def requestMessage : Request → MethodCode × MethodMessage
  | .sendRequestCapabilities => (.requestCapabilites, .requestCapabilities ⟨none⟩)
  | .sendSensorsControl sensors =>
      (.sensorsConfigurationControl, .sensorsControl (sensorsToProto protobuf sensors))

theorem requestMessage_initialized (request : Request) :
    (requestMessage protobuf request).2.isInitialized = true := by
  cases request with
  | sendRequestCapabilities => rfl
  | sendSensorsControl sensors =>
      simp [requestMessage, sensorsToProto_eq, MethodMessage.isInitialized, isInitialized]

theorem issue_eq (adapter : Adapter) (request : Request) :
    adapter.issue protobuf request =
      adapter.send protobuf (requestMessage protobuf request).1
        (requestMessage protobuf request).2 := by
  cases request <;> rfl

/-- The string a request sends over a live session. -/
def requestBytes (adapter : Adapter) (request : Request) : List UInt8 :=
  makeMessage protobuf (requestMessage protobuf request).1
    (some (requestMessage protobuf request).2) adapter.methodCounter.toInt32.toInt64

theorem issue_live (adapter : Adapter) (request : Request) (live : adapter.session = true) :
    (adapter.issue protobuf request).2 =
      ⟨adapter.methodCounter + 1, true,
        adapter.sent ++ [requestBytes protobuf adapter request]⟩ := by
  rw [issue_eq]
  simp [Adapter.send, live, requestBytes]

theorem envelopeId_requestBytes (adapter : Adapter) (request : Request) :
    envelopeId protobuf (requestBytes protobuf adapter request) =
      some adapter.methodCounter.toInt32.toInt64 := by
  have initialized := requestMessage_initialized protobuf request
  rw [envelopeId, requestBytes, parse_makeMessage protobuf _ _ _ initialized]

theorem handle_requestBytes (adapter : Adapter) (request : Request) :
    handle protobuf (requestBytes protobuf adapter request) =
      serverProcessor.dispatch protobuf (requestMessage protobuf request).1.value
        ((requestMessage protobuf request).2.serializeAsString protobuf)
        adapter.methodCounter.toInt32.toInt64 :=
  recieved_makeMessage protobuf serverProcessor _ _ _
    (requestMessage_initialized protobuf request)

/-- A capabilities request is handled; a sensor-control request is sent under a
code the server does not dispatch. -/
theorem reaches_iff (adapter : Adapter) (request : Request) :
    Reaches protobuf request (requestBytes protobuf adapter request) ↔
      request = .sendRequestCapabilities := by
  have id := envelopeId_requestBytes protobuf adapter request
  have handled := handle_requestBytes protobuf adapter request
  cases request with
  | sendRequestCapabilities =>
      have dispatched := dispatch_own_code protobuf serverProcessor
        (.requestCapabilities ⟨none⟩) adapter.methodCounter.toInt32.toInt64 rfl
      refine ⟨fun _ => rfl, fun _ => ⟨_, handled.trans dispatched, _, _, rfl, id⟩⟩
  | sendSensorsControl sensors =>
      constructor
      · rintro ⟨outcome, run, argument, code, invoked, _⟩
        have dropped := handled.trans
          (dispatch_sensorsConfigurationControl protobuf serverProcessor _ _)
        rw [dropped] at run
        cases run
        simp at invoked
      · intro impossible
        contradiction

/-! ## Sequences of requests -/

theorem issueAll_sent (adapter : Adapter) (requests : List Request)
    (live : adapter.session = true) :
    ∃ messages, (adapter.issueAll protobuf requests).sent = adapter.sent ++ messages ∧
      (List.Forall₂ (Reaches protobuf) requests messages ↔
        ∀ request ∈ requests, request = .sendRequestCapabilities) := by
  induction requests generalizing adapter with
  | nil => exact ⟨[], by simp [Adapter.issueAll], by simp⟩
  | cons request rest ih =>
      obtain ⟨messages, sent, reach⟩ := ih (adapter.issue protobuf request).2
        (by rw [issue_live protobuf adapter request live])
      refine ⟨requestBytes protobuf adapter request :: messages, ?_, ?_⟩
      · rw [Adapter.issueAll, sent, issue_live protobuf adapter request live]
        simp
      · rw [List.forall₂_cons, reach, reaches_iff, List.forall_mem_cons]

/-- Every request of a sequence reaches its handler exactly when the sequence
consists of capabilities requests. -/
theorem requests_reach_handlers_iff (protobuf : Codecs) (adapter : Adapter)
    (requests : List Request) (live : adapter.session = true) :
    AllReach protobuf adapter requests ↔
      ∀ request ∈ requests, request = .sendRequestCapabilities := by
  obtain ⟨messages, sent, reach⟩ := issueAll_sent protobuf adapter requests live
  rw [← reach]
  constructor
  · rintro ⟨others, same, all⟩
    rw [sent] at same
    rwa [List.append_cancel_left same]
  · intro all
    exact ⟨messages, sent, all⟩

theorem requests_reach_handlers_iff_twice :
    AllReach wire ⟨1, true, []⟩ [.sendRequestCapabilities, .sendRequestCapabilities] :=
  (requests_reach_handlers_iff wire ⟨1, true, []⟩ _ rfl).mpr (by simp)

theorem sensorsControl_not_handled :
    handle wire (requestBytes wire ⟨1, true, []⟩ (.sendSensorsControl [])) =
        .ok ⟨false, []⟩ ∧
      ¬ AllReach wire ⟨1, true, []⟩ [.sendSensorsControl []] := by
  refine ⟨by decide +kernel, ?_⟩
  rintro ⟨messages, sent, reach⟩
  have image : messages = [requestBytes wire ⟨1, true, []⟩ (.sendSensorsControl [])] :=
    sent.symm
  rw [image, List.forall₂_cons, reaches_iff] at reach
  exact absurd reach.1 (by decide)

end Server
end Emserver.Requests
