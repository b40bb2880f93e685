import Emserver.CServer.Fidelity
import Emserver.CServer.Results
import Emserver.DataConverter.States
import Emserver.Lib.Runs
import Emserver.Requests.Ids

/-!
# A client and a server

The example client `EmserverAdapterQt` (`examples/native_client`) on its
`EmserverAdapter`, and a `CServer`, over a live connection whose two directions
each deliver what was passed to `sendData` in order.  Both users and both worker
threads take their steps in any order: a callback of the server sends one
message a step, and other threads of the server's user send in between; the
client keeps the value that `sendRequestCapabilities` returned a step later than
the request is on its way.
-/

set_option autoImplicit false

namespace Emserver.System

open Emserver.Protobuf
open Emserver.EmserverProcessor
open Emserver.EmserverAdapter
open Lib.Runs

/-- What the callbacks of `EmserverAdapterQt` are called with. -/
inductive Heard where
  | onCapabilitiesResponse (sensors : List DataConverter.SensorBase) (id : Int64)
  | onActivatedSensor (sensorState : Option DataConverter.SensorState) (id : Int64)
  | onServerRuntimeNotification (error : ErrorDescriptor)
  deriving DecidableEq

/-- The adapter, the keys of `m_calls`, the value returned by the last request as long
as it was not looked at, `m_sensors`, and the callbacks so far. -/
structure Client where
  adapter : Requests.Adapter
  calls : List Int32
  ret : Option Int32
  sensors : List DataConverter.SensorBase
  heard : List Heard

/-- A capabilities request whose callback is running. -/
structure Handling where
  id : Int64
  sends : List CServer.Send
  code : Int32

/-- `taken` counts the messages of the client that the server's worker has taken, and
`received` those of the server that the client's worker has. -/
structure State where
  client : Client
  server : CServer.Server
  handling : Option Handling
  taken : Nat
  received : Nat

/-- The client's process is fresh, and the server's callbacks are registered. -/
def connected : State where
  client := ⟨Requests.fresh, [], none, [], []⟩
  server := ⟨true, true, true, []⟩
  handling := none
  taken := 0
  received := 0

inductive Event where
  | sendRequestCapabilities
  | recordCall
  | take (callback : CServer.Behaviour)
  | perform
  | finish
  | send (send : CServer.Send)
  | runtimeError (code : Int32) (err : List UInt8)
  | receive

/-! ## The client -/

section Client
variable (protobuf : Codecs)

/-- `EmserverAdapterQt::sendRequestCapabilities` up to the comparison with 0. -/
def Client.sendRequestCapabilities (client : Client) : Client :=
  let (ret, adapter) := client.adapter.sendRequestCapabilities protobuf
  { client with adapter := adapter, ret := some ret.toInt32 }

/-- The rest of it; `m_calls` is a map. -/
def Client.recordCall (client : Client) (ret : Int32) : Client :=
  { client with
    calls := if 0 ≤ ret then client.calls.insert ret else client.calls
    ret := none }

def Client.onCapabilitiesResponse (client : Client) (caps : Protobuf.Capabilities)
    (id : Int64) : Client :=
  let sensors := DataConverter.fromCaps protobuf caps
  { client with
    sensors := sensors, heard := client.heard ++ [.onCapabilitiesResponse sensors id] }

/-- A null state is read through, unless there is no sensor to compare it with. -/
def Client.onActivatedSensor (client : Client) (sensor : SensorActivated) (id : Int64) :
    Option Client :=
  let proxySensor := DataConverter.nativeActivatedSensor protobuf sensor
  let client := { client with heard := client.heard ++ [.onActivatedSensor proxySensor id] }
  match proxySensor with
  | none => if client.sensors = [] then some client else none
  | some sensorState =>
      some { client with
        sensors := DataConverter.onActivatedSensor client.sensors sensorState }

/-- Either way a result takes its call out of `m_calls`. -/
def Client.onServerRuntimeNotification (client : Client) (error : ErrorDescriptor) : Client :=
  { client with
    calls := if error.methodCode ≠ 0 then client.calls.erase error.methodCode.toInt32
      else client.calls
    heard := client.heard ++ [.onServerRuntimeNotification error] }

/-- The handlers of `EmserverAdapter`, with the callbacks registered on them. -/
def Client.invoked (client : Client) (invocation : Invocation ClientHandler) : Option Client :=
  match invocation.handler, invocation.message with
  | .onCapabilitiesResponse, .capabilities caps =>
      some (client.onCapabilitiesResponse protobuf caps invocation.id)
  | .onSensorActivatedResponse, .sensorActivated sensor =>
      client.onActivatedSensor protobuf sensor invocation.id
  | .onServerRuntimeNotification, .serverRuntimeNotification error =>
      some (client.onServerRuntimeNotification
        (EmserverAdapter.onServerRuntimeNotification error))
  | _, _ => none

def Client.receive (client : Client) (message : List UInt8) : Option Client :=
  match EmserverAdapter.receive protobuf message with
  | .error _ => none
  | .ok outcome =>
      match outcome.invoked with
      | [] => some client
      | invocation :: _ => client.invoked protobuf invocation

end Client

/-! ## The server -/

section Server
variable (protobuf : Codecs)

/-- `callbackEmserverCapsRequest` up to the call of the user's callback. -/
def beginCapsRequest (server : CServer.Server) (req : RequestCapabilities) (id : Int64)
    (callback : CServer.Behaviour) : CServer.Server × Option Handling :=
  if !isInitialized req then
    (server.sendMethodCallResult protobuf (CServer.methodId id) (-2), none)
  else if server.onClientCapsRequest then (server, some ⟨id, callback.sends, callback.code⟩)
  else (server.sendMethodCallResult protobuf (CServer.methodId id) (-1), none)

def invokeServer (server : CServer.Server) (callback : CServer.Behaviour)
    (invocation : Invocation Requests.ServerHandler) :
    Option (CServer.Server × Option Handling) :=
  match invocation.handler, invocation.message with
  | .callbackEmserverCapsRequest, .requestCapabilities req =>
      some (beginCapsRequest protobuf server req invocation.id callback)
  | .callbackEmserverSensorControlRequest, .sensorsControl req =>
      (server.callbackEmserverSensorControlRequest protobuf req invocation.id
        callback).toOption.map fun after => (after, none)
  | _, _ => none

/-- The worker of the server with the next message of the client. -/
def takeMessage (server : CServer.Server) (callback : CServer.Behaviour)
    (message : List UInt8) : Option (CServer.Server × Option Handling) :=
  match Requests.handle protobuf message with
  | .error _ => none
  | .ok outcome =>
      match outcome.invoked with
      | [] => some (server, none)
      | invocation :: _ => invokeServer protobuf server callback invocation

end Server

/-! ## Steps -/

section Step
variable (protobuf : Codecs)

/-- A fault of the server's user ends the run. -/
def step (state : State) : Event → Option State
  | .sendRequestCapabilities =>
      match state.client.ret with
      | none => some { state with client := state.client.sendRequestCapabilities protobuf }
      | some _ => none
  | .recordCall =>
      state.client.ret.map fun ret => { state with client := state.client.recordCall ret }
  | .take callback =>
      match state.handling, state.client.adapter.sent[state.taken]? with
      | none, some message =>
          (takeMessage protobuf state.server callback message).map fun (server, handling) =>
            { state with server := server, handling := handling, taken := state.taken + 1 }
      | _, _ => none
  | .perform =>
      match state.handling with
      | some ⟨id, send :: sends, code⟩ =>
          (state.server.perform protobuf send).toOption.map fun server =>
            { state with server := server, handling := some ⟨id, sends, code⟩ }
      | _ => none
  | .finish =>
      match state.handling with
      | some ⟨id, [], code⟩ =>
          some { state with
            server := state.server.sendMethodCallResult protobuf (CServer.methodId id) code
            handling := none }
      | _ => none
  | .send send =>
      (state.server.perform protobuf send).toOption.map fun server =>
        { state with server := server }
  | .runtimeError code err =>
      some { state with server := state.server.runtimeError protobuf code err }
  | .receive =>
      match state.server.sent[state.received]? with
      | some message =>
          (state.client.receive protobuf message).map fun client =>
            { state with client := client, received := state.received + 1 }
      | none => none

/-- The rest of a callback in a row. -/
theorem perform_run (state : State) (id : Int64) (sends : List CServer.Send) (code : Int32)
    (running : state.handling = some ⟨id, sends, code⟩) :
    run (step protobuf) state (List.replicate sends.length .perform ++ [.finish]) =
      (state.server.performAll protobuf sends).toOption.map fun server =>
        { state with
          server := server.sendMethodCallResult protobuf (CServer.methodId id) code
          handling := none } := by
  induction sends generalizing state with
  | nil =>
      simp only [List.length_nil, List.replicate_zero, List.nil_append, run, step, running,
        Option.bind_some]
      rfl
  | cons send rest ih =>
      rw [List.length_cons, List.replicate_succ, List.cons_append, run,
        CServer.Server.performAll]
      simp only [step, running]
      cases performed : state.server.perform protobuf send with
      | error fault => rfl
      | ok server => exact ih { state with server := server, handling := _ } rfl

/-- Where no other step comes between them, the steps of a callback are the
handler of `CServer`. -/
theorem callback_run (state : State) (idle : state.handling = none) (message : List UInt8)
    (sent : state.client.adapter.sent[state.taken]? = some message)
    (req : RequestCapabilities) (id : Int64)
    (handled : Requests.handle protobuf message =
      .ok ⟨true, [⟨.callbackEmserverCapsRequest, .requestCapabilities req, id⟩]⟩)
    (initialized : isInitialized req = true)
    (registered : state.server.onClientCapsRequest = true) (callback : CServer.Behaviour) :
    run (step protobuf) state
        (.take callback :: (List.replicate callback.sends.length .perform ++ [.finish])) =
      (state.server.callbackEmserverCapsRequest protobuf req id callback).toOption.map
        fun server =>
          { state with server := server, handling := none, taken := state.taken + 1 } := by
  have begun : step protobuf state (.take callback) =
      some { state with
        handling := some ⟨id, callback.sends, callback.code⟩
        taken := state.taken + 1 } := by
    simp [step, idle, sent, takeMessage, handled, invokeServer, beginCapsRequest, initialized,
      registered]
  rw [run_cons _ _ _ _ _ begun, perform_run protobuf _ id callback.sends callback.code rfl]
  simp only [CServer.Server.callbackEmserverCapsRequest, initialized, registered]
  cases state.server.performAll protobuf callback.sends with
  | error fault => rfl
  | ok server => rfl

end Step

/-! ## What the server publishes -/

/-- A message of the server, as its user sees it. -/
inductive Publication where
  | configuration (sensors : List CServer.SensorBase) (id : Int64)
  | activation (sensor : CServer.SensorBase) (id : Int64)
  | notification (methodId : UInt32) (code : Int32) (description : Option (List UInt8))
  deriving DecidableEq

def Publication.Known : Publication → Prop
  | .configuration sensors _ => ∀ sensor ∈ sensors, sensor.Known
  | .activation sensor _ => sensor.Known
  | .notification _ _ _ => True

/-- What a call of the server's user publishes: data it cannot convert comes out as a
result under the id of the call. -/
def publication : CServer.Send → Option Publication
  | .sendCapabilities id caps =>
      caps.sensors.visit.toOption.map fun sensors =>
        if ∀ sensor ∈ sensors, sensor.Known then .configuration sensors id
        else .notification (CServer.methodId id) (-1) none
  | .sendActiveSensor id pSensor =>
      match pSensor with
      | none => some (.notification (CServer.methodId id) (-1) none)
      | some sensor =>
          if sensor.Known then some (.activation sensor id)
          else some (.notification (CServer.methodId id) (-1) none)

section Messages
variable (protobuf : Codecs)

def Publication.message : Publication → List UInt8
  | .configuration sensors id => CServer.capabilitiesMessage protobuf id sensors
  | .activation sensor id => CServer.activatedMessage protobuf id (some sensor)
  | .notification methodId code description =>
      makeMessage protobuf .serverRuntimeNotification
        (some (.serverRuntimeNotification ⟨some methodId, some code, description⟩)) (-1)

theorem publication_known (send : CServer.Send) (published : Publication)
    (made : publication send = some published) : published.Known := by
  cases send with
  | sendCapabilities id caps =>
      obtain ⟨sensors, _, rfl⟩ := Option.map_eq_some_iff.mp made
      split
      case isTrue known => exact known
      case isFalse => trivial
  | sendActiveSensor id pSensor =>
      cases pSensor with
      | none =>
          cases made
          trivial
      | some sensor =>
          simp only [publication] at made
          split at made
          case isTrue known =>
            cases made
            exact known
          case isFalse =>
            cases made
            trivial

theorem runtimeError_published (server : CServer.Server) (live : server.session = true)
    (code : Int32) (err : List UInt8) :
    server.runtimeError protobuf code err =
      server.sendData ((Publication.notification 0 code (some err)).message protobuf) := by
  rw [CServer.Server.runtimeError, live]
  rfl

section Live
variable (rejects : RejectsEmptyEnvelope protobuf)
variable (server : CServer.Server) (live : server.session = true)
include rejects live

theorem sendMethodCallResult_published (methodId : UInt32) (code : Int32) :
    server.sendMethodCallResult protobuf methodId code =
      server.sendData ((Publication.notification methodId code none).message protobuf) :=
  CServer.sendMethodCallResult_live protobuf server live rejects methodId code

/-- A call of the server's user faults or sends what it publishes. -/
theorem perform_published (send : CServer.Send) :
    (server.perform protobuf send).toOption =
      (publication send).map fun published =>
        server.sendData (published.message protobuf) := by
  have refused := sendMethodCallResult_published protobuf rejects server live
  cases send with
  | sendCapabilities id caps =>
      cases visited : caps.sensors.visit with
      | error fault =>
          simp [CServer.Server.perform, CServer.Server.sendCapabilities, CServer.protoSensors,
            visited, bind, Except.bind, publication, Except.toOption]
      | ok sensors =>
          have call := CServer.sendCapabilities_live protobuf server live id caps sensors visited
          by_cases known : ∀ sensor ∈ sensors, sensor.Known
          · rw [if_pos known] at call
            simp only [CServer.Server.perform, call, publication, visited, Except.toOption,
              Option.map_some, if_pos known]
            rfl
          · rw [if_neg known, refused] at call
            simp only [CServer.Server.perform, call, publication, visited, Except.toOption,
              Option.map_some, if_neg known]
            rfl
  | sendActiveSensor id pSensor =>
      have call := CServer.sendActivatedSensorState_live protobuf server live id pSensor
      cases pSensor with
      | none =>
          have pointer : ¬ CServer.KnownPointer none := fun known => known
          rw [if_neg pointer, refused] at call
          simp only [CServer.Server.perform, call, publication, Except.toOption, Option.map_some]
      | some sensor =>
          by_cases known : sensor.Known
          · have pointer : CServer.KnownPointer (some sensor) := known
            rw [if_pos pointer] at call
            simp only [CServer.Server.perform, call, publication, Except.toOption,
              Option.map_some, if_pos known]
            rfl
          · have pointer : ¬ CServer.KnownPointer (some sensor) := known
            rw [if_neg pointer, refused] at call
            simp only [CServer.Server.perform, call, publication, Except.toOption,
              Option.map_some, if_neg known]

end Live

/-! ## What the client hears of it -/

def clientSensor : CServer.SensorBase → Option DataConverter.SensorBase
  | .dryContact id watchState _ => some (.dryContact id none watchState)
  | .temperature id watchLevel _ => some (.temperature id none watchLevel)
  | .other _ _ => none

def clientState : CServer.SensorBase → Option DataConverter.SensorState
  | .dryContact id _ currentState => some (.dryContact ⟨id, currentState⟩)
  | .temperature id _ currentValue => some (.temperature ⟨id, currentValue⟩)
  | .other _ _ => none

def Publication.heard : Publication → Heard
  | .configuration sensors id => .onCapabilitiesResponse (sensors.filterMap clientSensor) id
  | .activation sensor id => .onActivatedSensor (clientState sensor) id
  | .notification methodId code description =>
      .onServerRuntimeNotification
        ⟨methodId.toUInt64.toInt64, code, description.getD []⟩

theorem nativeSensor_protoEntry (sensor : CServer.SensorBase) (known : sensor.Known) :
    DataConverter.nativeSensor protobuf (CServer.protoEntry protobuf sensor) =
      clientSensor sensor := by
  cases sensor with
  | dryContact id watchState currentState =>
      exact DataConverter.nativeSensor_configurationToProto protobuf
        (.dryContact id none watchState)
  | temperature id watchLevel currentValue =>
      exact DataConverter.nativeSensor_configurationToProto protobuf
        (.temperature id none watchLevel)
  | other id type => exact known.elim

theorem fromCaps_published (sensors : List CServer.SensorBase)
    (known : ∀ sensor ∈ sensors, sensor.Known) :
    DataConverter.fromCaps protobuf ⟨sensors.map (CServer.protoEntry protobuf)⟩ =
      sensors.filterMap clientSensor := by
  rw [DataConverter.fromCaps, List.filterMap_map]
  apply List.filterMap_congr
  intro sensor member
  exact nativeSensor_protoEntry protobuf sensor (known sensor member)

theorem nativeActivatedSensor_published (sensor : CServer.SensorBase) (known : sensor.Known) :
    DataConverter.nativeActivatedSensor protobuf
      (CServer.activeSensorFromNative protobuf (some sensor)) = clientState sensor := by
  obtain ⟨state, converted, same⟩ :=
    CServer.nativeActivatedSensor_active protobuf sensor known
  rw [converted]
  cases sensor with
  | dryContact id watchState currentState =>
      cases state with
      | dryContact state =>
          obtain ⟨rfl, rfl⟩ := same
          rfl
      | temperature state => exact same.elim
  | temperature id watchLevel currentValue =>
      cases state with
      | dryContact state => exact same.elim
      | temperature state =>
          obtain ⟨rfl, rfl⟩ := same
          rfl
  | other id type => exact known.elim

/-- The key in `m_calls` of the call it is the result of. -/
def Publication.result : Publication → Option Int32
  | .configuration _ _ => none
  | .activation _ _ => none
  | .notification methodId _ _ =>
      if methodId.toUInt64.toInt64 ≠ 0 then some methodId.toUInt64.toInt64.toInt32 else none

def Publication.callsAfter (published : Publication) (calls : List Int32) : List Int32 :=
  match published.result with
  | none => calls
  | some call => calls.erase call

theorem callsAfter_notification (methodId : UInt32) (code : Int32)
    (description : Option (List UInt8)) (calls : List Int32) :
    (Publication.notification methodId code description).callsAfter calls =
      if methodId.toUInt64.toInt64 ≠ 0 then calls.erase methodId.toUInt64.toInt64.toInt32
      else calls := by
  rw [Publication.callsAfter, Publication.result]
  by_cases answers : methodId.toUInt64.toInt64 ≠ 0
  · rw [if_pos answers, if_pos answers]
  · rw [if_neg answers, if_neg answers]

def Publication.sensorsAfter (published : Publication)
    (sensors : List DataConverter.SensorBase) : List DataConverter.SensorBase :=
  match published with
  | .configuration sensors _ => sensors.filterMap clientSensor
  | .activation sensor _ =>
      ((clientState sensor).map (DataConverter.onActivatedSensor sensors)).getD sensors
  | .notification _ _ _ => sensors

/-- The client's part of a publication. -/
def Client.hear (client : Client) (published : Publication) : Client :=
  { client with
    calls := published.callsAfter client.calls
    sensors := published.sensorsAfter client.sensors
    heard := client.heard ++ [published.heard] }

theorem Client.receive_makeMessage (client : Client) (handler : ClientHandler)
    (message : MethodMessage) (id : Int64) (initialized : message.isInitialized = true)
    (registered : clientProcessor.invoke message id = .ok ⟨true, [⟨handler, message, id⟩]⟩) :
    client.receive protobuf (makeMessage protobuf message.code (some message) id) =
      client.invoked protobuf ⟨handler, message, id⟩ := by
  have received := (EmserverAdapter.receive_makeMessage protobuf message id initialized).trans
    registered
  simp only [Client.receive, received]

theorem receive_published (client : Client) (published : Publication)
    (known : published.Known) :
    client.receive protobuf (published.message protobuf) = some (client.hear published) := by
  cases published with
  | configuration sensors id =>
      have initialized :=
        (CServer.protoEntries_initialized protobuf sensors).trans (decide_eq_true known)
      have received := client.receive_makeMessage protobuf .onCapabilitiesResponse
        (.capabilities ⟨sensors.map (CServer.protoEntry protobuf)⟩) id initialized rfl
      have converted := fromCaps_published protobuf sensors known
      refine received.trans ?_
      simp only [Client.invoked, Client.onCapabilitiesResponse, converted]
      rfl
  | activation sensor id =>
      have initialized :=
        (CServer.activeSensor_initialized protobuf (some sensor)).trans (decide_eq_true known)
      have received := client.receive_makeMessage protobuf .onSensorActivatedResponse
        (.sensorActivated (CServer.activeSensorFromNative protobuf (some sensor))) id
        initialized rfl
      have converted := nativeActivatedSensor_published protobuf sensor known
      refine received.trans ?_
      simp only [Client.invoked, Client.onActivatedSensor, converted]
      cases sensor with
      | dryContact id watchState currentState => rfl
      | temperature id watchLevel currentValue => rfl
      | other id type => exact known.elim
  | notification methodId code description =>
      have received := client.receive_makeMessage protobuf .onServerRuntimeNotification
        (.serverRuntimeNotification ⟨some methodId, some code, description⟩) (-1) rfl rfl
      refine received.trans ?_
      rw [Client.hear, callsAfter_notification]
      rfl

end Messages

end Emserver.System
