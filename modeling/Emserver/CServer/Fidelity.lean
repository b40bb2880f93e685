import Emserver.CServer
import Emserver.EmserverAdapter

/-!
# Sensor data from server to client

The server's conversions and the client's agree field by field: a capabilities
list or a sensor state of known kinds arrives as it was sent, and anything else
is refused without a message of its kind.
-/

set_option autoImplicit false

namespace Emserver.CServer

open Emserver.Protobuf hiding Capabilities
open Emserver.EmserverProcessor
open Emserver.EmserverAdapter

/-! ## The same sensor on both sides -/

/-- Kind, id and watch state or level agree. -/
def SameConfiguration : SensorBase → DataConverter.SensorBase → Prop
  | .dryContact id watchState _, .dryContact otherId _ triggeredState =>
      id = otherId ∧ watchState = triggeredState
  | .temperature id watchLevel _, .temperature otherId _ tresholdLevel =>
      id = otherId ∧ watchLevel = tresholdLevel
  | .dryContact _ _ _, .temperature _ _ _ => False
  | .temperature _ _ _, .dryContact _ _ _ => False
  | .other _ _, _ => False

/-- Kind, id and current value agree. -/
def SameState : SensorBase → DataConverter.SensorState → Prop
  | .dryContact id _ currentState, .dryContact state =>
      id = state.id ∧ currentState = state.state
  | .temperature id _ currentValue, .temperature state =>
      id = state.id ∧ currentValue = state.temperatureValue
  | .dryContact _ _ _, .temperature _ => False
  | .temperature _ _ _, .dryContact _ => False
  | .other _ _, _ => False

section Codecs
variable (protobuf : Codecs)

/-- The server writes for a sensor what the client would for the same one. -/
theorem protoEntry_client (sensor : SensorBase) (known : sensor.Known) :
    ∃ client, SameConfiguration sensor client ∧ client.initial = client ∧
      protoEntry protobuf sensor = DataConverter.configurationToProto protobuf client := by
  cases sensor with
  | dryContact id watchState currentState =>
      exact ⟨.dryContact id none watchState, ⟨rfl, rfl⟩, rfl, rfl⟩
  | temperature id watchLevel currentValue =>
      exact ⟨.temperature id none watchLevel, ⟨rfl, rfl⟩, rfl, rfl⟩
  | other id type => contradiction

theorem fromCaps_protoEntries (sensors : List SensorBase)
    (known : ∀ sensor ∈ sensors, sensor.Known) :
    List.Forall₂ SameConfiguration sensors
      (DataConverter.fromCaps protobuf ⟨sensors.map (protoEntry protobuf)⟩) := by
  induction sensors with
  | nil => exact .nil
  | cons sensor rest ih =>
      obtain ⟨client, same, initial, entry⟩ :=
        protoEntry_client protobuf sensor (known sensor List.mem_cons_self)
      have converted := DataConverter.nativeSensor_configurationToProto protobuf client
      rw [← entry, initial] at converted
      have tail := ih fun other member => known other (List.mem_cons_of_mem sensor member)
      rw [DataConverter.fromCaps, List.map_cons, List.filterMap_cons_some converted]
      exact .cons same tail

theorem nativeActivatedSensor_active (sensor : SensorBase) (known : sensor.Known) :
    ∃ state, DataConverter.nativeActivatedSensor protobuf
        (activeSensorFromNative protobuf (some sensor)) = some state ∧
      SameState sensor state := by
  cases sensor with
  | dryContact id watchState currentState =>
      have parsed := protobuf.sensorDryContactState.roundTrip ⟨some currentState⟩ rfl
      refine ⟨.dryContact ⟨id, currentState⟩, ?_, rfl, rfl⟩
      simp [DataConverter.nativeActivatedSensor, activeSensorFromNative, parsed]
  | temperature id watchLevel currentValue =>
      have parsed := protobuf.sensorTemperatureState.roundTrip ⟨some currentValue⟩ rfl
      refine ⟨.temperature ⟨id, currentValue⟩, ?_, rfl, rfl⟩
      simp [DataConverter.nativeActivatedSensor, activeSensorFromNative, parsed]
  | other id type => contradiction

/-! ## One call -/

/-- The call returns 0 and sends one message, which the client hands to its
capabilities handler once, under the same id, with the same sensors. -/
def CapabilitiesDelivered (server : Server) (id : Int64) (caps : Capabilities)
    (sensors : List SensorBase) : Prop :=
  ∃ after message received,
    server.sendCapabilities protobuf id caps = .ok (0, after) ∧
      after.sent = server.sent ++ [message] ∧
      messageType protobuf message = some MethodCode.responseCapabilities.value ∧
      receive protobuf message =
        .ok ⟨true, [⟨.onCapabilitiesResponse, .capabilities received, id⟩]⟩ ∧
      List.Forall₂ SameConfiguration sensors (DataConverter.fromCaps protobuf received)

def OnlyResults (messages : List (List UInt8)) : Prop :=
  ∀ message ∈ messages,
    messageType protobuf message = some MethodCode.serverRuntimeNotification.value

/-- The call returns -1 and sends no capabilities message. -/
def CapabilitiesRefused (server : Server) (id : Int64) (caps : Capabilities) : Prop :=
  ∃ after messages, server.sendCapabilities protobuf id caps = .ok (-1, after) ∧
    after.sent = server.sent ++ messages ∧ OnlyResults protobuf messages

/-- The call returns 0 and sends one message, which the client hands to its
activation handler once, under the same id, with the same state. -/
def ActivationDelivered (server : Server) (id : Int64) (sensor : SensorBase) : Prop :=
  ∃ after message received state,
    server.sendActivatedSensorState protobuf id (some sensor) = (0, after) ∧
      after.sent = server.sent ++ [message] ∧
      receive protobuf message =
        .ok ⟨true, [⟨.onSensorActivatedResponse, .sensorActivated received, id⟩]⟩ ∧
      DataConverter.nativeActivatedSensor protobuf received = some state ∧
      SameState sensor state

def ActivationRefused (server : Server) (id : Int64) (pSensor : Option SensorBase) : Prop :=
  ∃ after messages, server.sendActivatedSensorState protobuf id pSensor = (-1, after) ∧
    after.sent = server.sent ++ messages ∧ OnlyResults protobuf messages

theorem sendMethodCallResult_sent (server : Server) (callID : UInt32) (code : Int32) :
    ∃ messages, (server.sendMethodCallResult protobuf callID code).sent =
      server.sent ++ messages ∧ OnlyResults protobuf messages := by
  have nothing : OnlyResults protobuf [] := by
    intro message member
    contradiction
  unfold Server.sendMethodCallResult
  dsimp only
  split
  · exact ⟨[], by simp, nothing⟩
  · split
    · refine ⟨[resultMessage protobuf callID code], rfl, ?_⟩
      intro message member
      rw [List.mem_singleton.mp member]
      exact messageType_resultMessage protobuf callID code
    · exact ⟨[], by simp, nothing⟩

section Live
variable (server : Server) (live : server.session = true) (id : Int64)
include live

theorem sendCapabilities_known (caps : Capabilities) (sensors : List SensorBase)
    (visited : caps.sensors.visit = .ok sensors)
    (known : ∀ sensor ∈ sensors, sensor.Known) :
    CapabilitiesDelivered protobuf server id caps sensors := by
  have call := sendCapabilities_live protobuf server live id caps sensors visited
  have initialized := (protoEntries_initialized protobuf sensors).trans (decide_eq_true known)
  rw [if_pos known] at call
  refine ⟨_, _, ⟨sensors.map (protoEntry protobuf)⟩, call, rfl, ?_, ?_,
    fromCaps_protoEntries protobuf sensors known⟩
  · exact messageType_makeMessage protobuf _ _ id initialized
  · exact receive_makeMessage protobuf
      (.capabilities ⟨sensors.map (protoEntry protobuf)⟩) id initialized

theorem sendCapabilities_unknown (caps : Capabilities) (sensors : List SensorBase)
    (visited : caps.sensors.visit = .ok sensors)
    (unknown : ∃ sensor ∈ sensors, ¬ sensor.Known) :
    CapabilitiesRefused protobuf server id caps := by
  have call := sendCapabilities_live protobuf server live id caps sensors visited
  have missing : ¬ ∀ sensor ∈ sensors, sensor.Known := by
    intro known
    obtain ⟨sensor, member, bad⟩ := unknown
    exact bad (known sensor member)
  obtain ⟨messages, sent, results⟩ :=
    sendMethodCallResult_sent protobuf server (methodId id) (-1)
  rw [if_neg missing] at call
  exact ⟨_, messages, call, sent, results⟩

theorem sendActivatedSensorState_known (sensor : SensorBase) (known : sensor.Known) :
    ActivationDelivered protobuf server id sensor := by
  have pointer : KnownPointer (some sensor) := known
  have call := sendActivatedSensorState_live protobuf server live id (some sensor)
  have initialized := (activeSensor_initialized protobuf (some sensor)).trans
    (decide_eq_true pointer)
  obtain ⟨state, converted, same⟩ := nativeActivatedSensor_active protobuf sensor known
  rw [if_pos pointer] at call
  refine ⟨_, _, activeSensorFromNative protobuf (some sensor), state, call, rfl, ?_,
    converted, same⟩
  exact receive_makeMessage protobuf
    (.sensorActivated (activeSensorFromNative protobuf (some sensor))) id initialized

theorem sendActivatedSensorState_unknown (pSensor : Option SensorBase)
    (unknown : ¬ KnownPointer pSensor) : ActivationRefused protobuf server id pSensor := by
  have call := sendActivatedSensorState_live protobuf server live id pSensor
  obtain ⟨messages, sent, results⟩ :=
    sendMethodCallResult_sent protobuf server (methodId id) (-1)
  rw [if_neg unknown] at call
  exact ⟨_, messages, call, sent, results⟩

/-- Sensor data arrives as it was sent, or not at all. -/
theorem sensor_data_fidelity :
    (∀ caps sensors, caps.sensors.visit = .ok sensors →
      ((∀ sensor ∈ sensors, sensor.Known) →
        CapabilitiesDelivered protobuf server id caps sensors) ∧
      ((∃ sensor ∈ sensors, ¬ sensor.Known) →
        CapabilitiesRefused protobuf server id caps)) ∧
    (∀ sensor, sensor.Known → ActivationDelivered protobuf server id sensor) ∧
    (∀ pSensor, ¬ KnownPointer pSensor → ActivationRefused protobuf server id pSensor) := by
  refine ⟨?_, sendActivatedSensorState_known protobuf server live id,
    sendActivatedSensorState_unknown protobuf server live id⟩
  intro caps sensors visited
  exact ⟨sendCapabilities_known protobuf server live id caps sensors visited,
    sendCapabilities_unknown protobuf server live id caps sensors visited⟩

end Live
end Codecs

def twoSensors : List SensorBase := [.dryContact 1 true false, .other 2 sensorUnknown]

theorem sensor_data_fidelity_twoSensors :
    CapabilitiesDelivered wire ⟨true, true, true, []⟩ 5 ⟨1, some (twoSensors.map some)⟩
        [.dryContact 1 true false] ∧
      CapabilitiesRefused wire ⟨true, true, true, []⟩ 5 ⟨2, some (twoSensors.map some)⟩ ∧
      ActivationDelivered wire ⟨true, true, true, []⟩ 5 (.temperature 3 40 45) ∧
      ActivationRefused wire ⟨true, true, true, []⟩ 5 none := by
  obtain ⟨capabilities, known, unknown⟩ :=
    sensor_data_fidelity wire ⟨true, true, true, []⟩ rfl 5
  refine ⟨(capabilities _ _ rfl).1 (by decide), (capabilities _ twoSensors rfl).2 ?_,
    known _ trivial, unknown none id⟩
  exact ⟨.other 2 sensorUnknown, by decide, by decide⟩

end Emserver.CServer
