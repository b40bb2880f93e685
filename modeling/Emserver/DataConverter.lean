import Emserver.Protobuf

/-!
# Sensor conversion on the client

`client/hdr/interop_sensors.h`, `client/src/interop_sensors.cpp` and
`client/src/dataconverter.cpp`.
-/

set_option autoImplicit false

namespace Emserver.DataConverter

open Emserver.Protobuf

namespace SensorDryContact

structure State where
  id : Int32
  state : Bool
  deriving DecidableEq

end SensorDryContact

namespace SensorTemperature

structure State where
  id : Int32
  temperatureValue : Int32
  deriving DecidableEq

end SensorTemperature

/-- `ISensorState` is implemented by the two state classes. -/
inductive SensorState where
  | dryContact (state : SensorDryContact.State)
  | temperature (state : SensorTemperature.State)
  deriving DecidableEq

/-- The two subclasses of `SensorBase` with their fields.  `m_currentState` of
either points to a state of any class: `updateState` casts without a check. -/
inductive SensorBase where
  | dryContact (id : Int32) (currentState : Option SensorState) (triggeredState : Bool)
  | temperature (id : Int32) (currentState : Option SensorState) (tresholdLevel : Int32)
  deriving DecidableEq

/-- The constructors set no current state. -/
def SensorBase.initial : SensorBase → SensorBase
  | .dryContact id _ triggeredState => .dryContact id none triggeredState
  | .temperature id _ tresholdLevel => .temperature id none tresholdLevel

/-! ## `interop_sensors.h` -/

inductive SensorType where
  | typeUnknown
  | typeDryContact
  | typeTemperature
  deriving DecidableEq

def SensorState.sensorId : SensorState → Int32
  | .dryContact state => state.id
  | .temperature state => state.id

def SensorBase.type : SensorBase → SensorType
  | .dryContact _ _ _ => .typeDryContact
  | .temperature _ _ _ => .typeTemperature

def SensorBase.sensorId : SensorBase → Int32
  | .dryContact id _ _ => id
  | .temperature id _ _ => id

def SensorBase.state : SensorBase → Option SensorState
  | .dryContact _ currentState _ => currentState
  | .temperature _ currentState _ => currentState

/-- `static_pointer_cast` takes the pointer as it is: the result is null only if
`state` was. -/
def staticPointerCast (state : Option SensorState) : Option SensorState := state

/-- The body the two `updateState` share: the pointer is stored unless it is
null before or after the cast. -/
def updatedState (currentState state : Option SensorState) : Option SensorState :=
  match state with
  | none => currentState
  | some _ =>
      match staticPointerCast state with
      | none => currentState
      | some ptr => some ptr

def SensorBase.updateState (sensor : SensorBase) (state : Option SensorState) : SensorBase :=
  match sensor with
  | .dryContact id currentState triggeredState =>
      .dryContact id (updatedState currentState state) triggeredState
  | .temperature id currentState tresholdLevel =>
      .temperature id (updatedState currentState state) tresholdLevel

/-! ## `dataconverter.cpp` -/

section Codecs
variable (protobuf : Codecs)

/-- The `SensorConfiguration` the loop of `sensorsToProto` fills. -/
def configurationToProto : SensorBase → SensorConfiguration
  | .dryContact id _ triggeredState =>
      ⟨some id, some .stDryContact,
        some (protobuf.configurationDryContact.serializeAsString ⟨some triggeredState⟩)⟩
  | .temperature id _ tresholdLevel =>
      ⟨some id, some .stTemperature,
        some (protobuf.configurationTemperature.serializeAsString ⟨some tresholdLevel⟩)⟩

/-- The loop fills a local `conf` for each sensor and drops it. -/
def sensorsToProto (nativeSensors : List SensorBase) : SensorsControl :=
  nativeSensors.foldl
    (fun ret sensor =>
      let _conf := configurationToProto protobuf sensor
      ret)
    ⟨[]⟩

theorem sensorsToProto_eq (nativeSensors : List SensorBase) :
    sensorsToProto protobuf nativeSensors = ⟨[]⟩ := by
  unfold sensorsToProto
  induction nativeSensors with
  | nil => rfl
  | cons sensor rest ih => exact ih

/-- The result of `ParseFromString` is dropped: a configuration that does not
parse counts as far as it was read. -/
def nativeSensor (protoSensor : SensorConfiguration) : Option SensorBase :=
  match protoSensor.type.getD .stUnknown with
  | .stDryContact =>
      let (sensConf, _) := protobuf.configurationDryContact.parseFromString
        (protoSensor.specificConfiguration.getD [])
      some (.dryContact (protoSensor.id.getD 0) none (sensConf.state.getD true))
  | .stTemperature =>
      let (sensTemp, _) := protobuf.configurationTemperature.parseFromString
        (protoSensor.specificConfiguration.getD [])
      some (.temperature (protoSensor.id.getD 0) none (sensTemp.level.getD 0))
  | .stUnknown => none

def fromCaps (caps : Capabilities) : List SensorBase :=
  caps.systemConfiguration.filterMap (nativeSensor protobuf)

def sensorsFromProto (protoSensors : SensorsControl) : List SensorBase :=
  protoSensors.config.filterMap (nativeSensor protobuf)

def nativeActivatedSensor (protoSensor : SensorActivated) : Option SensorState :=
  match protoSensor.type.getD .stUnknown with
  | .stDryContact =>
      let (dcState, isOk) := protobuf.sensorDryContactState.parseFromString
        (protoSensor.sensorValue.getD [])
      if !isOk then none
      else some (.dryContact ⟨protoSensor.sensorId.getD 0, dcState.state.getD false⟩)
  | .stTemperature =>
      let (tempState, isOk) := protobuf.sensorTemperatureState.parseFromString
        (protoSensor.sensorValue.getD [])
      if !isOk then none
      else some (.temperature ⟨protoSensor.sensorId.getD 0, tempState.value.getD 0⟩)
  | .stUnknown => none

/-! ## One sensor -/

theorem nativeSensor_configurationToProto (sensor : SensorBase) :
    nativeSensor protobuf (configurationToProto protobuf sensor) = some sensor.initial := by
  cases sensor with
  | dryContact id currentState triggeredState =>
      have parsed := protobuf.configurationDryContact.roundTrip ⟨some triggeredState⟩ rfl
      simp [nativeSensor, configurationToProto, parsed, SensorBase.initial]
  | temperature id currentState tresholdLevel =>
      have parsed := protobuf.configurationTemperature.roundTrip ⟨some tresholdLevel⟩ rfl
      simp [nativeSensor, configurationToProto, parsed, SensorBase.initial]

theorem nativeSensors_configurations (sensors : List SensorBase) :
    (sensors.map (configurationToProto protobuf)).filterMap (nativeSensor protobuf) =
      sensors.map SensorBase.initial := by
  induction sensors with
  | nil => rfl
  | cons sensor rest ih =>
      rw [List.map_cons, List.filterMap_cons_some
        (nativeSensor_configurationToProto protobuf sensor), ih, List.map_cons]

end Codecs
end Emserver.DataConverter
