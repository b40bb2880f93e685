import Emserver.Requests

/-!
# The native server

The structures of `cserver/api_sensors.h` and the conversions, senders and
request handlers of `cserver/cserver.cpp`.  A pointer is an option, and an
access through null or outside an array is a fault.

A user callback is what it does while it runs: the calls it makes to
`send_capabilities` and `send_activesensor`, and the code it returns.
-/

set_option autoImplicit false

namespace Emserver.CServer

open Emserver.Protobuf hiding Capabilities
open Emserver.EmserverProcessor

/-! ## `api_sensors.h` -/

/-- A value of `SensorType` other than `sensorDryContact` and `sensorTemperature`. -/
abbrev OtherType := { code : UInt32 // code ≠ 1 ∧ code ≠ 2 }

def sensorUnknown : OtherType := ⟨0, by decide⟩

/-- The structure behind a `SensorBase` pointer, told apart by its `type`. -/
inductive SensorBase where
  | dryContact (id : Int32) (watchState currentState : Bool)
  | temperature (id : Int32) (watchLevel currentValue : Int32)
  | other (id : Int32) (type : OtherType)
  deriving DecidableEq

inductive Fault where
  | nullPointer
  | outOfBounds (index : Nat)
  deriving DecidableEq

/-- `hardware` points to an array of sensor pointers.  The count is a plain
number: `config_size`, from which the server sets it, is a non-negative `int`. -/
structure Sensors where
  sensorsCount : Nat
  hardware : Option (List (Option SensorBase))
  deriving DecidableEq

structure Capabilities where
  sensors : Sensors
  deriving DecidableEq

/-- The pointer `hardware[i]`. -/
def Sensors.read (sensors : Sensors) (i : Nat) : Except Fault (Option SensorBase) :=
  match sensors.hardware with
  | none => .error .nullPointer
  | some entries =>
      match entries[i]? with
      | none => .error (.outOfBounds i)
      | some entry => .ok entry

/-- The sensor `*hardware[i]`. -/
def Sensors.sensor (sensors : Sensors) (i : Nat) : Except Fault SensorBase := do
  match ← sensors.read i with
  | none => .error .nullPointer
  | some sensor => .ok sensor

/-- `hardware[i] = pSens`. -/
def Sensors.write (sensors : Sensors) (i : Nat) (pSens : SensorBase) : Except Fault Sensors :=
  match sensors.hardware with
  | none => .error .nullPointer
  | some entries =>
      if i < entries.length then
        .ok { sensors with hardware := some (entries.set i (some pSens)) }
      else .error (.outOfBounds i)

/-- The sensors at the indices below `sensorsCount`, as a loop over them meets them. -/
def Sensors.visit (sensors : Sensors) : Except Fault (List SensorBase) :=
  (List.range sensors.sensorsCount).mapM sensors.sensor

/-! ## Conversions -/

section Codecs
variable (protobuf : Codecs)

/-- What one turn of the loop of `nativeSensors` puts into the array, if anything. -/
def nativeEntry (protoSen : SensorConfiguration) : Option SensorBase :=
  if !isInitialized protoSen then none
  else
    let sensId := protoSen.id.getD 0
    match protoSen.type.getD .stUnknown with
    | .stTemperature =>
        let (conf, isOk) := protobuf.configurationTemperature.parseFromString
          (protoSen.specificConfiguration.getD [])
        if isOk then some (.temperature sensId (conf.level.getD 0) 0) else none
    | .stDryContact =>
        let (conf, isOk) := protobuf.configurationDryContact.parseFromString
          (protoSen.specificConfiguration.getD [])
        if isOk then some (.dryContact sensId (conf.state.getD true) false) else none
    | .stUnknown => none

def nativeSensorsLoop : List SensorConfiguration → Nat → Sensors → Except Fault Sensors
  | [], _, pSensors => .ok pSensors
  | protoSen :: rest, i, pSensors =>
      match nativeEntry protobuf protoSen with
      | some pSens => do
          let pSensors ← pSensors.write i pSens
          nativeSensorsLoop rest (i + 1) pSensors
      | none => nativeSensorsLoop rest (i + 1) pSensors

/-- The constructor of `Sensors` leaves `hardware` null, and nothing allocates it. -/
def nativeSensors (protoSensors : SensorsControl) : Except Fault Sensors :=
  nativeSensorsLoop protobuf protoSensors.config 0 ⟨protoSensors.config.length, none⟩

/-- The pointers that `freeSensors` deletes, in order. -/
def freeSensors (sensors : Option Sensors) : Except Fault (List (Option SensorBase)) :=
  match sensors with
  | none => .ok []
  | some sensors => (List.range sensors.sensorsCount).mapM sensors.read

/-- The entry `protoSensors` adds for a sensor: one of another type stays empty. -/
def protoEntry : SensorBase → SensorConfiguration
  | .temperature id watchLevel _ =>
      ⟨some id, some .stTemperature,
        some (protobuf.configurationTemperature.serializeAsString ⟨some watchLevel⟩)⟩
  | .dryContact id watchState _ =>
      ⟨some id, some .stDryContact,
        some (protobuf.configurationDryContact.serializeAsString ⟨some watchState⟩)⟩
  | .other _ _ => ⟨none, none, none⟩

def protoSensors (pSensors : Sensors) : Except Fault Protobuf.Capabilities := do
  let sensors ← pSensors.visit
  .ok ⟨sensors.map (protoEntry protobuf)⟩

def activeSensorFromNative (pSensor : Option SensorBase) : SensorActivated :=
  match pSensor with
  | none => ⟨none, none, none⟩
  | some (.temperature id _ currentValue) =>
      ⟨some id, some .stTemperature,
        some (protobuf.sensorTemperatureState.serializeAsString ⟨some currentValue⟩)⟩
  | some (.dryContact id _ currentState) =>
      ⟨some id, some .stDryContact,
        some (protobuf.sensorDryContactState.serializeAsString ⟨some currentState⟩)⟩
  | some (.other _ _) => ⟨none, none, none⟩

end Codecs

/-! ## The class -/

/-- Whether `m_session` is set, which callbacks are registered, and what went to
`sendData`. -/
structure Server where
  session : Bool
  onClientCapsRequest : Bool
  onSensorControlRequest : Bool
  sent : List (List UInt8)

def Server.sendData (server : Server) (message : List UInt8) : Server :=
  { server with sent := server.sent ++ [message] }

/-- The conversion of a `requestid` to the `uint32_t` parameter `callID`. -/
def methodId (id : Int64) : UInt32 := id.toUInt64.toUInt32

theorem requestid_toNat (id : Int64) (nonnegative : 0 ≤ id.toInt) :
    (id.toUInt64.toNat : Int) = id.toInt := by
  have bound := id.toUInt64.toNat_lt
  have image : id.toInt = if 2 * id.toUInt64.toNat < 2 ^ 64 then (id.toUInt64.toNat : Int)
      else id.toUInt64.toNat - (2 ^ 64 : Nat) :=
    BitVec.toInt_eq_toNat_cond id.toUInt64.toBitVec
  split at image <;> omega

/-- A call a user callback makes. -/
inductive Send where
  | sendCapabilities (id : Int64) (caps : Capabilities)
  | sendActiveSensor (id : Int64) (pSensor : Option SensorBase)

structure Behaviour where
  sends : List Send
  code : Int32

section Senders
variable (protobuf : Codecs)

def resultMessage (callID : UInt32) (code : Int32) : List UInt8 :=
  makeMessage protobuf .serverRuntimeNotification
    (some (.serverRuntimeNotification ⟨some callID, some code, none⟩)) (-1)

def Server.sendMethodCallResult (server : Server) (callID : UInt32) (code : Int32) :
    Server :=
  let resp := resultMessage protobuf callID code
  if resp.isEmpty then server
  else if server.session then server.sendData resp
  else server

/-- A notification that answers no request. -/
def Server.runtimeError (server : Server) (code : Int32) (err : List UInt8) : Server :=
  if !server.session then server
  else
    server.sendData (makeMessage protobuf .serverRuntimeNotification
      (some (.serverRuntimeNotification ⟨some 0, some code, some err⟩)) (-1))

def Server.sendCapabilities (server : Server) (id : Int64) (caps : Capabilities) :
    Except Fault (Int32 × Server) := do
  let sCaps ← protoSensors protobuf caps.sensors
  if isInitialized sCaps && server.session then
    .ok (0, server.sendData
      (makeMessage protobuf .responseCapabilities (some (.capabilities sCaps)) id))
  else if server.session then
    .ok (-1, server.sendMethodCallResult protobuf (methodId id) (-1))
  else .ok (-1, server)

def Server.sendActivatedSensorState (server : Server) (id : Int64)
    (pActivatedSensorConfig : Option SensorBase) : Int32 × Server :=
  let msg := activeSensorFromNative protobuf pActivatedSensorConfig
  if isInitialized msg && server.session then
    (0, server.sendData
      (makeMessage protobuf .sensorActivated (some (.sensorActivated msg)) id))
  else if server.session then
    (-1, server.sendMethodCallResult protobuf (methodId id) (-1))
  else (-1, server)

def Server.perform (server : Server) : Send → Except Fault Server
  | .sendCapabilities id caps => do
      let (_, server) ← server.sendCapabilities protobuf id caps
      .ok server
  | .sendActiveSensor id pSensor =>
      .ok (server.sendActivatedSensorState protobuf id pSensor).2

def Server.performAll (server : Server) : List Send → Except Fault Server
  | [] => .ok server
  | send :: rest => do
      let server ← server.perform protobuf send
      Server.performAll server rest

def Server.callbackEmserverCapsRequest (server : Server) (req : RequestCapabilities)
    (id : Int64) (callback : Behaviour) : Except Fault Server :=
  if !isInitialized req then
    .ok (server.sendMethodCallResult protobuf (methodId id) (-2))
  else if server.onClientCapsRequest then do
    let server ← server.performAll protobuf callback.sends
    .ok (server.sendMethodCallResult protobuf (methodId id) callback.code)
  else .ok (server.sendMethodCallResult protobuf (methodId id) (-1))

def Server.callbackEmserverSensorControlRequest (server : Server) (req : SensorsControl)
    (id : Int64) (callback : Behaviour) : Except Fault Server :=
  if !isInitialized req then
    .ok (server.sendMethodCallResult protobuf (methodId id) (-2))
  else if server.onSensorControlRequest then do
    let nativeConfig ← nativeSensors protobuf req
    let server ← server.performAll protobuf callback.sends
    let _ ← freeSensors (some nativeConfig)
    .ok (server.sendMethodCallResult protobuf (methodId id) callback.code)
  else .ok (server.sendMethodCallResult protobuf (methodId id) (-2))

end Senders

/-! ## What a call sends -/

/-- The sensor is a dry contact or a temperature sensor. -/
def SensorBase.Known : SensorBase → Prop
  | .dryContact _ _ _ => True
  | .temperature _ _ _ => True
  | .other _ _ => False

instance knownDecidable (sensor : SensorBase) : Decidable sensor.Known := by
  cases sensor <;> unfold SensorBase.Known <;> infer_instance

def KnownPointer : Option SensorBase → Prop
  | none => False
  | some sensor => sensor.Known

instance knownPointerDecidable (pSensor : Option SensorBase) :
    Decidable (KnownPointer pSensor) := by
  cases pSensor <;> unfold KnownPointer <;> infer_instance

section Sent
variable (protobuf : Codecs)

theorem protoEntry_initialized (sensor : SensorBase) :
    isInitialized (protoEntry protobuf sensor) = decide sensor.Known := by
  cases sensor <;> rfl

/-- One empty entry makes the whole list uninitialized. -/
theorem protoEntries_initialized (sensors : List SensorBase) :
    isInitialized (⟨sensors.map (protoEntry protobuf)⟩ : Protobuf.Capabilities) =
      decide (∀ sensor ∈ sensors, sensor.Known) := by
  induction sensors with
  | nil => rfl
  | cons sensor rest ih =>
      have head := protoEntry_initialized protobuf sensor
      simp only [isInitialized] at ih head ⊢
      rw [List.map_cons, List.all_cons, head, ih]
      simp

theorem activeSensor_initialized (pSensor : Option SensorBase) :
    isInitialized (activeSensorFromNative protobuf pSensor) =
      decide (KnownPointer pSensor) := by
  cases pSensor with
  | none => rfl
  | some sensor => cases sensor <;> rfl

def capabilitiesMessage (id : Int64) (sensors : List SensorBase) : List UInt8 :=
  makeMessage protobuf .responseCapabilities
    (some (.capabilities ⟨sensors.map (protoEntry protobuf)⟩)) id

def activatedMessage (id : Int64) (pSensor : Option SensorBase) : List UInt8 :=
  makeMessage protobuf .sensorActivated
    (some (.sensorActivated (activeSensorFromNative protobuf pSensor))) id

theorem messageType_resultMessage (callID : UInt32) (code : Int32) :
    messageType protobuf (resultMessage protobuf callID code) =
      some MethodCode.serverRuntimeNotification.value :=
  messageType_makeMessage protobuf _ _ _ rfl

section Live
variable (server : Server) (live : server.session = true)
include live

theorem sendCapabilities_live (id : Int64) (caps : Capabilities) (sensors : List SensorBase)
    (visited : caps.sensors.visit = .ok sensors) :
    server.sendCapabilities protobuf id caps =
      if ∀ sensor ∈ sensors, sensor.Known then
        .ok (0, server.sendData (capabilitiesMessage protobuf id sensors))
      else .ok (-1, server.sendMethodCallResult protobuf (methodId id) (-1)) := by
  have converted : protoSensors protobuf caps.sensors =
      .ok ⟨sensors.map (protoEntry protobuf)⟩ := by
    rw [protoSensors, visited]
    rfl
  simp only [Server.sendCapabilities, converted, bind, Except.bind,
    protoEntries_initialized, live, Bool.and_true, decide_eq_true_eq, if_true]
  rfl

theorem sendActivatedSensorState_live (id : Int64) (pSensor : Option SensorBase) :
    server.sendActivatedSensorState protobuf id pSensor =
      if KnownPointer pSensor then
        (0, server.sendData (activatedMessage protobuf id pSensor))
      else (-1, server.sendMethodCallResult protobuf (methodId id) (-1)) := by
  simp only [Server.sendActivatedSensorState, activeSensor_initialized, live, Bool.and_true,
    decide_eq_true_eq, if_true]
  rfl

theorem sendMethodCallResult_live (rejects : RejectsEmptyEnvelope protobuf)
    (callID : UInt32) (code : Int32) :
    server.sendMethodCallResult protobuf callID code =
      server.sendData (resultMessage protobuf callID code) := by
  have made : resultMessage protobuf callID code ≠ [] :=
    makeMessage_nonempty protobuf rejects _ _ _ rfl
  have nonempty : (resultMessage protobuf callID code).isEmpty = false := by simpa using made
  simp only [Server.sendMethodCallResult, nonempty, live, Bool.false_eq_true, if_false,
    if_true]

end Live
end Sent
end Emserver.CServer
