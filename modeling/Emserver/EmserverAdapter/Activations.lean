import Emserver.EmserverAdapter

/-!
# Sensor activations at the user

`onSensorActivatedResponse` of `client/src/emserveradapter.cpp` and the
registrations of `client/src/emserverfacade.cpp`.  The handler hands on what
`nativeActivatedSensor` returned, and that is null for a message whose state
cannot be decoded.
-/

set_option autoImplicit false

namespace Emserver.EmserverAdapter

open Emserver.Protobuf
open Emserver.EmserverProcessor
open Emserver.DataConverter

/-! ## User callbacks -/

inductive MethodCallbackCode where
  | connectedStateChanged
  | responseServerError
  | responseCapabilities
  | sensorActivated
  deriving DecidableEq

/-- The `std::function` types of the façade. -/
inductive ClientCallbackType where
  | emserverConnectedStateChanging
  | emserverResponseCapabilities
  | emserverResponseSensorActivation
  | emserverServerRuntimeNotification
  deriving DecidableEq

section Callbacks
variable {U : Type}

structure ClientCallback (U : Type) where
  type : ClientCallbackType
  callback : U

structure ClientCallbacks (U : Type) where
  m_clientCallbacks : MethodCallbackCode → Option (ClientCallback U)

def ClientCallbacks.empty : ClientCallbacks U := ⟨fun _ => none⟩

def ClientCallbacks.registerCallback (callbacks : ClientCallbacks U)
    (code : MethodCallbackCode) (callbackFuncPtr : ClientCallback U) : ClientCallbacks U :=
  ⟨fun other =>
    if other = code then some callbackFuncPtr else callbacks.m_clientCallbacks other⟩

def ClientCallbacks.registerCallbackConnectedStateChanged (callbacks : ClientCallbacks U)
    (ptrConnected : U) : ClientCallbacks U :=
  callbacks.registerCallback .connectedStateChanged
    ⟨.emserverConnectedStateChanging, ptrConnected⟩

def ClientCallbacks.registerCallbackCapabilities (callbacks : ClientCallbacks U)
    (ptrCaps : U) : ClientCallbacks U :=
  callbacks.registerCallback .responseCapabilities ⟨.emserverResponseCapabilities, ptrCaps⟩

def ClientCallbacks.registerCallbackSensorActivated (callbacks : ClientCallbacks U)
    (ptrSensActive : U) : ClientCallbacks U :=
  callbacks.registerCallback .sensorActivated
    ⟨.emserverResponseSensorActivation, ptrSensActive⟩

def ClientCallbacks.registerCallbackServerRuntimeNotifications
    (callbacks : ClientCallbacks U) (ptrErrorHandler : U) : ClientCallbacks U :=
  callbacks.registerCallback .responseServerError
    ⟨.emserverServerRuntimeNotification, ptrErrorHandler⟩

/-- A call of one of the façade's registrations. -/
inductive FacadeRegistration (U : Type) where
  | connectedStateChanged (ptrConnected : U)
  | capabilities (ptrCaps : U)
  | sensorActivated (ptrSensActive : U)
  | serverRuntimeNotifications (ptrErrorHandler : U)

def ClientCallbacks.register (callbacks : ClientCallbacks U) :
    FacadeRegistration U → ClientCallbacks U
  | .connectedStateChanged ptrConnected =>
      callbacks.registerCallbackConnectedStateChanged ptrConnected
  | .capabilities ptrCaps => callbacks.registerCallbackCapabilities ptrCaps
  | .sensorActivated ptrSensActive => callbacks.registerCallbackSensorActivated ptrSensActive
  | .serverRuntimeNotifications ptrErrorHandler =>
      callbacks.registerCallbackServerRuntimeNotifications ptrErrorHandler

def ClientCallbacks.registerAll (callbacks : ClientCallbacks U) :
    List (FacadeRegistration U) → ClientCallbacks U
  | [] => callbacks
  | registration :: rest => (callbacks.register registration).registerAll rest

/-- A call of the user's activation callback; `none` is the null pointer. -/
structure ActivationCall (U : Type) where
  callback : U
  sensorState : Option SensorState
  id : Int64
  deriving DecidableEq

def ClientCallbacks.onSensorActivatedResponse (callbacks : ClientCallbacks U)
    (protobuf : Codecs) (sensor : SensorActivated) (id : Int64) :
    Except BadAnyCast (List (ActivationCall U)) :=
  match callbacks.m_clientCallbacks .sensorActivated with
  | none => .ok []
  | some ptr =>
      if ptr.type = .emserverResponseSensorActivation then
        .ok [⟨ptr.callback, nativeActivatedSensor protobuf sensor, id⟩]
      else .error .badAnyCast

def FacadeRegistration.activation : FacadeRegistration U → Option U
  | .sensorActivated ptrSensActive => some ptrSensActive
  | _ => none

/-- The activation callback the user registered last. -/
def latestActivation : List (FacadeRegistration U) → Option U
  | [] => none
  | registration :: rest => (latestActivation rest).or registration.activation

/-- Only `registerCallbackSensorActivated` fills the slot, and under its own type. -/
theorem register_sensorActivated (callbacks : ClientCallbacks U)
    (registration : FacadeRegistration U) :
    (callbacks.register registration).m_clientCallbacks .sensorActivated =
      (registration.activation.map (ClientCallback.mk .emserverResponseSensorActivation)).or
        (callbacks.m_clientCallbacks .sensorActivated) := by
  cases registration <;> rfl

theorem registerAll_sensorActivated (callbacks : ClientCallbacks U)
    (registrations : List (FacadeRegistration U)) :
    (callbacks.registerAll registrations).m_clientCallbacks .sensorActivated =
      ((latestActivation registrations).map
        (ClientCallback.mk .emserverResponseSensorActivation)).or
        (callbacks.m_clientCallbacks .sensorActivated) := by
  induction registrations generalizing callbacks with
  | nil => rfl
  | cons registration rest ih =>
      rw [ClientCallbacks.registerAll, ih, register_sensorActivated, latestActivation]
      cases latestActivation rest <;> rfl

/-- The user behind the façade is called once, with what the conversion returned. -/
theorem onSensorActivatedResponse_eq (protobuf : Codecs)
    (registrations : List (FacadeRegistration U)) (sensor : SensorActivated) (id : Int64) :
    (ClientCallbacks.empty.registerAll registrations).onSensorActivatedResponse protobuf
        sensor id =
      .ok ((latestActivation registrations).toList.map fun callback =>
        ⟨callback, nativeActivatedSensor protobuf sensor, id⟩) := by
  rw [ClientCallbacks.onSensorActivatedResponse, registerAll_sensorActivated]
  cases latestActivation registrations <;> rfl

end Callbacks

/-! ## States in messages -/

section Codecs
variable (protobuf : Codecs)

inductive EncodedState : SensorActivated → SensorState → Prop where
  | dryContact (id : Int32) (bytes : List UInt8) (state : Bool)
      (parses : protobuf.sensorDryContactState.parseFromString bytes = (⟨some state⟩, true)) :
      EncodedState ⟨some id, some .stDryContact, some bytes⟩ (.dryContact ⟨id, state⟩)
  | temperature (id : Int32) (bytes : List UInt8) (value : Int32)
      (parses : protobuf.sensorTemperatureState.parseFromString bytes = (⟨some value⟩, true)) :
      EncodedState ⟨some id, some .stTemperature, some bytes⟩ (.temperature ⟨id, value⟩)

/-- The type is known, and the value is there and parses as a state of that type. -/
def ActivationParses (sensor : SensorActivated) : Prop :=
  ∃ bytes, sensor.sensorValue = some bytes ∧
    ((sensor.type = some .stDryContact ∧
        (protobuf.sensorDryContactState.parseFromString bytes).2 = true) ∨
      (sensor.type = some .stTemperature ∧
        (protobuf.sensorTemperatureState.parseFromString bytes).2 = true))

/-- The user is called with the state in the message, or not at all. -/
def DeliversEncoded {U : Type} (user : Option U) (sensor : SensorActivated) (id : Int64)
    (calls : List (ActivationCall U)) : Prop :=
  (∀ call ∈ calls, user = some call.callback ∧ call.id = id ∧
    ∃ state, call.sensorState = some state ∧ EncodedState protobuf sensor state) ∧
  ((∀ state, ¬ EncodedState protobuf sensor state) → calls = [])

structure ActivationsChecked : Prop where
  sensorActivated : protobuf.sensorActivated.ChecksRequired
  dryContact : protobuf.sensorDryContactState.ChecksRequired
  temperature : protobuf.sensorTemperatureState.ChecksRequired

variable {protobuf : Codecs} (checked : ActivationsChecked protobuf)

theorem encodedState_parses (sensor : SensorActivated) (state : SensorState)
    (encoded : EncodedState protobuf sensor state) : ActivationParses protobuf sensor := by
  cases encoded with
  | dryContact id bytes state parses => exact ⟨bytes, rfl, .inl ⟨rfl, by rw [parses]⟩⟩
  | temperature id bytes value parses => exact ⟨bytes, rfl, .inr ⟨rfl, by rw [parses]⟩⟩

include checked

theorem dryContactState_cases (bytes : List UInt8) :
    (∃ state, protobuf.sensorDryContactState.parseFromString bytes = (⟨some state⟩, true)) ∨
      ∃ dcState, protobuf.sensorDryContactState.parseFromString bytes = (dcState, false) := by
  apply Codec.parse_required checked.dryContact SensorDryContactState.mk
  rintro ⟨state⟩ initialized
  obtain ⟨value, rfl⟩ := Option.isSome_iff_exists.mp initialized
  exact ⟨value, rfl⟩

theorem temperatureState_cases (bytes : List UInt8) :
    (∃ value, protobuf.sensorTemperatureState.parseFromString bytes = (⟨some value⟩, true)) ∨
      ∃ tempState, protobuf.sensorTemperatureState.parseFromString bytes =
        (tempState, false) := by
  apply Codec.parse_required checked.temperature SensorTemperatureState.mk
  rintro ⟨state⟩ initialized
  obtain ⟨value, rfl⟩ := Option.isSome_iff_exists.mp initialized
  exact ⟨value, rfl⟩

/-- A message that parses is converted to the state in it. -/
theorem nativeActivatedSensor_parses (sensor : SensorActivated) (id : Int32)
    (known : sensor.sensorId = some id) (parses : ActivationParses protobuf sensor) :
    ∃ state, nativeActivatedSensor protobuf sensor = some state ∧
      EncodedState protobuf sensor state := by
  obtain ⟨sensorId, type, sensorValue⟩ := sensor
  cases known
  obtain ⟨bytes, present, ⟨kind, isOk⟩ | ⟨kind, isOk⟩⟩ := parses
  · cases present
    cases kind
    rcases dryContactState_cases checked bytes with ⟨state, parsed⟩ | ⟨dcState, parsed⟩
    · exact ⟨_, by simp [nativeActivatedSensor, parsed], .dryContact id bytes state parsed⟩
    · simp [parsed] at isOk
  · cases present
    cases kind
    rcases temperatureState_cases checked bytes with ⟨value, parsed⟩ | ⟨tempState, parsed⟩
    · exact ⟨_, by simp [nativeActivatedSensor, parsed], .temperature id bytes value parsed⟩
    · simp [parsed] at isOk

/-- What the client's processor hands to the handler has its required fields. -/
theorem dispatched_sensorId (message : List UInt8) (outcome : Outcome ClientHandler)
    (run : receive protobuf message = .ok outcome) (sensor : SensorActivated) (id : Int64)
    (member : ⟨.onSensorActivatedResponse, .sensorActivated sensor, id⟩ ∈ outcome.invoked) :
    ∃ sensorId, sensor.sensorId = some sensorId := by
  obtain ⟨_, envelope, _, _, parsed, _⟩ :=
    recieved_inv protobuf clientProcessor _ outcome run _ member
  have initialized : (sensor.sensorId.isSome && sensor.type.isSome) = true :=
    checked.sensorActivated _ sensor parsed
  rw [Bool.and_eq_true] at initialized
  exact Option.isSome_iff_exists.mp initialized.1

/-- A dispatched activation reaches the user as it should exactly when the user
does not listen or the message carries a state of a known type. -/
theorem activation_callbacks_iff {U : Type} (registrations : List (FacadeRegistration U))
    (message : List UInt8) (outcome : Outcome ClientHandler)
    (run : receive protobuf message = .ok outcome) (sensor : SensorActivated) (id : Int64)
    (member : ⟨.onSensorActivatedResponse, .sensorActivated sensor, id⟩ ∈ outcome.invoked) :
    ∃ calls, (ClientCallbacks.empty.registerAll registrations).onSensorActivatedResponse
        protobuf sensor id = .ok calls ∧
      (DeliversEncoded protobuf (latestActivation registrations) sensor id calls ↔
        latestActivation registrations = none ∨ ActivationParses protobuf sensor) := by
  obtain ⟨sensorId, known⟩ := dispatched_sensorId checked message outcome run sensor id member
  refine ⟨_, onSensorActivatedResponse_eq protobuf registrations sensor id, ?_⟩
  cases latestActivation registrations with
  | none =>
      constructor
      · intro delivers
        exact .inl rfl
      · intro silent
        exact ⟨nofun, fun _ => rfl⟩
  | some callback =>
      constructor
      · rintro ⟨encoded, _⟩
        obtain ⟨_, _, state, _, holds⟩ := encoded _ List.mem_cons_self
        exact .inr (encodedState_parses sensor state holds)
      · intro condition
        have parses : ActivationParses protobuf sensor :=
          condition.resolve_left (Option.some_ne_none callback)
        obtain ⟨state, converted, holds⟩ :=
          nativeActivatedSensor_parses checked sensor sensorId known parses
        refine ⟨?_, fun missing => absurd holds (missing state)⟩
        intro call called
        cases List.mem_singleton.mp called
        exact ⟨rfl, rfl, state, converted, holds⟩

end Codecs

theorem wire_activationsChecked : ActivationsChecked wire where
  sensorActivated := sensorActivatedSchema.codec_checksRequired
  dryContact := sensorDryContactStateSchema.codec_checksRequired
  temperature := sensorTemperatureStateSchema.codec_checksRequired

/-- An activation without a value. -/
def noValue : SensorActivated := ⟨some 1, some .stTemperature, none⟩

def noValueMessage : List UInt8 :=
  makeMessage wire .sensorActivated (some (.sensorActivated noValue)) (-1)

theorem noValue_dispatched :
    receive wire noValueMessage =
      .ok ⟨true, [⟨.onSensorActivatedResponse, .sensorActivated noValue, -1⟩]⟩ := by
  decide +kernel

theorem noValue_null :
    receive wire noValueMessage =
        .ok ⟨true, [⟨.onSensorActivatedResponse, .sensorActivated noValue, -1⟩]⟩ ∧
      (ClientCallbacks.empty.registerAll [.sensorActivated ()]).onSensorActivatedResponse
        wire noValue (-1) = .ok [⟨(), none, -1⟩] ∧
      ¬ DeliversEncoded wire (some ()) noValue (-1) [⟨(), none, -1⟩] := by
  refine ⟨noValue_dispatched, rfl, ?_⟩
  rintro ⟨encoded, _⟩
  obtain ⟨_, _, state, present, _⟩ := encoded _ List.mem_cons_self
  contradiction

theorem activation_callbacks_noValue :
    ∃ calls, (ClientCallbacks.empty.registerAll [.sensorActivated ()]).onSensorActivatedResponse
        wire noValue (-1) = .ok calls ∧
      (DeliversEncoded wire (some ()) noValue (-1) calls ↔
        some () = none ∨ ActivationParses wire noValue) :=
  activation_callbacks_iff wire_activationsChecked [.sensorActivated ()] noValueMessage _
    noValue_dispatched noValue (-1) List.mem_cons_self

end Emserver.EmserverAdapter
