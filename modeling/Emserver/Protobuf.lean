import Mathlib.Data.List.Basic

/-!
# The messages of `protocol/proto`

A `proto2` message is a record whose singular fields are options: `has_x` is
`isSome`, and an accessor returns the declared default for an absent field.
Serialization is a parameter: a `Codec` for each message type, of which only
`parse (serialize m) = m` is assumed.
-/

set_option autoImplicit false

namespace Emserver.Protobuf

/-! ## `common.proto` -/

structure CommonMessage where
  code : Option UInt32
  payload : Option (List UInt8)
  deriving DecidableEq, Repr

structure TransportContainer where
  contaiterVersion : Option Int32
  payload : Option (List UInt8)
  deriving DecidableEq

/-! ## `emserver.proto` -/

structure ServerRuntimeNotification where
  methodId : Option UInt32
  code : Option Int32
  description : Option (List UInt8)
  deriving DecidableEq

structure ServerCommonMessage where
  type : Option UInt32
  payload : Option (List UInt8)
  id : Option Int64
  deriving DecidableEq

/-! ## `sensors.proto` -/

inductive SensorsType where
  | stUnknown
  | stDryContact
  | stTemperature
  deriving DecidableEq

structure ConfigurationDryContact where
  state : Option Bool
  deriving DecidableEq

structure SensorDryContactState where
  state : Option Bool
  deriving DecidableEq

structure ConfigurationTemperature where
  level : Option Int32
  deriving DecidableEq

structure SensorTemperatureState where
  value : Option Int32
  deriving DecidableEq

structure SensorConfiguration where
  id : Option Int32
  type : Option SensorsType
  specificConfiguration : Option (List UInt8)
  deriving DecidableEq

structure SensorsControl where
  config : List SensorConfiguration
  deriving DecidableEq

structure SensorActivated where
  sensorId : Option Int32
  type : Option SensorsType
  sensorValue : Option (List UInt8)
  deriving DecidableEq

/-! ## `capabilities.proto` -/

structure Capabilities where
  systemConfiguration : List SensorConfiguration
  deriving DecidableEq

structure RequestCapabilities where
  dummy : Option Int32
  deriving DecidableEq

/-! ## Required fields -/

class ProtoMessage (M : Type) where
  isInitialized : M → Bool

export ProtoMessage (isInitialized)

instance : ProtoMessage CommonMessage := ⟨fun m => m.code.isSome⟩
instance : ProtoMessage TransportContainer := ⟨fun m => m.contaiterVersion.isSome⟩
instance : ProtoMessage ServerRuntimeNotification :=
  ⟨fun m => m.methodId.isSome && m.code.isSome⟩
instance : ProtoMessage ServerCommonMessage :=
  ⟨fun m => m.type.isSome && m.payload.isSome⟩
instance : ProtoMessage ConfigurationDryContact := ⟨fun m => m.state.isSome⟩
instance : ProtoMessage SensorDryContactState := ⟨fun m => m.state.isSome⟩
instance : ProtoMessage ConfigurationTemperature := ⟨fun m => m.level.isSome⟩
instance : ProtoMessage SensorTemperatureState := ⟨fun m => m.value.isSome⟩
instance : ProtoMessage SensorConfiguration :=
  ⟨fun m => m.id.isSome && m.type.isSome && m.specificConfiguration.isSome⟩
instance : ProtoMessage SensorsControl := ⟨fun m => m.config.all isInitialized⟩
instance : ProtoMessage SensorActivated :=
  ⟨fun m => m.sensorId.isSome && m.type.isSome⟩
instance : ProtoMessage Capabilities :=
  ⟨fun m => m.systemConfiguration.all isInitialized⟩
instance : ProtoMessage RequestCapabilities := ⟨fun _ => true⟩

/-! ## Serialization -/

/-- `ParseFromString` returns whether it succeeded and leaves in the target what
it read, also when it failed. -/
structure Codec (M : Type) [ProtoMessage M] where
  serializeAsString : M → List UInt8
  parseFromString : List UInt8 → M × Bool
  roundTrip : ∀ message, isInitialized message = true →
    parseFromString (serializeAsString message) = (message, true)

/-- `ParseFromString` fails for want of a required field. -/
def Codec.ChecksRequired {M : Type} [ProtoMessage M] (codec : Codec M) : Prop :=
  ∀ data message, codec.parseFromString data = (message, true) → isInitialized message = true

/-- A message of one required field parses with that field or not at all. -/
theorem Codec.parse_required {M A : Type} [ProtoMessage M] {codec : Codec M}
    (checks : codec.ChecksRequired) (wrap : Option A → M)
    (required : ∀ message, isInitialized message = true → ∃ value, message = wrap (some value))
    (data : List UInt8) :
    (∃ value, codec.parseFromString data = (wrap (some value), true)) ∨
      ∃ message, codec.parseFromString data = (message, false) := by
  cases parsed : codec.parseFromString data with
  | mk message isOk =>
      cases isOk with
      | false => exact .inr ⟨message, rfl⟩
      | true =>
          obtain ⟨value, rfl⟩ := required message (checks data message parsed)
          exact .inl ⟨value, rfl⟩

structure Codecs where
  commonMessage : Codec CommonMessage
  transportContainer : Codec TransportContainer
  serverRuntimeNotification : Codec ServerRuntimeNotification
  serverCommonMessage : Codec ServerCommonMessage
  configurationDryContact : Codec ConfigurationDryContact
  sensorDryContactState : Codec SensorDryContactState
  configurationTemperature : Codec ConfigurationTemperature
  sensorTemperatureState : Codec SensorTemperatureState
  sensorsControl : Codec SensorsControl
  sensorActivated : Codec SensorActivated
  capabilities : Codec Capabilities
  requestCapabilities : Codec RequestCapabilities

end Emserver.Protobuf
