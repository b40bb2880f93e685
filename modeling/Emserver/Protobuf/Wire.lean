import Emserver.Protobuf
import Emserver.Lib.WireFormat

/-!
# The messages on the wire

The codecs of `protocol/proto` in the tag-length-value format, with the field
numbers of the `.proto` files.  Unknown fields, and enumeration values the
schema does not name, are ignored.
-/

set_option autoImplicit false

namespace Emserver.Protobuf

open Lib.WireFormat

def varintField (number : Nat) (value : Option UInt64) : List Field :=
  value.toList.map fun content => ⟨number, .varint content⟩

def bytesField (number : Nat) (value : Option (List UInt8)) : List Field :=
  value.toList.map fun content => ⟨number, .bytes content⟩

theorem varintField_numbered (number : Nat) (value : Option UInt64) (positive : 0 < number) :
    ∀ field ∈ varintField number value, 0 < field.number := by
  intro field member
  obtain ⟨content, _, rfl⟩ := List.mem_map.mp member
  exact positive

theorem bytesField_numbered (number : Nat) (value : Option (List UInt8))
    (positive : 0 < number) : ∀ field ∈ bytesField number value, 0 < field.number := by
  intro field member
  obtain ⟨content, _, rfl⟩ := List.mem_map.mp member
  exact positive

theorem numbered_append (first second : List Field)
    (head : ∀ field ∈ first, 0 < field.number) (tail : ∀ field ∈ second, 0 < field.number) :
    ∀ field ∈ first ++ second, 0 < field.number := by
  intro field member
  rcases List.mem_append.mp member with early | late
  · exact head field early
  · exact tail field late

/-- Merge fields up to the first malformed one. -/
def mergeAll {M : Type} (merge : M → Field → Option M) : M → List Field → M × Bool
  | message, [] => (message, true)
  | message, field :: rest =>
      match merge message field with
      | none => (message, false)
      | some next => mergeAll merge next rest

theorem mergeAll_of_foldlM {M : Type} (merge : M → Field → Option M)
    (fields : List Field) (start message : M)
    (read : fields.foldlM merge start = some message) :
    mergeAll merge start fields = (message, true) := by
  induction fields generalizing start with
  | nil =>
      have same : start = message := Option.some.inj read
      rw [mergeAll, same]
  | cons field rest ih =>
      rw [List.foldlM_cons] at read
      obtain ⟨next, merged, tail⟩ := Option.bind_eq_some_iff.mp read
      rw [mergeAll, merged]
      exact ih next tail

/-- How a message is laid out: its fields in order, and what a field does to a
message being read; `none` reports a malformed nested message. -/
structure Schema (M : Type) where
  fields : M → List Field
  start : M
  merge : M → Field → Option M
  numbered : ∀ message, ∀ field ∈ fields message, 0 < field.number
  readBack : ∀ message, (fields message).foldlM merge start = some message

section Schema
variable {M : Type} (schema : Schema M)

def Schema.serialize (message : M) : List UInt8 := encodeFields (schema.fields message)

def Schema.parse (data : List UInt8) : M × Bool :=
  let read := decodeFields data
  let merged := mergeAll schema.merge schema.start read.1
  (merged.1, read.2 && merged.2)

theorem Schema.parse_serialize (message : M) :
    schema.parse (schema.serialize message) = (message, true) := by
  have fields := decodeFields_encodeFields (schema.fields message) (schema.numbered message)
  have merged := mergeAll_of_foldlM schema.merge _ _ message (schema.readBack message)
  simp [Schema.parse, Schema.serialize, fields, merged]

/-- `ParseFromString` also fails when a required field is missing. -/
def Schema.codec [ProtoMessage M] : Codec M where
  serializeAsString := schema.serialize
  parseFromString data :=
    let parsed := schema.parse data
    (parsed.1, parsed.2 && isInitialized parsed.1)
  roundTrip := by
    intro message initialized
    simp [schema.parse_serialize, initialized]

theorem Schema.codec_checksRequired [ProtoMessage M] : schema.codec.ChecksRequired := by
  intro data message parsed
  simp only [Schema.codec, Prod.mk.injEq, Bool.and_eq_true] at parsed
  obtain ⟨same, _, initialized⟩ := parsed
  rw [← same]
  exact initialized

end Schema

/-! ## Scalars -/

def int32Varint (value : Int32) : UInt64 := value.toInt64.toUInt64

def varintInt32 (value : UInt64) : Int32 := value.toInt64.toInt32

@[simp] theorem varintInt32_int32Varint (value : Int32) :
    varintInt32 (int32Varint value) = value := by
  simp [varintInt32, int32Varint]

def SensorsType.toVarint : SensorsType → UInt64
  | .stUnknown => 0
  | .stDryContact => 1
  | .stTemperature => 2

def sensorsTypeOf (value : UInt64) : Option SensorsType :=
  if value = 0 then some .stUnknown
  else if value = 1 then some .stDryContact
  else if value = 2 then some .stTemperature
  else none

@[simp] theorem sensorsTypeOf_toVarint (type : SensorsType) :
    sensorsTypeOf type.toVarint = some type := by
  cases type <;> rfl

/-! ## The messages -/

def commonMessageSchema : Schema CommonMessage where
  fields m := varintField 1 (m.code.map UInt32.toUInt64) ++ bytesField 2 m.payload
  start := ⟨none, none⟩
  merge m
    | ⟨1, .varint value⟩ => some { m with code := some value.toUInt32 }
    | ⟨2, .bytes value⟩ => some { m with payload := some value }
    | _ => some m
  numbered _ := numbered_append _ _ (varintField_numbered 1 _ (by decide))
    (bytesField_numbered 2 _ (by decide))
  readBack := by
    rintro ⟨code, payload⟩
    cases code <;> cases payload <;> simp [varintField, bytesField]

def transportContainerSchema : Schema TransportContainer where
  fields m := varintField 1 (m.contaiterVersion.map int32Varint) ++ bytesField 2 m.payload
  start := ⟨none, none⟩
  merge m
    | ⟨1, .varint value⟩ => some { m with contaiterVersion := some (varintInt32 value) }
    | ⟨2, .bytes value⟩ => some { m with payload := some value }
    | _ => some m
  numbered _ := numbered_append _ _ (varintField_numbered 1 _ (by decide))
    (bytesField_numbered 2 _ (by decide))
  readBack := by
    rintro ⟨version, payload⟩
    cases version <;> cases payload <;> simp [varintField, bytesField]

def serverRuntimeNotificationSchema : Schema ServerRuntimeNotification where
  fields m := varintField 1 (m.methodId.map UInt32.toUInt64) ++
    (varintField 2 (m.code.map int32Varint) ++ bytesField 3 m.description)
  start := ⟨none, none, none⟩
  merge m
    | ⟨1, .varint value⟩ => some { m with methodId := some value.toUInt32 }
    | ⟨2, .varint value⟩ => some { m with code := some (varintInt32 value) }
    | ⟨3, .bytes value⟩ => some { m with description := some value }
    | _ => some m
  numbered _ := numbered_append _ _ (varintField_numbered 1 _ (by decide))
    (numbered_append _ _ (varintField_numbered 2 _ (by decide))
      (bytesField_numbered 3 _ (by decide)))
  readBack := by
    rintro ⟨methodId, code, description⟩
    cases methodId <;> cases code <;> cases description <;>
      simp [varintField, bytesField]

def serverCommonMessageSchema : Schema ServerCommonMessage where
  fields m := varintField 1 (m.type.map UInt32.toUInt64) ++
    (bytesField 2 m.payload ++ varintField 3 (m.id.map Int64.toUInt64))
  start := ⟨none, none, none⟩
  merge m
    | ⟨1, .varint value⟩ => some { m with type := some value.toUInt32 }
    | ⟨2, .bytes value⟩ => some { m with payload := some value }
    | ⟨3, .varint value⟩ => some { m with id := some value.toInt64 }
    | _ => some m
  numbered _ := numbered_append _ _ (varintField_numbered 1 _ (by decide))
    (numbered_append _ _ (bytesField_numbered 2 _ (by decide))
      (varintField_numbered 3 _ (by decide)))
  readBack := by
    rintro ⟨type, payload, id⟩
    cases type <;> cases payload <;> cases id <;> simp [varintField, bytesField]

/-- A message whose only field is a number. -/
def scalarSchema {M A : Type} (wrap : Option A → M) (unwrap : M → Option A)
    (put : A → UInt64) (get : UInt64 → A) (wrapped : ∀ m, wrap (unwrap m) = m)
    (same : ∀ value, get (put value) = value) : Schema M where
  fields m := varintField 1 ((unwrap m).map put)
  start := wrap none
  merge m
    | ⟨1, .varint value⟩ => some (wrap (some (get value)))
    | _ => some m
  numbered _ := varintField_numbered 1 _ (by decide)
  readBack := by
    intro m
    have back := wrapped m
    cases content : unwrap m with
    | none =>
        rw [content] at back
        simp [varintField, back]
    | some value =>
        rw [content] at back
        simp [varintField, same, back]

def configurationDryContactSchema : Schema ConfigurationDryContact :=
  scalarSchema .mk ConfigurationDryContact.state Bool.toUInt64 (· != 0)
    (fun _ => rfl) (by decide)

def sensorDryContactStateSchema : Schema SensorDryContactState :=
  scalarSchema .mk SensorDryContactState.state Bool.toUInt64 (· != 0)
    (fun _ => rfl) (by decide)

def configurationTemperatureSchema : Schema ConfigurationTemperature :=
  scalarSchema .mk ConfigurationTemperature.level int32Varint varintInt32
    (fun _ => rfl) varintInt32_int32Varint

def sensorTemperatureStateSchema : Schema SensorTemperatureState :=
  scalarSchema .mk SensorTemperatureState.value int32Varint varintInt32
    (fun _ => rfl) varintInt32_int32Varint

def requestCapabilitiesSchema : Schema RequestCapabilities :=
  scalarSchema .mk RequestCapabilities.dummy int32Varint varintInt32
    (fun _ => rfl) varintInt32_int32Varint

def sensorConfigurationSchema : Schema SensorConfiguration where
  fields m := varintField 1 (m.id.map int32Varint) ++
    (varintField 2 (m.type.map SensorsType.toVarint) ++
      bytesField 3 m.specificConfiguration)
  start := ⟨none, none, none⟩
  merge m
    | ⟨1, .varint value⟩ => some { m with id := some (varintInt32 value) }
    | ⟨2, .varint value⟩ => some { m with type := (sensorsTypeOf value).or m.type }
    | ⟨3, .bytes value⟩ => some { m with specificConfiguration := some value }
    | _ => some m
  numbered _ := numbered_append _ _ (varintField_numbered 1 _ (by decide))
    (numbered_append _ _ (varintField_numbered 2 _ (by decide))
      (bytesField_numbered 3 _ (by decide)))
  readBack := by
    rintro ⟨id, type, specific⟩
    cases id <;> cases type <;> cases specific <;> simp [varintField, bytesField]

def sensorActivatedSchema : Schema SensorActivated where
  fields m := varintField 1 (m.sensorId.map int32Varint) ++
    (varintField 2 (m.type.map SensorsType.toVarint) ++ bytesField 3 m.sensorValue)
  start := ⟨none, none, none⟩
  merge m
    | ⟨1, .varint value⟩ => some { m with sensorId := some (varintInt32 value) }
    | ⟨2, .varint value⟩ => some { m with type := (sensorsTypeOf value).or m.type }
    | ⟨3, .bytes value⟩ => some { m with sensorValue := some value }
    | _ => some m
  numbered _ := numbered_append _ _ (varintField_numbered 1 _ (by decide))
    (numbered_append _ _ (varintField_numbered 2 _ (by decide))
      (bytesField_numbered 3 _ (by decide)))
  readBack := by
    rintro ⟨id, type, value⟩
    cases id <;> cases type <;> cases value <;> simp [varintField, bytesField]

/-! Repeated nested messages. -/

def mergeConfiguration (configurations : List SensorConfiguration) :
    Field → Option (List SensorConfiguration)
  | ⟨1, .bytes value⟩ =>
      match sensorConfigurationSchema.parse value with
      | (configuration, true) => some (configurations ++ [configuration])
      | (_, false) => none
  | _ => some configurations

def configurationField (configuration : SensorConfiguration) : Field :=
  ⟨1, .bytes (sensorConfigurationSchema.serialize configuration)⟩

theorem configurations_readBack (before configurations : List SensorConfiguration) :
    (configurations.map configurationField).foldlM mergeConfiguration before =
      some (before ++ configurations) := by
  induction configurations generalizing before with
  | nil => simp
  | cons configuration rest ih =>
      have merged : mergeConfiguration before (configurationField configuration) =
          some (before ++ [configuration]) := by
        simp [mergeConfiguration, configurationField,
          sensorConfigurationSchema.parse_serialize]
      rw [List.map_cons, List.foldlM_cons, merged]
      simp [ih]

def configurationsSchema : Schema (List SensorConfiguration) where
  fields m := m.map configurationField
  start := []
  merge := mergeConfiguration
  numbered m field member := by
    obtain ⟨configuration, _, rfl⟩ := List.mem_map.mp member
    exact Nat.one_pos
  readBack m := configurations_readBack [] m

/-- A message isomorphic to one that has a schema. -/
def Schema.wrap {M N : Type} (schema : Schema N) (wrap : N → M) (unwrap : M → N)
    (wrapped : ∀ m, wrap (unwrap m) = m) (unwrapped : ∀ n, unwrap (wrap n) = n) :
    Schema M where
  fields m := schema.fields (unwrap m)
  start := wrap schema.start
  merge m field := (schema.merge (unwrap m) field).map wrap
  numbered m := schema.numbered (unwrap m)
  readBack m := by
    have transport : ∀ (fields : List Field) (start : N),
        fields.foldlM (fun m field => (schema.merge (unwrap m) field).map wrap) (wrap start) =
          (fields.foldlM schema.merge start).map wrap := by
      intro fields
      induction fields with
      | nil => intro start; rfl
      | cons field rest ih =>
          intro start
          rw [List.foldlM_cons, List.foldlM_cons, unwrapped]
          cases merged : schema.merge start field with
          | none => simp
          | some next => simpa using ih next
    rw [transport, schema.readBack, Option.map_some, wrapped]

def sensorsControlSchema : Schema SensorsControl :=
  configurationsSchema.wrap .mk SensorsControl.config (fun _ => rfl) (fun _ => rfl)

def capabilitiesSchema : Schema Capabilities :=
  configurationsSchema.wrap .mk Capabilities.systemConfiguration (fun _ => rfl)
    (fun _ => rfl)

/-- The codecs of these schemas, an instance of the parameter; the library's own are not
part of the program. -/
def wire : Codecs where
  commonMessage := commonMessageSchema.codec
  transportContainer := transportContainerSchema.codec
  serverRuntimeNotification := serverRuntimeNotificationSchema.codec
  serverCommonMessage := serverCommonMessageSchema.codec
  configurationDryContact := configurationDryContactSchema.codec
  sensorDryContactState := sensorDryContactStateSchema.codec
  configurationTemperature := configurationTemperatureSchema.codec
  sensorTemperatureState := sensorTemperatureStateSchema.codec
  sensorsControl := sensorsControlSchema.codec
  sensorActivated := sensorActivatedSchema.codec
  capabilities := capabilitiesSchema.codec
  requestCapabilities := requestCapabilitiesSchema.codec

end Emserver.Protobuf
