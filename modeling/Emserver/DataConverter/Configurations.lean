import Mathlib.Data.List.Forall2
import Emserver.CServer.Fidelity

/-!
# Sensor configurations that do not parse

The server takes an entry of a known type when its bytes parse.  The client
drops the result of the parse, so that bytes which do not parse become a sensor
with whatever was read of them and defaults for the rest.
-/

set_option autoImplicit false

namespace Emserver.DataConverter

open Emserver.Protobuf

section Filtering
variable {A B : Type}

theorem filterMap_length_le (taken kept : A → Option B) (entries : List A)
    (drops : ∀ entry ∈ entries, kept entry = taken entry ∨ kept entry = none) :
    (entries.filterMap kept).length ≤ (entries.filterMap taken).length := by
  induction entries with
  | nil => exact Nat.le_refl 0
  | cons entry rest ih =>
      have tail := ih fun other member => drops other (List.mem_cons_of_mem entry member)
      rcases drops entry List.mem_cons_self with same | dropped
      · rw [List.filterMap_cons, List.filterMap_cons, same]
        split
        · exact tail
        · exact Nat.succ_le_succ tail
      · rw [List.filterMap_cons_none dropped, List.filterMap_cons]
        split
        · exact tail
        · exact Nat.le_succ_of_le tail

/-- A stricter filter leaves the same list only if it agrees on every entry. -/
theorem filterMap_eq_iff (taken kept : A → Option B) (entries : List A)
    (drops : ∀ entry ∈ entries, kept entry = taken entry ∨ kept entry = none) :
    entries.filterMap taken = entries.filterMap kept ↔
      ∀ entry ∈ entries, taken entry = kept entry := by
  constructor
  · intro same
    induction entries with
    | nil =>
        intro entry member
        contradiction
    | cons entry rest ih =>
        have later : ∀ other ∈ rest, kept other = taken other ∨ kept other = none :=
          fun other member => drops other (List.mem_cons_of_mem entry member)
        have shorter := filterMap_length_le taken kept rest later
        have here : taken entry = kept entry := by
          rcases drops entry List.mem_cons_self with agree | dropped
          · exact agree.symm
          · cases found : taken entry with
            | none => exact dropped.symm
            | some value =>
                rw [List.filterMap_cons_some found, List.filterMap_cons_none dropped] at same
                have lengths := congrArg List.length same
                rw [List.length_cons] at lengths
                omega
        have tails : rest.filterMap taken = rest.filterMap kept := by
          rw [List.filterMap_cons, List.filterMap_cons, here] at same
          split at same
          · exact same
          · exact (List.cons.inj same).2
        intro other member
        rcases List.mem_cons.mp member with rfl | further
        · exact here
        · exact ih later tails other further
  · exact List.filterMap_congr

end Filtering

section Codecs
variable (protobuf : Codecs)

/-- The sensor an entry describes, if its bytes parse as a configuration of its type. -/
def configuredSensor : SensorConfiguration → Option SensorBase
  | ⟨some id, some .stDryContact, some bytes⟩ =>
      match protobuf.configurationDryContact.parseFromString bytes with
      | (⟨some state⟩, true) => some (.dryContact id none state)
      | _ => none
  | ⟨some id, some .stTemperature, some bytes⟩ =>
      match protobuf.configurationTemperature.parseFromString bytes with
      | (⟨some level⟩, true) => some (.temperature id none level)
      | _ => none
  | _ => none

/-- The list holds what the entries describe, which is also what the server
takes from them. -/
def AcceptedAsSent (entries : List SensorConfiguration) (sensors : List SensorBase) : Prop :=
  sensors = entries.filterMap (configuredSensor protobuf) ∧
    List.Forall₂ CServer.SameConfiguration
      (entries.filterMap (CServer.nativeEntry protobuf)) sensors

def ConfigurationParses (entry : SensorConfiguration) : Prop :=
  (entry.type = some .stDryContact →
    (protobuf.configurationDryContact.parseFromString
      (entry.specificConfiguration.getD [])).2 = true) ∧
  (entry.type = some .stTemperature →
    (protobuf.configurationTemperature.parseFromString
      (entry.specificConfiguration.getD [])).2 = true)

/-! ## One entry -/

structure ConfigurationsChecked : Prop where
  dryContact : protobuf.configurationDryContact.ChecksRequired
  temperature : protobuf.configurationTemperature.ChecksRequired

theorem initialized_fields (entry : SensorConfiguration)
    (initialized : isInitialized entry = true) :
    ∃ id type bytes, entry = ⟨some id, some type, some bytes⟩ := by
  obtain ⟨id, type, bytes⟩ := entry
  cases id with
  | none => contradiction
  | some id =>
      cases type with
      | none => contradiction
      | some type =>
          cases bytes with
          | none => contradiction
          | some bytes => exact ⟨id, type, bytes, rfl⟩

variable {protobuf : Codecs} (checked : ConfigurationsChecked protobuf)
include checked

theorem dryContact_cases (bytes : List UInt8) :
    (∃ state, protobuf.configurationDryContact.parseFromString bytes = (⟨some state⟩, true)) ∨
      ∃ conf, protobuf.configurationDryContact.parseFromString bytes = (conf, false) := by
  apply Codec.parse_required checked.dryContact ConfigurationDryContact.mk
  rintro ⟨state⟩ initialized
  obtain ⟨value, rfl⟩ := Option.isSome_iff_exists.mp initialized
  exact ⟨value, rfl⟩

theorem temperature_cases (bytes : List UInt8) :
    (∃ level, protobuf.configurationTemperature.parseFromString bytes = (⟨some level⟩, true)) ∨
      ∃ conf, protobuf.configurationTemperature.parseFromString bytes = (conf, false) := by
  apply Codec.parse_required checked.temperature ConfigurationTemperature.mk
  rintro ⟨level⟩ initialized
  obtain ⟨value, rfl⟩ := Option.isSome_iff_exists.mp initialized
  exact ⟨value, rfl⟩

/-- The client agrees on an entry that parses, and makes a sensor of any other. -/
theorem nativeSensor_cases (entry : SensorConfiguration)
    (initialized : isInitialized entry = true) :
    (ConfigurationParses protobuf entry ∧
      nativeSensor protobuf entry = configuredSensor protobuf entry) ∨
    (¬ ConfigurationParses protobuf entry ∧ configuredSensor protobuf entry = none ∧
      nativeSensor protobuf entry ≠ none) := by
  obtain ⟨id, type, bytes, rfl⟩ := initialized_fields entry initialized
  cases type with
  | stUnknown => exact .inl ⟨⟨nofun, nofun⟩, rfl⟩
  | stDryContact =>
      rcases dryContact_cases checked bytes with ⟨state, parsed⟩ | ⟨conf, parsed⟩
      · left
        simp [ConfigurationParses, configuredSensor, nativeSensor, parsed]
      · right
        simp [ConfigurationParses, configuredSensor, nativeSensor, parsed]
  | stTemperature =>
      rcases temperature_cases checked bytes with ⟨level, parsed⟩ | ⟨conf, parsed⟩
      · left
        simp [ConfigurationParses, configuredSensor, nativeSensor, parsed]
      · right
        simp [ConfigurationParses, configuredSensor, nativeSensor, parsed]

/-- The server takes exactly the entries that parse. -/
theorem nativeEntry_configured (entry : SensorConfiguration)
    (initialized : isInitialized entry = true) :
    Option.Rel CServer.SameConfiguration (CServer.nativeEntry protobuf entry)
      (configuredSensor protobuf entry) := by
  obtain ⟨id, type, bytes, rfl⟩ := initialized_fields entry initialized
  cases type with
  | stUnknown => exact .none
  | stDryContact =>
      rcases dryContact_cases checked bytes with ⟨state, parsed⟩ | ⟨conf, parsed⟩
      · have taken : CServer.nativeEntry protobuf ⟨some id, some .stDryContact, some bytes⟩ =
            some (.dryContact id state false) := by
          simp [CServer.nativeEntry, initialized, parsed]
        simp only [taken, configuredSensor, parsed]
        exact .some ⟨rfl, rfl⟩
      · have dropped : CServer.nativeEntry protobuf ⟨some id, some .stDryContact, some bytes⟩ =
            none := by
          simp [CServer.nativeEntry, initialized, parsed]
        simp only [dropped, configuredSensor, parsed]
        exact .none
  | stTemperature =>
      rcases temperature_cases checked bytes with ⟨level, parsed⟩ | ⟨conf, parsed⟩
      · have taken : CServer.nativeEntry protobuf ⟨some id, some .stTemperature, some bytes⟩ =
            some (.temperature id level 0) := by
          simp [CServer.nativeEntry, initialized, parsed]
        simp only [taken, configuredSensor, parsed]
        exact .some ⟨rfl, rfl⟩
      · have dropped : CServer.nativeEntry protobuf ⟨some id, some .stTemperature, some bytes⟩ =
            none := by
          simp [CServer.nativeEntry, initialized, parsed]
        simp only [dropped, configuredSensor, parsed]
        exact .none

/-! ## A message -/

theorem nativeEntries_configured (entries : List SensorConfiguration)
    (initialized : ∀ entry ∈ entries, isInitialized entry = true) :
    List.Forall₂ CServer.SameConfiguration
      (entries.filterMap (CServer.nativeEntry protobuf))
      (entries.filterMap (configuredSensor protobuf)) := by
  induction entries with
  | nil => exact .nil
  | cons entry rest ih =>
      have tail := ih fun other member => initialized other (List.mem_cons_of_mem entry member)
      have here := nativeEntry_configured checked entry (initialized entry List.mem_cons_self)
      rw [List.filterMap_cons, List.filterMap_cons]
      generalize CServer.nativeEntry protobuf entry = taken at here ⊢
      generalize configuredSensor protobuf entry = described at here ⊢
      cases here with
      | none => exact tail
      | some same => exact .cons same tail

theorem acceptedAsSent_iff (entries : List SensorConfiguration)
    (initialized : ∀ entry ∈ entries, isInitialized entry = true) :
    AcceptedAsSent protobuf entries (entries.filterMap (nativeSensor protobuf)) ↔
      ∀ entry ∈ entries, ConfigurationParses protobuf entry := by
  have server := nativeEntries_configured checked entries initialized
  have drops : ∀ entry ∈ entries,
      configuredSensor protobuf entry = nativeSensor protobuf entry ∨
        configuredSensor protobuf entry = none := by
    intro entry member
    rcases nativeSensor_cases checked entry (initialized entry member) with agree | differ
    · exact .inl agree.2.symm
    · exact .inr differ.2.1
  have lists := filterMap_eq_iff (nativeSensor protobuf) (configuredSensor protobuf) entries drops
  constructor
  · rintro ⟨same, _⟩ entry member
    have agreed := lists.mp same entry member
    rcases nativeSensor_cases checked entry (initialized entry member) with agree | differ
    · exact agree.1
    · exact absurd (agreed.trans differ.2.1) differ.2.2
  · intro parses
    have same : entries.filterMap (nativeSensor protobuf) =
        entries.filterMap (configuredSensor protobuf) := by
      apply lists.mpr
      intro entry member
      rcases nativeSensor_cases checked entry (initialized entry member) with agree | differ
      · exact agree.2
      · exact absurd (parses entry member) differ.1
    refine ⟨same, ?_⟩
    rw [same]
    exact server

/-- Both messages become the sensors they describe exactly when every
configuration in them parses. -/
theorem malformed_configurations_iff :
    (∀ caps : Capabilities, isInitialized caps = true →
      (AcceptedAsSent protobuf caps.systemConfiguration (fromCaps protobuf caps) ↔
        ∀ entry ∈ caps.systemConfiguration, ConfigurationParses protobuf entry)) ∧
    (∀ protoSensors : SensorsControl, isInitialized protoSensors = true →
      (AcceptedAsSent protobuf protoSensors.config (sensorsFromProto protobuf protoSensors) ↔
        ∀ entry ∈ protoSensors.config, ConfigurationParses protobuf entry)) := by
  constructor
  · intro caps initialized
    exact acceptedAsSent_iff checked caps.systemConfiguration (List.all_eq_true.mp initialized)
  · intro protoSensors initialized
    exact acceptedAsSent_iff checked protoSensors.config (List.all_eq_true.mp initialized)

omit checked

end Codecs

theorem wire_configurationsChecked : ConfigurationsChecked wire where
  dryContact := configurationDryContactSchema.codec_checksRequired
  temperature := configurationTemperatureSchema.codec_checksRequired

/-- An entry that carries no configuration. -/
def emptyConfiguration : SensorConfiguration := ⟨some 7, some .stDryContact, some []⟩

theorem emptyConfiguration_taken :
    isInitialized (⟨[emptyConfiguration]⟩ : Capabilities) = true ∧
      fromCaps wire ⟨[emptyConfiguration]⟩ = [.dryContact 7 none true] ∧
      sensorsFromProto wire ⟨[emptyConfiguration]⟩ = [.dryContact 7 none true] ∧
      CServer.nativeEntry wire emptyConfiguration = none ∧
      ¬ AcceptedAsSent wire [emptyConfiguration] (fromCaps wire ⟨[emptyConfiguration]⟩) := by
  have taken : fromCaps wire ⟨[emptyConfiguration]⟩ = [.dryContact 7 none true] := by
    decide +kernel
  refine ⟨by decide, taken, by decide +kernel, by decide +kernel, ?_⟩
  rintro ⟨same, _⟩
  have described : [emptyConfiguration].filterMap (configuredSensor wire) = [] := by
    decide +kernel
  rw [taken, described] at same
  contradiction

theorem malformed_configurations_emptyConfiguration :
    ¬ AcceptedAsSent wire [emptyConfiguration] (fromCaps wire ⟨[emptyConfiguration]⟩) := by
  intro accepted
  have parses := ((malformed_configurations_iff wire_configurationsChecked).1
    ⟨[emptyConfiguration]⟩ (by decide)).mp accepted emptyConfiguration List.mem_cons_self
  exact absurd (parses.1 rfl) (by decide +kernel)

end Emserver.DataConverter
