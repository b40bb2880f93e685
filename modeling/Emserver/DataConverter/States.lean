import Emserver.DataConverter
import Emserver.Lib.Runs
import Emserver.Protobuf.Wire

/-!
# Current states of the client's sensors

The sensors of a capabilities message under a sequence of activations, applied
as `onActivatedSensor` of the example client does.  `updateState` never looks
at the class of a state, so a sensor keeps to its own kind exactly as long as
the server does.
-/

set_option autoImplicit false

namespace Emserver.DataConverter

open Emserver.Protobuf
open Lib.Runs

/-- Where `find_if` finds the sensor a state is for: behind the list if there is none. -/
def addressed (sensors : List SensorBase) (sensorState : SensorState) : Nat :=
  sensors.findIdx fun sensor => sensor.sensorId = sensorState.sensorId

def onActivatedSensor (sensors : List SensorBase) (sensorState : SensorState) :
    List SensorBase :=
  sensors.modify (addressed sensors sensorState) fun sensor =>
    sensor.updateState (some sensorState)

def activationStep (sensors : List SensorBase) (sensorState : SensorState) :
    Option (List SensorBase) :=
  some (onActivatedSensor sensors sensorState)

/-! ## Kinds -/

/-- The type of the sensors a state class belongs to. -/
def SensorState.ownerType : SensorState → SensorType
  | .dryContact _ => .typeDryContact
  | .temperature _ => .typeTemperature

def SensorBase.OwnState (sensor : SensorBase) : Prop :=
  ∀ state, sensor.state = some state → state.ownerType = sensor.type

def OwnStates (sensors : List SensorBase) : Prop :=
  ∀ sensor ∈ sensors, sensor.OwnState

/-- What a state may do to a list: every current state is of its sensor's kind
afterwards, a state of the other kind changes nothing, and no state changes any
sensor but the one it is for. -/
structure KeepsToKind (sensors : List SensorBase) (sensorState : SensorState) : Prop where
  own : OwnStates (onActivatedSensor sensors sensorState)
  mismatch : ∀ sensor, sensors[addressed sensors sensorState]? = some sensor →
    sensorState.ownerType ≠ sensor.type → onActivatedSensor sensors sensorState = sensors
  others : ∀ i, i ≠ addressed sensors sensorState →
    (onActivatedSensor sensors sensorState)[i]? = sensors[i]?

/-- The state is of the kind of the sensor it is for, if there is one. -/
def MatchesKind (sensors : List SensorBase) (sensorState : SensorState) : Prop :=
  ∀ sensor, sensors[addressed sensors sensorState]? = some sensor →
    sensorState.ownerType = sensor.type

/-! ## One state -/

@[simp] theorem updateState_type (sensor : SensorBase) (state : Option SensorState) :
    (sensor.updateState state).type = sensor.type := by
  cases sensor <;> rfl

@[simp] theorem updateState_sensorId (sensor : SensorBase) (state : Option SensorState) :
    (sensor.updateState state).sensorId = sensor.sensorId := by
  cases sensor <;> rfl

@[simp] theorem updateState_state (sensor : SensorBase) (sensorState : SensorState) :
    (sensor.updateState (some sensorState)).state = some sensorState := by
  cases sensor <;> rfl

theorem onActivatedSensor_addressed (sensors : List SensorBase) (sensorState : SensorState) :
    (onActivatedSensor sensors sensorState)[addressed sensors sensorState]? =
      (sensors[addressed sensors sensorState]?).map fun sensor =>
        sensor.updateState (some sensorState) := by
  rw [onActivatedSensor, List.getElem?_modify_eq]
  rfl

theorem onActivatedSensor_others (sensors : List SensorBase) (sensorState : SensorState)
    (i : Nat) (other : i ≠ addressed sensors sensorState) :
    (onActivatedSensor sensors sensorState)[i]? = sensors[i]? := by
  rw [onActivatedSensor, List.getElem?_modify_ne _ _ (Ne.symm other)]

theorem keepsToKind_iff (sensors : List SensorBase)
    (own : OwnStates sensors) (sensorState : SensorState) :
    KeepsToKind sensors sensorState ↔ MatchesKind sensors sensorState := by
  have there := onActivatedSensor_addressed sensors sensorState
  constructor
  · intro keeps sensor found
    rw [found, Option.map_some] at there
    have kept := keeps.own _ (List.mem_of_getElem? there) sensorState
      (updateState_state sensor sensorState)
    rwa [updateState_type] at kept
  · intro fits
    refine ⟨?_, fun sensor found differs => absurd (fits sensor found) differs,
      onActivatedSensor_others sensors sensorState⟩
    intro after member
    obtain ⟨i, place⟩ := List.getElem?_of_mem member
    by_cases here : i = addressed sensors sensorState
    · rw [here, there] at place
      obtain ⟨sensor, found, rfl⟩ := Option.map_eq_some_iff.mp place
      intro state current
      rw [updateState_state] at current
      cases current
      rw [updateState_type]
      exact fits sensor found
    · rw [onActivatedSensor_others sensors sensorState i here] at place
      exact own after (List.mem_of_getElem? place)

/-! ## Sequences of states -/

/-- Ids and types stay as announced. -/
theorem onActivatedSensor_profile (sensors : List SensorBase) (sensorState : SensorState) :
    (onActivatedSensor sensors sensorState).map (fun sensor => (sensor.sensorId, sensor.type)) =
      sensors.map fun sensor => (sensor.sensorId, sensor.type) := by
  apply List.ext_getElem?
  intro i
  rw [List.getElem?_map, List.getElem?_map, onActivatedSensor, List.getElem?_modify]
  cases sensors[i]? with
  | none => rfl
  | some sensor =>
      by_cases here : addressed sensors sensorState = i <;> simp [here]

theorem matchesKind_profile (sensors : List SensorBase) (sensorState : SensorState) :
    MatchesKind sensors sensorState ↔
      ∀ profile, (sensors.map fun sensor => (sensor.sensorId, sensor.type))[
          (sensors.map fun sensor => (sensor.sensorId, sensor.type)).findIdx
            fun profile => profile.1 = sensorState.sensorId]? = some profile →
        sensorState.ownerType = profile.2 := by
  have place : (sensors.map fun sensor => (sensor.sensorId, sensor.type)).findIdx
      (fun profile => profile.1 = sensorState.sensorId) = addressed sensors sensorState := by
    rw [List.findIdx_map]
    rfl
  rw [place, List.getElem?_map, MatchesKind]
  constructor
  · intro fits profile found
    obtain ⟨sensor, here, rfl⟩ := Option.map_eq_some_iff.mp found
    exact fits sensor here
  · intro fits sensor here
    exact fits (sensor.sensorId, sensor.type) (by rw [here, Option.map_some])

theorem matchesKind_onActivatedSensor (sensors : List SensorBase)
    (sensorState other : SensorState) :
    MatchesKind (onActivatedSensor sensors sensorState) other ↔ MatchesKind sensors other := by
  rw [matchesKind_profile, matchesKind_profile, onActivatedSensor_profile]

theorem guarded_matchesKind_iff (sensors : List SensorBase) (states : List SensorState) :
    Guarded activationStep MatchesKind sensors states ↔
      ∀ sensorState ∈ states, MatchesKind sensors sensorState := by
  induction states generalizing sensors with
  | nil => exact ⟨fun _ => nofun, fun _ => trivial⟩
  | cons first rest ih =>
      rw [List.forall_mem_cons]
      constructor
      · intro guarded
        obtain ⟨fits, later⟩ := guarded _ rfl
        refine ⟨fits, fun other member => ?_⟩
        exact (matchesKind_onActivatedSensor sensors first other).mp
          ((ih _).mp later other member)
      · rintro ⟨fits, later⟩ next taken
        cases taken
        refine ⟨fits, (ih _).mpr fun other member => ?_⟩
        exact (matchesKind_onActivatedSensor sensors first other).mpr (later other member)

theorem fromCaps_ownStates (protobuf : Codecs) (caps : Capabilities) :
    OwnStates (fromCaps protobuf caps) := by
  intro sensor member state current
  obtain ⟨entry, _, converted⟩ := List.mem_filterMap.mp member
  have fresh : sensor.state = none := by
    unfold nativeSensor at converted
    split at converted
    · cases converted
      rfl
    · cases converted
      rfl
    · contradiction
  rw [fresh] at current
  contradiction

/-- The sensors keep to their kinds exactly when no state finds a sensor of the
other kind under its id. -/
theorem own_kind_iff (protobuf : Codecs) (caps : Capabilities)
    (messages : List SensorActivated) :
    Guarded activationStep KeepsToKind (fromCaps protobuf caps)
        (messages.filterMap (nativeActivatedSensor protobuf)) ↔
      ∀ sensorState ∈ messages.filterMap (nativeActivatedSensor protobuf),
        MatchesKind (fromCaps protobuf caps) sensorState := by
  have kept : ∀ sensors sensorState next, True → OwnStates sensors →
      MatchesKind sensors sensorState → activationStep sensors sensorState = some next →
        OwnStates next := by
    intro sensors sensorState next _ own fits taken
    cases taken
    exact ((keepsToKind_iff sensors own sensorState).mpr fits).own
  have same : ∀ sensors sensorState next, True → OwnStates sensors →
      activationStep sensors sensorState = some next →
        (KeepsToKind sensors sensorState ↔ MatchesKind sensors sensorState) :=
    fun sensors sensorState next _ own _ => keepsToKind_iff sensors own sensorState
  rw [← guarded_matchesKind_iff]
  exact guarded_congr (fun _ => True) kept same (fromCaps_ownStates protobuf caps)
    fun _ _ => trivial

/-- A temperature for a sensor announced as a dry contact. -/
def otherKind : List SensorActivated :=
  [⟨some 1, some .stTemperature,
    some (wire.sensorTemperatureState.serializeAsString ⟨some 300⟩)⟩]

def oneContact : Capabilities :=
  ⟨[⟨some 1, some .stDryContact,
    some (wire.configurationDryContact.serializeAsString ⟨some true⟩)⟩]⟩

theorem otherKind_stored :
    fromCaps wire oneContact = [.dryContact 1 none true] ∧
      otherKind.filterMap (nativeActivatedSensor wire) = [.temperature ⟨1, 300⟩] ∧
      run activationStep [.dryContact 1 none true] [.temperature ⟨1, 300⟩] =
        some [.dryContact 1 (some (.temperature ⟨1, 300⟩)) true] ∧
      ¬ Guarded activationStep KeepsToKind (fromCaps wire oneContact)
        (otherKind.filterMap (nativeActivatedSensor wire)) := by
  have sensors : fromCaps wire oneContact = [.dryContact 1 none true] := by decide +kernel
  have states : otherKind.filterMap (nativeActivatedSensor wire) = [.temperature ⟨1, 300⟩] := by
    decide +kernel
  refine ⟨sensors, states, by decide +kernel, ?_⟩
  rw [sensors, states]
  intro guarded
  obtain ⟨keeps, _⟩ := guarded _ rfl
  have own := keeps.own (.dryContact 1 (some (.temperature ⟨1, 300⟩)) true) (by decide +kernel)
  exact absurd (own _ rfl) (by decide)

end Emserver.DataConverter
