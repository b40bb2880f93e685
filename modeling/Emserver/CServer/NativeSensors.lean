import Emserver.CServer

/-!
# Sensor-control requests as native arrays

`nativeSensors` fixes the count from the message and never allocates
`hardware`.  The array it returns is usable only when the message has no
entries: an entry that converts is written through the null pointer, and any
other leaves an index below the count that the callback and `freeSensors` read
through it.
-/

set_option autoImplicit false

namespace Emserver.CServer

open Emserver.Protobuf hiding Capabilities

section Arrays

theorem mapM_range_fault {A : Type} (read : Nat → Except Fault A) (fault : Fault)
    (count : Nat) (positive : 0 < count) (failed : read 0 = .error fault) :
    (List.range count).mapM read = .error fault := by
  obtain ⟨rest, rfl⟩ : ∃ rest, count = rest + 1 := ⟨count - 1, by omega⟩
  rw [List.range_succ_eq_map, List.mapM_cons, failed]
  rfl

variable (sensors : Sensors) (unallocated : sensors.hardware = none)
include unallocated

theorem read_unallocated (i : Nat) : sensors.read i = .error .nullPointer := by
  simp [Sensors.read, unallocated]

theorem write_unallocated (i : Nat) (pSens : SensorBase) :
    sensors.write i pSens = .error .nullPointer := by
  simp [Sensors.write, unallocated]

theorem visit_unallocated (positive : 0 < sensors.sensorsCount) :
    sensors.visit = .error .nullPointer := by
  apply mapM_range_fault sensors.sensor .nullPointer sensors.sensorsCount positive
  rw [Sensors.sensor, read_unallocated sensors unallocated]
  rfl

theorem freeSensors_unallocated (positive : 0 < sensors.sensorsCount) :
    freeSensors (some sensors) = .error .nullPointer :=
  mapM_range_fault sensors.read .nullPointer sensors.sensorsCount positive
    (read_unallocated sensors unallocated 0)

end Arrays

section Codecs
variable (protobuf : Codecs)

/-- The loop ends only without a single write, and then changed nothing. -/
theorem nativeSensorsLoop_unallocated (config : List SensorConfiguration) (i : Nat)
    (pSensors : Sensors) (unallocated : pSensors.hardware = none) :
    nativeSensorsLoop protobuf config i pSensors =
      if config.filterMap (nativeEntry protobuf) = [] then .ok pSensors
      else .error .nullPointer := by
  induction config generalizing i with
  | nil => rfl
  | cons protoSen rest ih =>
      rw [nativeSensorsLoop]
      cases entry : nativeEntry protobuf protoSen with
      | none => rw [List.filterMap_cons_none entry, ih]
      | some pSens =>
          simp only [write_unallocated pSensors unallocated, List.filterMap_cons_some entry,
            reduceCtorEq, if_false]
          rfl

theorem nativeSensors_eq (protoSensors : SensorsControl) :
    nativeSensors protobuf protoSensors =
      if protoSensors.config.filterMap (nativeEntry protobuf) = [] then
        .ok ⟨protoSensors.config.length, none⟩
      else .error .nullPointer :=
  nativeSensorsLoop_unallocated protobuf protoSensors.config 0 _ rfl

/-- The request becomes an array of exactly its convertible entries, which the
callback can visit and `freeSensors` deletes once each. -/
def WellFormed (req : SensorsControl) : Prop :=
  ∃ sensors, nativeSensors protobuf req = .ok sensors ∧
    sensors.visit = .ok (req.config.filterMap (nativeEntry protobuf)) ∧
    freeSensors (some sensors) =
      .ok ((req.config.filterMap (nativeEntry protobuf)).map some)

theorem wellFormed_empty : WellFormed protobuf ⟨[]⟩ := ⟨⟨0, none⟩, rfl, rfl, rfl⟩

/-- The array of a request with entries can be neither visited nor freed. -/
theorem nativeSensors_unusable (req : SensorsControl) (entries : req.config ≠ [])
    (sensors : Sensors) (run : nativeSensors protobuf req = .ok sensors) :
    sensors.visit = .error .nullPointer ∧ freeSensors (some sensors) = .error .nullPointer := by
  have positive : 0 < req.config.length := List.length_pos_iff.mpr entries
  rw [nativeSensors_eq] at run
  split at run
  · cases run
    exact ⟨visit_unallocated _ rfl positive, freeSensors_unallocated _ rfl positive⟩
  · contradiction

/-- The array is well formed exactly for a request without entries. -/
theorem wellFormed_iff (req : SensorsControl) :
    WellFormed protobuf req ↔ req.config = [] := by
  constructor
  · intro wellFormed
    obtain ⟨sensors, run, _, freed⟩ := wellFormed
    by_contra entries
    rw [(nativeSensors_unusable protobuf req entries sensors run).2] at freed
    contradiction
  · intro empty
    obtain ⟨config⟩ := req
    cases empty
    exact wellFormed_empty protobuf

end Codecs

def oneTemperature : SensorsControl :=
  ⟨[⟨some 3, some .stTemperature,
    some (wire.configurationTemperature.serializeAsString ⟨some 40⟩)⟩]⟩

theorem oneTemperature_faults :
    isInitialized oneTemperature = true ∧
      oneTemperature.config.filterMap (nativeEntry wire) = [.temperature 3 40 0] ∧
      nativeSensors wire oneTemperature = .error .nullPointer ∧
      ¬ WellFormed wire oneTemperature := by
  have faults : nativeSensors wire oneTemperature = .error .nullPointer := by decide +kernel
  refine ⟨by decide, by decide +kernel, faults, ?_⟩
  intro wellFormed
  obtain ⟨sensors, run, _⟩ := wellFormed
  rw [faults] at run
  contradiction

end Emserver.CServer
