import Emserver.Requests

/-!
# Sensor lists in sensor-control requests

Each entry `sensorsToProto` fills would convert back to its sensor, but no
entry gets into the message: a list survives exactly when it is empty.
-/

set_option autoImplicit false

namespace Emserver.Requests

open Emserver.Protobuf
open Emserver.DataConverter

/-- Kind, id and triggered state or threshold agree. -/
def SameParameters : SensorBase → SensorBase → Prop
  | .dryContact id _ triggeredState, .dryContact otherId _ otherState =>
      id = otherId ∧ triggeredState = otherState
  | .temperature id _ tresholdLevel, .temperature otherId _ otherLevel =>
      id = otherId ∧ tresholdLevel = otherLevel
  | .dryContact _ _ _, .temperature _ _ _ => False
  | .temperature _ _ _, .dryContact _ _ _ => False

theorem sameParameters_initial (sensor : SensorBase) :
    SameParameters sensor sensor.initial := by
  cases sensor with
  | dryContact id currentState triggeredState => exact ⟨rfl, rfl⟩
  | temperature id currentState tresholdLevel => exact ⟨rfl, rfl⟩

section Lists
variable (protobuf : Codecs)

/-- The list comes back from the protocol message in order. -/
def Survives (sensors : List SensorBase) : Prop :=
  List.Forall₂ SameParameters sensors
    (sensorsFromProto protobuf (sensorsToProto protobuf sensors))

/-- The control message inside the envelope a sender handed to the session. -/
def carriedControl (message : List UInt8) : SensorsControl :=
  (protobuf.sensorsControl.parseFromString
    ((protobuf.serverCommonMessage.parseFromString message).1.payload.getD [])).1

/-- The message sent for the list carries every sensor of it. -/
def Carries (adapter : Adapter) (sensors : List SensorBase) : Prop :=
  ∃ message, (adapter.sendSensorsControl protobuf sensors).2.sent = adapter.sent ++ [message] ∧
    List.Forall₂ SameParameters sensors
      (sensorsFromProto protobuf (carriedControl protobuf message))

/-- Had the loop added its entries, every list would come back. -/
theorem entries_survive (sensors : List SensorBase) :
    List.Forall₂ SameParameters sensors
      (sensorsFromProto protobuf ⟨sensors.map (configurationToProto protobuf)⟩) := by
  rw [sensorsFromProto, nativeSensors_configurations]
  induction sensors with
  | nil => exact .nil
  | cons sensor rest ih => exact .cons (sameParameters_initial sensor) ih

theorem sensorsFromProto_dropped (sensors : List SensorBase) :
    sensorsFromProto protobuf (sensorsToProto protobuf sensors) = [] := by
  rw [sensorsToProto_eq]
  rfl

theorem survives_iff (sensors : List SensorBase) :
    Survives protobuf sensors ↔ sensors = [] := by
  rw [Survives, sensorsFromProto_dropped, List.forall₂_nil_right_iff]

theorem carriedControl_requestBytes (adapter : Adapter) (sensors : List SensorBase) :
    carriedControl protobuf (requestBytes protobuf adapter (.sendSensorsControl sensors)) =
      sensorsToProto protobuf sensors := by
  have initialized := requestMessage_initialized protobuf (.sendSensorsControl sensors)
  have control := protobuf.sensorsControl.roundTrip (sensorsToProto protobuf sensors) initialized
  rw [carriedControl, requestBytes,
    EmserverProcessor.parse_makeMessage protobuf _ _ _ initialized]
  exact congrArg Prod.fst control

/-- Neither the conversion nor the sent message keeps a sensor of the list. -/
theorem sensors_survive_iff (adapter : Adapter) (live : adapter.session = true)
    (sensors : List SensorBase) :
    (Survives protobuf sensors ↔ sensors = []) ∧
      (Carries protobuf adapter sensors ↔ sensors = []) := by
  refine ⟨survives_iff protobuf sensors, ?_⟩
  rw [← survives_iff protobuf sensors, Survives]
  have sent : (adapter.sendSensorsControl protobuf sensors).2.sent =
      adapter.sent ++ [requestBytes protobuf adapter (.sendSensorsControl sensors)] :=
    congrArg Adapter.sent (issue_live protobuf adapter (.sendSensorsControl sensors) live)
  have control := carriedControl_requestBytes protobuf adapter sensors
  constructor
  · rintro ⟨message, appended, carried⟩
    rw [sent] at appended
    have same := List.append_cancel_left appended
    cases same
    rwa [control] at carried
  · intro survives
    refine ⟨_, sent, ?_⟩
    rwa [control]

end Lists

/-- The empty list is carried, and a list of one sensor is not. -/
theorem sensors_survive_iff_lists :
    (Survives wire [] ∧ Carries wire ⟨1, true, []⟩ []) ∧
      ¬ Survives wire [.dryContact 7 none true] ∧
      ¬ Carries wire ⟨1, true, []⟩ [.dryContact 7 none true] := by
  obtain ⟨survives, carries⟩ := sensors_survive_iff wire ⟨1, true, []⟩ rfl []
  obtain ⟨lost, missing⟩ := sensors_survive_iff wire ⟨1, true, []⟩ rfl [.dryContact 7 none true]
  have sensor : [SensorBase.dryContact 7 none true] ≠ [] := List.cons_ne_nil _ _
  exact ⟨⟨survives.mpr rfl, carries.mpr rfl⟩, fun kept => sensor (lost.mp kept),
    fun carried => sensor (missing.mp carried)⟩

theorem dryContact_lost :
    sensorsFromProto wire (sensorsToProto wire [.dryContact 7 none true]) = [] ∧
      ¬ Survives wire [.dryContact 7 none true] := by
  refine ⟨rfl, ?_⟩
  intro survives
  cases survives

end Emserver.Requests
