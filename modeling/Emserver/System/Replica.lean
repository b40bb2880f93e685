import Emserver.Lib.LastWrite
import Emserver.System.Publications

/-!
# What the client knows of the server

However the steps of the two sides interleave, the client hears what the calls
of the server's user published, in the order of the calls and converted
faithfully, and its sensors are those of the last configuration it heard, each
with the last activation since that is for it.
-/

set_option autoImplicit false

namespace Emserver.System

open Emserver.Protobuf
open Emserver.EmserverProcessor
open Emserver.Requests
open Lib.Runs

/-! ## The sensors of a sequence of publications -/

def Publication.Configures : Publication → Prop
  | .configuration _ _ => True
  | .activation _ _ => False
  | .notification _ _ _ => False

instance configuresDecidable (published : Publication) : Decidable published.Configures := by
  cases published <;> unfold Publication.Configures <;> infer_instance

def Publication.configured : Publication → Option (List DataConverter.SensorBase)
  | .configuration sensors _ => some (sensors.filterMap clientSensor)
  | .activation _ _ => none
  | .notification _ _ _ => none

def Publication.activated : Publication → Option DataConverter.SensorState
  | .configuration _ _ => none
  | .activation sensor _ => clientState sensor
  | .notification _ _ _ => none

/-- The sensors of the last configuration. -/
def lastConfiguration (published : List Publication) : List DataConverter.SensorBase :=
  (published.reverse.findSome? Publication.configured).getD []

/-- The states since the last configuration. -/
def activationsSince (published : List Publication) : List DataConverter.SensorState :=
  ((published.reverse.takeWhile fun one => ¬ one.Configures).reverse).filterMap
    Publication.activated

def updated (sensor : DataConverter.SensorBase) (sensorState : DataConverter.SensorState) :
    DataConverter.SensorBase :=
  sensor.updateState (some sensorState)

/-- The sensors of the last configuration, the first one of an id with the last
state since under the id. -/
def replica (published : List Publication) : List DataConverter.SensorBase :=
  Lib.LastWrite.settled DataConverter.SensorBase.sensorId DataConverter.SensorState.sensorId
    updated (lastConfiguration published) (activationsSince published)

theorem updated_overwrites :
    Lib.LastWrite.Overwrites DataConverter.SensorBase.sensorId updated where
  kept sensor sensorState := DataConverter.updateState_sensorId sensor (some sensorState)
  last sensor first second := by
    cases sensor <;> rfl

theorem onActivatedSensor_write (sensors : List DataConverter.SensorBase)
    (sensorState : DataConverter.SensorState) :
    DataConverter.onActivatedSensor sensors sensorState =
      Lib.LastWrite.write DataConverter.SensorBase.sensorId
        DataConverter.SensorState.sensorId updated sensors sensorState := rfl

theorem lastConfiguration_append (past : List Publication) (published : Publication) :
    lastConfiguration (past ++ [published]) =
      published.configured.getD (lastConfiguration past) := by
  rw [lastConfiguration, List.reverse_append, List.reverse_singleton, List.singleton_append,
    List.findSome?_cons]
  cases published.configured <;> rfl

theorem activationsSince_append (past : List Publication) (published : Publication) :
    activationsSince (past ++ [published]) =
      if published.Configures then []
      else activationsSince past ++ published.activated.toList := by
  rw [activationsSince, List.reverse_append, List.reverse_singleton, List.singleton_append]
  by_cases configures : published.Configures
  · rw [if_pos configures, List.takeWhile_cons_of_neg (by simpa using configures)]
    rfl
  · rw [if_neg configures, List.takeWhile_cons_of_pos (by simpa using configures),
      List.reverse_cons, List.filterMap_append, activationsSince]
    cases activated : published.activated with
    | none => simp [activated]
    | some sensorState => simp [activated]

theorem replica_append (past : List Publication) (published : Publication) :
    replica (past ++ [published]) = published.sensorsAfter (replica past) := by
  rw [replica, lastConfiguration_append, activationsSince_append]
  cases published with
  | configuration sensors id =>
      exact (Lib.LastWrite.foldl_write updated_overwrites _ []).symm
  | notification methodId code description =>
      simp [Publication.configured, Publication.Configures, Publication.activated,
        Publication.sensorsAfter, replica]
  | activation sensor id =>
      have quiet : ¬ (Publication.activation sensor id).Configures := fun configures => configures
      rw [if_neg quiet]
      simp only [Publication.configured, Option.getD_none, Publication.activated,
        Publication.sensorsAfter]
      cases clientState sensor with
      | none => simp [replica]
      | some sensorState =>
          simp only [Option.toList_some, Option.map_some, Option.getD_some]
          rw [onActivatedSensor_write, replica,
            Lib.LastWrite.write_settled updated_overwrites]

/-! ## The client -/

/-- The client has heard the publications it was sent so far, and nothing keeps
it from hearing the next one. -/
structure Follows (protobuf : Codecs) (state : State) (published : List Publication) :
    Prop where
  sent : state.server.sent = published.map (Publication.message protobuf)
  received : state.received ≤ published.length
  heard : state.client.heard = (published.take state.received).map Publication.heard
  sensors : state.client.sensors = replica (published.take state.received)
  ready : state.received < published.length → (step protobuf state .receive).isSome

section Follow
variable (protobuf : Codecs)

/-- What `Follows` adds to the connection. -/
structure Heeds (state : State) (published : List Publication) : Prop where
  heard : state.client.heard = (published.take state.received).map Publication.heard
  sensors : state.client.sensors = replica (published.take state.received)

theorem follows_of_served {state : State} {published : List Publication}
    (served : Served protobuf state published) (heeds : Heeds state published) :
    Follows protobuf state published := by
  have sent : state.server.sent = published.map (Publication.message protobuf) := by
    rw [served.server]
  refine ⟨sent, served.received, heeds.heard, heeds.sensors, ?_⟩
  intro pending
  have known := served.known _ (List.getElem_mem pending)
  have next : state.server.sent[state.received]? =
      some (published[state.received].message protobuf) := by
    rw [sent, List.getElem?_map, List.getElem?_eq_getElem pending]
    rfl
  simp only [step, next, receive_published protobuf state.client _ known, Option.map_some,
    Option.isSome_some]

theorem heeds_start : Heeds start.1 start.2 := ⟨rfl, rfl⟩

theorem heeds_moved {state : State} {published : List Publication} {event : Event}
    {next : State × List Publication} (served : Served protobuf state published)
    (heeds : Heeds state published) (moved : Moved protobuf state published event next) :
    Heeds next.1 next.2 := by
  cases moved with
  | requests free => exact ⟨heeds.heard, heeds.sensors⟩
  | records ret returned => exact ⟨heeds.heard, heeds.sensors⟩
  | takes callback idle sent => exact ⟨heeds.heard, heeds.sensors⟩
  | publishes event one handling made known =>
      have same : (published ++ [one]).take state.received = published.take state.received :=
        List.take_append_of_le_length served.received
      constructor
      · simp only [same]
        exact heeds.heard
      · simp only [same]
        exact heeds.sensors
  | receives one next =>
      have grown := published_grown next
      constructor
      · simp only [grown, List.map_append, Client.hear, heeds.heard]
        rfl
      · simp only [grown, replica_append, Client.hear, heeds.sensors]

/-- In every run the client follows the server's user. -/
theorem client_follows (rejects : RejectsEmptyEnvelope protobuf) (events : List Event) :
    Throughout (machine protobuf) (fun pair => Follows protobuf pair.1 pair.2) start
      events := by
  have both := throughout_of_served protobuf rejects heeds_start (heeds_moved protobuf) events
  exact both.mono fun pair kept => follows_of_served protobuf kept.1 kept.2

end Follow

/-- A request that is answered with one sensor, which is then activated. -/
def answeredRun : List Event :=
  [.sendRequestCapabilities, .recordCall,
    .take ⟨[.sendCapabilities 1 ⟨⟨1, some [some (.temperature 2 30 0)]⟩⟩], 0⟩, .perform,
    .finish, .send (.sendActiveSensor 0 (some (.temperature 2 30 31))), .receive, .receive,
    .receive]

theorem client_follows_answeredRun :
    Throughout (machine wire) (fun pair => Follows wire pair.1 pair.2) start answeredRun :=
  client_follows wire rfl answeredRun

example : replica [.configuration [.temperature 2 30 0, .dryContact 3 true false] 1,
    .activation (.temperature 2 30 31) 0, .notification 1 0 none] =
      [.temperature 2 (some (.temperature ⟨2, 31⟩)) 30, .dryContact 3 none true] := by
  decide

end Emserver.System
