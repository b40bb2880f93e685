import Mathlib.Data.List.Nodup
import Mathlib.Data.List.Count
import Emserver.CServer.NativeSensors

/-!
# Results of requests

Every request handler ends with one result notification.  A failing call of a
user callback sends another one, under whatever id it was given, and a
sensor-control request with entries does not come to its end.  Requests get
exactly one result each when neither happens.
-/

set_option autoImplicit false

namespace Emserver.CServer

open Emserver.Protobuf hiding Capabilities
open Emserver.EmserverProcessor

/-! ## Requests -/

inductive RequestMessage where
  | requestCapabilities (req : RequestCapabilities)
  | sensorControl (req : SensorsControl)

/-- A dispatched request with what the registered callback does on it. -/
structure Request where
  message : RequestMessage
  id : Int64
  callback : Behaviour

section Codecs
variable (protobuf : Codecs)

def Server.handle (server : Server) (request : Request) : Except Fault Server :=
  match request.message with
  | .requestCapabilities req =>
      server.callbackEmserverCapsRequest protobuf req request.id request.callback
  | .sensorControl req =>
      server.callbackEmserverSensorControlRequest protobuf req request.id request.callback

def Server.handleAll (server : Server) : List Request → Except Fault Server
  | [] => .ok server
  | request :: rest => do
      let server ← server.handle protobuf request
      Server.handleAll server rest

/-- The method id of a result notification, as a number. -/
def resultId (message : List UInt8) : Option Int :=
  let envelope := (protobuf.serverCommonMessage.parseFromString message).1
  if envelope.type = some MethodCode.serverRuntimeNotification.value then
    (protobuf.serverRuntimeNotification.parseFromString
      (envelope.payload.getD [])).1.methodId.map fun callID => (callID.toNat : Int)
  else none

/-- Every request gets exactly one result, and no result with a non-zero method
id is for anything else. -/
def ResultsExact (server : Server) (requests : List Request) : Prop :=
  ∃ after messages, server.handleAll protobuf requests = .ok after ∧
    after.sent = server.sent ++ messages ∧
    (∀ request ∈ requests,
      (messages.filterMap (resultId protobuf)).count request.id.toInt = 1) ∧
    ∀ callID ∈ messages.filterMap (resultId protobuf), callID ≠ 0 →
      ∃ request ∈ requests, callID = request.id.toInt

/-! ## Messages -/

theorem resultId_resultMessage (callID : UInt32) (code : Int32) :
    resultId protobuf (resultMessage protobuf callID code) = some (callID.toNat : Int) := by
  have notification := protobuf.serverRuntimeNotification.roundTrip
    ⟨some callID, some code, none⟩ rfl
  rw [resultId, resultMessage, parse_makeMessage protobuf _ _ _ rfl]
  simp [MethodMessage.serializeAsString, notification]

theorem resultId_of_type (message : List UInt8)
    (other : messageType protobuf message ≠
      some MethodCode.serverRuntimeNotification.value) :
    resultId protobuf message = none := by
  rw [messageType] at other
  rw [resultId, if_neg other]

/-- `callID` of a call made under `id`. -/
def callNumber (id : Int64) : Int := (methodId id).toNat

theorem callNumber_eq_zero (id : Int64) : callNumber id = 0 ↔ methodId id = 0 := by
  rw [callNumber, ← UInt32.toNat_inj]
  simp

/-- The narrowed id is the id between 0 and `2^32 - 1`. -/
theorem callNumber_eq (id : Int64) (positive : 1 ≤ id.toInt) (small : id.toInt ≤ 2147483647) :
    callNumber id = id.toInt := by
  have number := requestid_toNat id (by omega)
  simp only [callNumber, methodId, UInt64.toNat_toUInt32]
  omega

/-! ## Accounting -/

def Server.sendMany (server : Server) (messages : List (List UInt8)) : Server :=
  { server with sent := server.sent ++ messages }

/-- The run faults, which `condition` excludes, or it sends results under `ids`
and others, which are all under 0 exactly when `condition` holds. -/
def Accounts (server : Server) (run : Except Fault Server) (ids : List Int)
    (condition : Prop) : Prop :=
  (∃ fault, run = .error fault ∧ ¬ condition) ∨
    ∃ messages extras, run = .ok (server.sendMany messages) ∧
      (messages.filterMap (resultId protobuf)).Perm (extras ++ ids) ∧
      (condition ↔ ∀ callID ∈ extras, callID = 0)

section Rules
variable {protobuf}
variable {server : Server} {run : Except Fault Server} {ids : List Int} {condition : Prop}

theorem Accounts.congr {other : Prop} (accounts : Accounts protobuf server run ids condition)
    (same : condition ↔ other) : Accounts protobuf server run ids other := by
  rwa [← propext same]

theorem accounts_done (server : Server) :
    Accounts protobuf server (.ok server) [] True :=
  .inr ⟨[], [], by simp [Server.sendMany], by simp, by simp⟩

theorem accounts_silent (server : Server) (message : List UInt8)
    (silent : resultId protobuf message = none) :
    Accounts protobuf server (.ok (server.sendData message)) [] True :=
  .inr ⟨[message], [], rfl, by simp [silent], by simp⟩

theorem Accounts.bind {next : Server → Except Fault Server} {others : List Int}
    {condition' : Prop} (first : Accounts protobuf server run ids condition)
    (second : ∀ messages, Accounts protobuf (server.sendMany messages)
      (next (server.sendMany messages)) others condition') :
    Accounts protobuf server (run >>= next) (ids ++ others) (condition ∧ condition') := by
  rcases first with ⟨fault, failed, unmet⟩ | ⟨messages, extras, returned, counted, quiet⟩
  · refine .inl ⟨fault, ?_, fun both => unmet both.1⟩
    rw [failed]
    rfl
  · have image : (run >>= next) = next (server.sendMany messages) := by
      rw [returned]
      rfl
    rcases second messages with
      ⟨fault, failed, unmet⟩ | ⟨later, laterExtras, laterReturned, laterCounted, laterQuiet⟩
    · exact .inl ⟨fault, image.trans failed, fun both => unmet both.2⟩
    · refine .inr ⟨messages ++ later, extras ++ laterExtras, ?_, ?_, ?_⟩
      · rw [image, laterReturned]
        simp [Server.sendMany]
      · rw [List.filterMap_append]
        refine (counted.append laterCounted).trans ?_
        rw [List.append_assoc, List.append_assoc]
        apply List.Perm.append_left
        rw [← List.append_assoc, ← List.append_assoc]
        exact List.Perm.append_right others List.perm_append_comm
      · rw [quiet, laterQuiet, List.forall_mem_append]

end Rules

/-! ## Calls of a callback -/

/-- The call reads valid pointers only and sends no result under a method id
other than 0. -/
def Send.Quiet : Send → Prop
  | .sendCapabilities id caps => ∃ sensors, caps.sensors.visit = .ok sensors ∧
      ((∀ sensor ∈ sensors, sensor.Known) ∨ methodId id = 0)
  | .sendActiveSensor id pSensor => KnownPointer pSensor ∨ methodId id = 0

section Live
variable (rejects : RejectsEmptyEnvelope protobuf)
include rejects

/-- A result that no request asked for. -/
theorem accounts_extra (server : Server) (live : server.session = true) (id : Int64)
    (code : Int32) :
    Accounts protobuf server (.ok (server.sendMethodCallResult protobuf (methodId id) code))
      [] (methodId id = 0) := by
  rw [sendMethodCallResult_live protobuf server live rejects]
  refine .inr ⟨[resultMessage protobuf (methodId id) code], [callNumber id], rfl, ?_, ?_⟩
  · simp [resultId_resultMessage, callNumber]
  · simp [callNumber_eq_zero]

/-- The result of the request itself. -/
theorem accounts_result (server : Server) (live : server.session = true) (id : Int64)
    (code : Int32) :
    Accounts protobuf server (.ok (server.sendMethodCallResult protobuf (methodId id) code))
      [callNumber id] True := by
  rw [sendMethodCallResult_live protobuf server live rejects]
  refine .inr ⟨[resultMessage protobuf (methodId id) code], [], rfl, ?_, by simp⟩
  simp [resultId_resultMessage, callNumber]

theorem accounts_sendCapabilities (server : Server) (live : server.session = true)
    (id : Int64) (caps : Capabilities) :
    Accounts protobuf server (server.perform protobuf (.sendCapabilities id caps)) []
      (Send.sendCapabilities id caps).Quiet := by
  cases visited : caps.sensors.visit with
  | error fault =>
      refine .inl ⟨fault, ?_, ?_⟩
      · simp [Server.perform, Server.sendCapabilities, protoSensors, visited, bind, Except.bind]
      · rintro ⟨sensors, found, _⟩
        rw [visited] at found
        contradiction
  | ok sensors =>
      have call := sendCapabilities_live protobuf server live id caps sensors visited
      have quiet : (Send.sendCapabilities id caps).Quiet ↔
          (∀ sensor ∈ sensors, sensor.Known) ∨ methodId id = 0 := by
        simp [Send.Quiet, visited]
      by_cases known : ∀ sensor ∈ sensors, sensor.Known
      · have silent : resultId protobuf (capabilitiesMessage protobuf id sensors) = none := by
          apply resultId_of_type
          rw [capabilitiesMessage, messageType_makeMessage]
          · decide
          · exact (protoEntries_initialized protobuf sensors).trans (decide_eq_true known)
        have holds : (Send.sendCapabilities id caps).Quiet := quiet.mpr (.inl known)
        rw [if_pos known] at call
        rw [Server.perform, call]
        exact (accounts_silent server _ silent).congr (iff_of_true trivial holds)
      · rw [if_neg known] at call
        rw [Server.perform, call]
        apply (accounts_extra protobuf rejects server live id (-1)).congr
        rw [quiet, or_iff_right known]

theorem accounts_sendActiveSensor (server : Server) (live : server.session = true)
    (id : Int64) (pSensor : Option SensorBase) :
    Accounts protobuf server (server.perform protobuf (.sendActiveSensor id pSensor)) []
      (Send.sendActiveSensor id pSensor).Quiet := by
  have call := sendActivatedSensorState_live protobuf server live id pSensor
  by_cases known : KnownPointer pSensor
  · have silent : resultId protobuf (activatedMessage protobuf id pSensor) = none := by
      apply resultId_of_type
      rw [activatedMessage, messageType_makeMessage]
      · decide
      · exact (activeSensor_initialized protobuf pSensor).trans (decide_eq_true known)
    rw [if_pos known] at call
    rw [Server.perform, call]
    exact (accounts_silent server _ silent).congr (iff_of_true trivial (.inl known))
  · rw [if_neg known] at call
    rw [Server.perform, call]
    apply (accounts_extra protobuf rejects server live id (-1)).congr
    rw [Send.Quiet, or_iff_right known]

theorem accounts_perform (server : Server) (live : server.session = true) (send : Send) :
    Accounts protobuf server (server.perform protobuf send) [] send.Quiet := by
  cases send with
  | sendCapabilities id caps =>
      exact accounts_sendCapabilities protobuf rejects server live id caps
  | sendActiveSensor id pSensor =>
      exact accounts_sendActiveSensor protobuf rejects server live id pSensor

theorem accounts_performAll (server : Server) (live : server.session = true)
    (sends : List Send) :
    Accounts protobuf server (server.performAll protobuf sends) []
      (∀ send ∈ sends, send.Quiet) := by
  induction sends generalizing server with
  | nil => exact (accounts_done server).congr (by simp)
  | cons send rest ih =>
      have both : Accounts protobuf server (server.performAll protobuf (send :: rest)) ([] ++ [])
          (send.Quiet ∧ ∀ other ∈ rest, other.Quiet) :=
        (accounts_perform protobuf rejects server live send).bind
          fun messages => ih (server.sendMany messages) live
      exact both.congr (by simp)

/-! ## Requests -/

theorem accounts_callback (server : Server) (live : server.session = true) (id : Int64)
    (callback : Behaviour) :
    Accounts protobuf server
      (do let server ← server.performAll protobuf callback.sends
          .ok (server.sendMethodCallResult protobuf (methodId id) callback.code))
      [callNumber id] (∀ send ∈ callback.sends, send.Quiet) := by
  have both : Accounts protobuf server
      (do let server ← server.performAll protobuf callback.sends
          .ok (server.sendMethodCallResult protobuf (methodId id) callback.code))
      ([] ++ [callNumber id]) ((∀ send ∈ callback.sends, send.Quiet) ∧ True) :=
    (accounts_performAll protobuf rejects server live callback.sends).bind
      fun messages => accounts_result protobuf rejects (server.sendMany messages) live id
        callback.code
  exact both.congr (by simp)

end Live

/-- A registered callback makes quiet calls only, and for sensor control the
request has no entries. -/
def Request.Answered (server : Server) (request : Request) : Prop :=
  match request.message with
  | .requestCapabilities req =>
      isInitialized req = true → server.onClientCapsRequest = true →
        ∀ send ∈ request.callback.sends, send.Quiet
  | .sensorControl req =>
      isInitialized req = true → server.onSensorControlRequest = true →
        req.config = [] ∧ ∀ send ∈ request.callback.sends, send.Quiet

/-- A registered callback's request with entries does not come to its result. -/
theorem sensorControlRequest_faults (server : Server) (req : SensorsControl) (id : Int64)
    (callback : Behaviour) (initialized : isInitialized req = true)
    (registered : server.onSensorControlRequest = true) (entries : req.config ≠ []) :
    ∃ fault, server.callbackEmserverSensorControlRequest protobuf req id callback =
      .error fault := by
  unfold Server.callbackEmserverSensorControlRequest
  rw [if_neg (by simpa using initialized), if_pos registered]
  cases native : nativeSensors protobuf req with
  | error fault => exact ⟨fault, rfl⟩
  | ok nativeConfig =>
      cases calls : server.performAll protobuf callback.sends with
      | error fault =>
          refine ⟨fault, ?_⟩
          simp only [bind, Except.bind]
      | ok after =>
          have unusable := nativeSensors_unusable protobuf req entries nativeConfig native
          refine ⟨.nullPointer, ?_⟩
          simp only [bind, Except.bind, unusable.2]

section Live
variable (rejects : RejectsEmptyEnvelope protobuf)
variable (server : Server) (live : server.session = true)
include rejects live

theorem accounts_capsRequest (req : RequestCapabilities) (id : Int64) (callback : Behaviour) :
    Accounts protobuf server (server.callbackEmserverCapsRequest protobuf req id callback)
      [callNumber id] (Request.Answered server ⟨.requestCapabilities req, id, callback⟩) := by
  have result := accounts_result protobuf rejects server live id
  unfold Server.callbackEmserverCapsRequest
  by_cases initialized : isInitialized req = true
  · rw [initialized]
    by_cases registered : server.onClientCapsRequest = true
    · rw [registered]
      apply (accounts_callback protobuf rejects server live id callback).congr
      simp [Request.Answered, initialized, registered]
    · rw [if_neg (by simp), if_neg registered]
      exact (result (-1)).congr (by simp [Request.Answered, registered])
  · rw [if_pos (by simp at initialized)]
    exact (result (-2)).congr (by simp [Request.Answered, initialized])

theorem accounts_sensorControlRequest (req : SensorsControl) (id : Int64)
    (callback : Behaviour) :
    Accounts protobuf server
      (server.callbackEmserverSensorControlRequest protobuf req id callback)
      [callNumber id] (Request.Answered server ⟨.sensorControl req, id, callback⟩) := by
  have result := accounts_result protobuf rejects server live id
  unfold Server.callbackEmserverSensorControlRequest
  by_cases initialized : isInitialized req = true
  case neg =>
    rw [if_pos (by simpa using initialized)]
    exact (result (-2)).congr (by simp [Request.Answered, initialized])
  by_cases registered : server.onSensorControlRequest = true
  case neg =>
    rw [if_neg (by simpa using initialized), if_neg registered]
    exact (result (-2)).congr (by simp [Request.Answered, registered])
  rw [if_neg (by simpa using initialized), if_pos registered]
  by_cases entries : req.config = []
  · have native : nativeSensors protobuf req = .ok ⟨0, none⟩ := by
      simp [nativeSensors, entries, nativeSensorsLoop]
    have freed : freeSensors (some ⟨0, none⟩) = .ok [] := rfl
    rw [native]
    simp only [freed, bind, Except.bind]
    apply (accounts_callback protobuf rejects server live id callback).congr
    simp [Request.Answered, initialized, registered, entries]
  · obtain ⟨fault, failed⟩ := sensorControlRequest_faults protobuf server req id callback
      initialized registered entries
    unfold Server.callbackEmserverSensorControlRequest at failed
    rw [if_neg (by simpa using initialized), if_pos registered] at failed
    refine .inl ⟨fault, failed, ?_⟩
    simp [Request.Answered, initialized, registered, entries]

theorem accounts_handle (request : Request) :
    Accounts protobuf server (server.handle protobuf request) [callNumber request.id]
      (request.Answered server) := by
  obtain ⟨message, id, callback⟩ := request
  cases message with
  | requestCapabilities req =>
      exact accounts_capsRequest protobuf rejects server live req id callback
  | sensorControl req =>
      exact accounts_sensorControlRequest protobuf rejects server live req id callback

theorem accounts_handleAll (requests : List Request) :
    Accounts protobuf server (server.handleAll protobuf requests)
      (requests.map fun request => callNumber request.id)
      (∀ request ∈ requests, request.Answered server) := by
  induction requests generalizing server with
  | nil => exact (accounts_done server).congr (by simp)
  | cons request rest ih =>
      have both : Accounts protobuf server (server.handleAll protobuf (request :: rest))
          ([callNumber request.id] ++ rest.map fun other => callNumber other.id)
          (request.Answered server ∧ ∀ other ∈ rest, other.Answered server) :=
        (accounts_handle protobuf rejects server live request).bind
          fun messages => ih (server.sendMany messages) live
      exact both.congr (by simp)

end Live

/-- Distinct ids are counted once each, and nothing else non-zero is counted,
exactly when the rest is zero. -/
theorem counted_once_iff (ids extras results : List Int) (distinct : ids.Nodup)
    (nonzero : ∀ id ∈ ids, id ≠ 0) (counted : results.Perm (extras ++ ids)) :
    ((∀ id ∈ ids, results.count id = 1) ∧ ∀ callID ∈ results, callID ≠ 0 → callID ∈ ids) ↔
      ∀ callID ∈ extras, callID = 0 := by
  have total : ∀ callID, results.count callID = extras.count callID + ids.count callID := by
    intro callID
    rw [counted.count_eq, List.count_append]
  constructor
  · intro exact callID member
    by_contra other
    have inside : callID ∈ ids :=
      exact.2 callID (counted.mem_iff.mpr (List.mem_append_left ids member)) other
    have once := exact.1 callID inside
    have own := List.count_eq_one_of_mem distinct inside
    have again := List.count_pos_iff.mpr member
    rw [total, own] at once
    omega
  · intro zero
    constructor
    · intro id member
      have absent : id ∉ extras := by
        intro extra
        exact nonzero id member (zero id extra)
      rw [total, List.count_eq_zero_of_not_mem absent, List.count_eq_one_of_mem distinct member]
    · intro callID member other
      rcases List.mem_append.mp (counted.mem_iff.mp member) with extra | inside
      · exact absurd (zero callID extra) other
      · exact inside

/-- Requests with distinct positive 32-bit ids get exactly one result each
exactly when every one of them is answered. -/
theorem results_exact_iff (rejects : RejectsEmptyEnvelope protobuf) (server : Server)
    (live : server.session = true) (requests : List Request)
    (range : ∀ request ∈ requests, 1 ≤ request.id.toInt ∧ request.id.toInt ≤ 2147483647)
    (distinct : (requests.map Request.id).Nodup) :
    ResultsExact protobuf server requests ↔
      ∀ request ∈ requests, request.Answered server := by
  have ids : (requests.map fun request => callNumber request.id) =
      requests.map fun request => request.id.toInt := by
    apply List.map_congr_left
    intro request member
    exact callNumber_eq request.id (range request member).1 (range request member).2
  have accounts := accounts_handleAll protobuf rejects server live requests
  rw [ids] at accounts
  rcases accounts with ⟨fault, failed, unmet⟩ | ⟨messages, extras, returned, counted, quiet⟩
  · apply iff_of_false _ unmet
    rintro ⟨after, messages, run, _⟩
    rw [failed] at run
    contradiction
  · have nodup : (requests.map fun request => request.id.toInt).Nodup := by
      have numbers := distinct.map (f := Int64.toInt) fun first second => Int64.toInt_inj.mp
      rwa [List.map_map] at numbers
    have nonzero : ∀ id ∈ requests.map fun request => request.id.toInt, id ≠ 0 := by
      intro id member
      obtain ⟨request, inside, rfl⟩ := List.mem_map.mp member
      have positive := (range request inside).1
      omega
    rw [quiet, ← counted_once_iff _ extras _ nodup nonzero counted]
    constructor
    · rintro ⟨after, others, run, sent, exact, owned⟩
      rw [returned] at run
      cases run
      have same := List.append_cancel_left sent
      subst same
      refine ⟨List.forall_mem_map.mpr exact, ?_⟩
      intro callID member other
      obtain ⟨request, inside, id⟩ := owned callID member other
      exact List.mem_map.mpr ⟨request, inside, id.symm⟩
    · rintro ⟨exact, owned⟩
      refine ⟨_, messages, returned, rfl, List.forall_mem_map.mp exact, ?_⟩
      intro callID member other
      obtain ⟨request, inside, id⟩ := List.mem_map.mp (owned callID member other)
      exact ⟨request, inside, id.symm⟩

end Codecs

/-- The request of a client whose callback answers with an array that holds a
sensor of type `sensorUnknown`, and returns the code of that call. -/
def unknownSensorRequest : Request :=
  ⟨.requestCapabilities ⟨none⟩, 1,
    ⟨[.sendCapabilities 1 ⟨⟨1, some [some (.other 2 sensorUnknown)]⟩⟩], -1⟩⟩

def answeredRequest : Request :=
  ⟨.requestCapabilities ⟨none⟩, 1,
    ⟨[.sendCapabilities 1 ⟨⟨1, some [some (.dryContact 2 true false)]⟩⟩], 0⟩⟩

/-- A request of the other kind, with an id of its own. -/
def emptyControl : Request := ⟨.sensorControl ⟨[]⟩, 2, ⟨[], -3⟩⟩

theorem results_exact_iff_answered :
    ResultsExact wire ⟨true, true, true, []⟩ [answeredRequest, emptyControl] := by
  refine (results_exact_iff wire rfl ⟨true, true, true, []⟩ rfl [answeredRequest, emptyControl]
    (by decide) (by decide)).mpr ?_
  intro request member
  rcases List.mem_pair.mp member with rfl | rfl
  · intro _ _ send sent
    rw [List.mem_singleton.mp sent]
    refine ⟨[.dryContact 2 true false], rfl, .inl ?_⟩
    intro sensor inside
    rw [List.mem_singleton.mp inside]
    trivial
  · exact fun _ _ => ⟨rfl, nofun⟩

theorem unknownSensorRequest_twice :
    (∃ after, Server.handleAll wire ⟨true, true, true, []⟩ [unknownSensorRequest] = .ok after ∧
      after.sent.filterMap (resultId wire) = [1, 1]) ∧
      ¬ ResultsExact wire ⟨true, true, true, []⟩ [unknownSensorRequest] := by
  have twice : (Server.handleAll wire ⟨true, true, true, []⟩ [unknownSensorRequest]).map
      (fun after => after.sent.filterMap (resultId wire)) = .ok [1, 1] := by decide +kernel
  cases run : Server.handleAll wire ⟨true, true, true, []⟩ [unknownSensorRequest] with
  | error fault =>
      rw [run] at twice
      contradiction
  | ok after =>
      rw [run] at twice
      have sent : after.sent.filterMap (resultId wire) = [1, 1] := Except.ok.inj twice
      refine ⟨⟨after, rfl, sent⟩, ?_⟩
      rintro ⟨other, messages, again, split, exact, _⟩
      rw [run] at again
      cases again
      rw [split] at sent
      have once := exact unknownSensorRequest List.mem_cons_self
      rw [show messages.filterMap (resultId wire) = [1, 1] from sent] at once
      contradiction

end Emserver.CServer
