import Mathlib.Data.List.Nodup
import Emserver.CServer
import Emserver.EmserverAdapter

/-!
# Request ids

An id goes from the `int64_t` counter through an `int32_t` local to the caller
and the envelope, and comes back through a `uint32_t` parameter and field and an
`int64_t` descriptor.  The ids of a run from the first counter value correlate
requests and results as long as the counter stays below `2^31`.
-/

set_option autoImplicit false

namespace Emserver.Requests

open Emserver.Protobuf
open Emserver.EmserverProcessor
open Emserver.EmserverAdapter

/-- The adapter of a fresh process, with a session. -/
def fresh : Adapter := ⟨1, true, []⟩

section Ids
variable (protobuf : Codecs)

/-- The values returned to the caller. -/
def Adapter.issueIds (adapter : Adapter) : List Request → List Int64
  | [] => []
  | request :: rest =>
      let (id, adapter) := adapter.issue protobuf request
      id :: Adapter.issueIds adapter rest

/-- The result a server over a live session sends for the id reaches the
client's error handler, which reports it under the id. -/
def ReportedAs (id : Int64) : Prop :=
  ∀ (server : CServer.Server) (code : Int32), server.session = true →
    ∃ message notification envelope,
      (server.sendMethodCallResult protobuf (CServer.methodId id) code).sent =
        server.sent ++ [message] ∧
      receive protobuf message =
        .ok ⟨true, [⟨.onServerRuntimeNotification,
          .serverRuntimeNotification notification, envelope⟩]⟩ ∧
      (onServerRuntimeNotification notification).methodCode = id

structure Correlated (adapter : Adapter) (requests : List Request) : Prop where
  positive : ∀ id ∈ adapter.issueIds protobuf requests, 0 < id.toInt
  distinct : (adapter.issueIds protobuf requests).Nodup
  noError : ∀ id ∈ adapter.issueIds protobuf requests,
    id ≠ wrongCallCode.toInt64 ∧ id ≠ invalidSessionError.toInt64
  sent : ∃ messages, (adapter.issueAll protobuf requests).sent = adapter.sent ++ messages ∧
    List.Forall₂ (fun id message => envelopeId protobuf message = some id)
      (adapter.issueIds protobuf requests) messages
  reported : ∀ id ∈ adapter.issueIds protobuf requests, ReportedAs protobuf id

/-- What becomes of the counter value `number`. -/
def counterId (number : Nat) : Int64 := (Int64.ofNat number).toInt32.toInt64

/-! ## The four conversions -/

theorem counterId_small (number : Nat) (small : number < 2147483648) :
    (counterId number).toInt = number := by
  have wide : (Int64.ofNat number).toInt = number := Int64.toInt_ofNat_of_lt (by omega)
  rw [counterId, Int32.toInt_toInt64, Int64.toInt_toInt32, wide, Int.bmod_def]
  omega

theorem counterId_wrapped : (counterId 2147483648).toInt < 0 := by decide

/-- Below `2^32` the `uint32_t` parameter keeps the id. -/
theorem methodId_widened (id : Int64) (small : id.toUInt64.toNat < 4294967296) :
    (CServer.methodId id).toUInt64.toInt64 = id := by
  have kept : (CServer.methodId id).toUInt64 = id.toUInt64 := by
    apply UInt64.toNat_inj.mp
    rw [CServer.methodId, UInt32.toNat_toUInt64, UInt64.toNat_toUInt32]
    exact Nat.mod_eq_of_lt small
  rw [kept, Int64.toInt64_toUInt64]

theorem counterId_ne (first second : Nat) (firstSmall : first < 2147483648)
    (secondSmall : second < 2147483648) (same : counterId first = counterId second) :
    first = second := by
  have numbers := congrArg Int64.toInt same
  rw [counterId_small first firstSmall, counterId_small second secondSmall] at numbers
  omega

theorem not_errorCode (id : Int64) (positive : 0 < id.toInt) :
    id ≠ wrongCallCode.toInt64 ∧ id ≠ invalidSessionError.toInt64 := by
  constructor
  · rintro rfl
    exact absurd positive (by decide)
  · rintro rfl
    exact absurd positive (by decide)

/-! ## Runs -/

section Rejects
variable (rejects : RejectsEmptyEnvelope protobuf)
include rejects

theorem issue_returns (adapter : Adapter) (request : Request)
    (live : adapter.session = true) :
    (adapter.issue protobuf request).1 = adapter.methodCounter.toInt32.toInt64 := by
  have made : requestBytes protobuf adapter request ≠ [] :=
    makeMessage_nonempty protobuf rejects _ _ _ (requestMessage_initialized protobuf request)
  have nonempty : (requestBytes protobuf adapter request).isEmpty = false := by
    simpa using made
  rw [requestBytes] at nonempty
  rw [issue_eq, Adapter.send]
  simp only [nonempty, live, Bool.false_eq_true, if_false, if_true]

theorem issueIds_eq (requests : List Request) (adapter : Adapter) (number : Nat)
    (counter : adapter.methodCounter = Int64.ofNat number) (live : adapter.session = true) :
    adapter.issueIds protobuf requests =
      (List.range' number requests.length).map counterId := by
  induction requests generalizing adapter number with
  | nil => rfl
  | cons request rest ih =>
      have after := issue_live protobuf adapter request live
      have next : (adapter.issue protobuf request).2.methodCounter =
          Int64.ofNat (number + 1) := by
        rw [after, counter, Int64.ofNat_add]
        rfl
      have tail := ih (adapter.issue protobuf request).2 (number + 1) next (by rw [after])
      rw [Adapter.issueIds, List.length_cons, List.range'_succ, List.map_cons]
      simp only [issue_returns protobuf rejects adapter request live, tail, counter]
      rfl

theorem issueAll_ids (requests : List Request) (adapter : Adapter)
    (live : adapter.session = true) :
    ∃ messages, (adapter.issueAll protobuf requests).sent = adapter.sent ++ messages ∧
      List.Forall₂ (fun id message => envelopeId protobuf message = some id)
        (adapter.issueIds protobuf requests) messages := by
  induction requests generalizing adapter with
  | nil => exact ⟨[], by simp [Adapter.issueAll], .nil⟩
  | cons request rest ih =>
      have after := issue_live protobuf adapter request live
      obtain ⟨messages, sent, carried⟩ := ih (adapter.issue protobuf request).2 (by rw [after])
      refine ⟨requestBytes protobuf adapter request :: messages, ?_, ?_⟩
      · rw [Adapter.issueAll, sent, after]
        simp
      · refine .cons ?_ carried
        have returned := issue_returns protobuf rejects adapter request live
        exact (envelopeId_requestBytes protobuf adapter request).trans
          (congrArg some returned.symm)

theorem reportedAs_small (id : Int64) (small : id.toUInt64.toNat < 4294967296) :
    ReportedAs protobuf id := by
  intro server code live
  refine ⟨CServer.resultMessage protobuf (CServer.methodId id) code,
    ⟨some (CServer.methodId id), some code, none⟩, -1, ?_, ?_, methodId_widened id small⟩
  · rw [CServer.sendMethodCallResult_live protobuf server live rejects]
    rfl
  · exact receive_makeMessage protobuf (.serverRuntimeNotification _) (-1) rfl

theorem correlated_of_short (requests : List Request)
    (short : requests.length < 2147483648) : Correlated protobuf fresh requests := by
  have ids := issueIds_eq protobuf rejects requests fresh 1 rfl rfl
  have small : ∀ id ∈ fresh.issueIds protobuf requests,
      ∃ number, 1 ≤ number ∧ number < 2147483648 ∧ counterId number = id := by
    intro id member
    rw [ids] at member
    obtain ⟨number, inside, image⟩ := List.mem_map.mp member
    have bounds := List.mem_range'_1.mp inside
    exact ⟨number, bounds.1, by omega, image⟩
  have positive : ∀ id ∈ fresh.issueIds protobuf requests, 0 < id.toInt := by
    intro id member
    obtain ⟨number, least, bound, rfl⟩ := small id member
    rw [counterId_small number bound]
    omega
  constructor
  · exact positive
  · rw [ids]
    apply List.Nodup.map_on _ List.nodup_range'
    intro first firstInside second secondInside same
    have firstBounds := List.mem_range'_1.mp firstInside
    have secondBounds := List.mem_range'_1.mp secondInside
    exact counterId_ne first second (by omega) (by omega) same
  · intro id member
    exact not_errorCode id (positive id member)
  · exact issueAll_ids protobuf rejects requests fresh rfl
  · intro id member
    obtain ⟨number, least, bound, rfl⟩ := small id member
    apply reportedAs_small protobuf rejects
    have image := counterId_small number bound
    have widened := CServer.requestid_toNat (counterId number) (by omega)
    omega

/-- The call that finds the counter at `2^31` returns a negative value. -/
theorem not_correlated_of_long (requests : List Request)
    (long : 2147483648 ≤ requests.length) : ¬ Correlated protobuf fresh requests := by
  intro correlated
  have ids := issueIds_eq protobuf rejects requests fresh 1 rfl rfl
  have member : counterId 2147483648 ∈ fresh.issueIds protobuf requests := by
    rw [ids]
    apply List.mem_map_of_mem
    apply List.mem_range'_1.mpr
    omega
  have positive := correlated.positive _ member
  have negative := counterId_wrapped
  omega

/-- Ids correlate requests and results for runs of fewer than `2^31` requests. -/
theorem correlated_iff (requests : List Request) :
    Correlated protobuf fresh requests ↔ requests.length < 2147483648 := by
  constructor
  · intro correlated
    by_contra long
    exact not_correlated_of_long protobuf rejects requests (by omega) correlated
  · exact correlated_of_short protobuf rejects requests

end Rejects
end Ids

theorem correlated_iff_two :
    Correlated wire fresh [.sendRequestCapabilities, .sendSensorsControl []] ↔
      [Request.sendRequestCapabilities, .sendSensorsControl []].length < 2147483648 :=
  correlated_iff wire rfl _

/-- A run that brings the counter past the largest `int32_t`. -/
def longRun : List Request := List.replicate 2147483648 .sendRequestCapabilities

theorem longRun_not_correlated : ¬ Correlated wire fresh longRun := by
  have size : longRun.length = 2147483648 := List.length_replicate
  apply not_correlated_of_long wire rfl
  omega

end Emserver.Requests
