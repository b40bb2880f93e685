import Emserver.System.Publications

/-!
# The calls of the client

The requests a client waits for in `m_calls`, against the results its server
publishes.  Every request is answered once and in order, and the map holds the
calls without a result, exactly as long as the server's user publishes no result
of its own, the counter stays an `int32_t`, and no result overtakes the return
of the `sendRequestCapabilities` it is for.
-/

set_option autoImplicit false

namespace Emserver.System

open Emserver.Protobuf
open Emserver.EmserverProcessor
open Emserver.Requests
open Lib.Runs

/-- The key of the request that finds the counter at `number`. -/
def callKey (number : Nat) : Int32 := (counterId number).toInt32

/-- The keys of the first `count` requests. -/
def callKeys (count : Nat) : List Int32 := (List.range' 1 count).map callKey

def results (published : List Publication) : List Int32 :=
  published.filterMap Publication.result

/-- The call whose callback is running. -/
def running (handling : Option Handling) : Option Int32 :=
  handling.map fun current => current.id.toInt32

/-- The client and the server agree on the calls: the results published are
those of the requests taken, one each and in their order, and the client waits
for the calls whose result it has not heard. -/
structure InStep (state : State) (published : List Publication) : Prop where
  positive : ∀ call ∈ callKeys state.client.adapter.sent.length, 0 < call.toInt
  answered : results published ++ (running state.handling).toList = callKeys state.taken
  waiting : ∀ call, call ∈ state.client.calls ∨ state.client.ret = some call ↔
    call ∈ callKeys state.client.adapter.sent.length ∧
      call ∉ results (published.take state.received)

/-- The condition on a step: the counter stays an `int32_t`, the server's user
publishes no results, and the client does not hear the result of a call that it
is still to enter. -/
def InTime (pair : State × List Publication) : Event → Prop
  | .sendRequestCapabilities => pair.1.client.adapter.sent.length + 1 < 2147483648
  | .perform => ∀ id send sends code, pair.1.handling = some ⟨id, send :: sends, code⟩ →
      send.Quiet
  | .send send => send.Quiet
  | .receive => ∀ one call, pair.2[pair.1.received]? = some one → one.result = some call →
      pair.1.client.ret ≠ some call
  | .recordCall => True
  | .take _ => True
  | .finish => True
  | .runtimeError _ _ => True

/-! ## Keys -/

theorem callKey_small (number : Nat) (small : number < 2147483648) :
    (callKey number).toInt = number := by
  have wide := counterId_small number small
  rw [counterId, Int32.toInt_toInt64] at wide
  rw [callKey, counterId, Int32.toInt32_toInt64, wide]

theorem callKey_positive (number : Nat) (positive : 0 < number) (small : number < 2147483648) :
    0 < (callKey number).toInt := by
  rw [callKey_small number small]
  omega

theorem callKey_nonnegative (number : Nat) (small : number < 2147483648) :
    0 ≤ callKey number := by
  rw [Int32.le_iff_toInt_le, callKey_small number small]
  exact Int.natCast_nonneg number

theorem callKey_wrapped : (callKey 2147483648).toInt < 0 := by decide

theorem callKeys_succ (count : Nat) :
    callKeys (count + 1) = callKeys count ++ [callKey (count + 1)] := by
  rw [callKeys, List.range'_concat, List.map_append, Nat.one_mul, Nat.add_comm 1 count]
  rfl

theorem callKeys_number (count : Nat) (call : Int32)
    (member : call ∈ callKeys count) :
    ∃ number, 0 < number ∧ number ≤ count ∧ callKey number = call := by
  obtain ⟨number, inside, same⟩ := List.mem_map.mp member
  have bounds := List.mem_range'_1.mp inside
  exact ⟨number, by omega, by omega, same⟩

theorem callKeys_nodup (count : Nat) (short : count < 2147483648) : (callKeys count).Nodup := by
  apply List.Nodup.map_on _ List.nodup_range'
  intro first firstInside second secondInside same
  have firstBounds := List.mem_range'_1.mp firstInside
  have secondBounds := List.mem_range'_1.mp secondInside
  have numbers := congrArg Int32.toInt same
  rw [callKey_small first (by omega), callKey_small second (by omega)] at numbers
  omega

theorem callKeys_grow (count more : Nat) (less : count ≤ more) :
    callKeys count <+: callKeys more := by
  obtain ⟨rest, rfl⟩ := Nat.exists_eq_add_of_le less
  rw [callKeys, callKeys, ← List.range'_append_1, List.map_append]
  exact List.prefix_append _ _

/-! ## Results -/

/-- The result of a request carries the key of its call. -/
theorem result_finish (number : Nat) (positive : 0 < number) (small : number < 2147483648)
    (code : Int32) :
    (Publication.notification (CServer.methodId (counterId number)) code none).result =
      some (callKey number) := by
  have value := counterId_small number small
  have nonnegative := CServer.requestid_toNat (counterId number) (by omega)
  have widened := methodId_widened (counterId number) (by omega)
  have nonzero : counterId number ≠ 0 := by
    intro zero
    rw [zero] at value
    have none : (0 : Int64).toInt = 0 := by decide
    omega
  rw [Publication.result, widened, if_pos nonzero]
  rfl

theorem result_notification_none (methodId : UInt32) (code : Int32)
    (description : Option (List UInt8)) :
    (Publication.notification methodId code description).result = none ↔ methodId = 0 := by
  have zero : methodId.toUInt64.toInt64 = 0 ↔ methodId = 0 := by
    constructor
    · intro none
      have wide := congrArg Int64.toUInt64 none
      rw [UInt64.toUInt64_toInt64] at wide
      have number := congrArg UInt64.toNat wide
      rw [UInt32.toNat_toUInt64] at number
      exact UInt32.toNat_inj.mp number
    · rintro rfl
      rfl
  rw [← zero, Publication.result]
  simp

/-- What a call publishes is no result exactly when the call is quiet. -/
theorem result_none_iff (send : CServer.Send) (one : Publication)
    (made : publication send = some one) : one.result = none ↔ send.Quiet := by
  cases send with
  | sendCapabilities id caps =>
      obtain ⟨sensors, visited, rfl⟩ := Option.map_eq_some_iff.mp made
      have read : caps.sensors.visit = .ok sensors := by
        cases visit : caps.sensors.visit with
        | error fault => simp [visit, Except.toOption] at visited
        | ok others => simpa [visit, Except.toOption] using visited
      have quiet : (CServer.Send.sendCapabilities id caps).Quiet ↔
          (∀ sensor ∈ sensors, sensor.Known) ∨ CServer.methodId id = 0 := by
        simp [CServer.Send.Quiet, read]
      rw [quiet]
      by_cases known : ∀ sensor ∈ sensors, sensor.Known
      · rw [if_pos known]
        exact iff_of_true rfl (.inl known)
      · rw [if_neg known, result_notification_none, or_iff_right known]
  | sendActiveSensor id pSensor =>
      cases pSensor with
      | none =>
          cases made
          rw [result_notification_none]
          exact (or_iff_right fun known => known).symm
      | some sensor =>
          simp only [publication] at made
          by_cases known : sensor.Known
          · rw [if_pos known] at made
            cases made
            exact iff_of_true rfl (.inl known)
          · rw [if_neg known] at made
            cases made
            rw [result_notification_none]
            exact (or_iff_right fun pointer => known pointer).symm

/-! ## Accounting -/

/-- The calls in the order of their requests. -/
def Client.waiting (client : Client) : List Int32 :=
  client.calls.reverse ++ client.ret.toList

structure Accounted (state : State) (published : List Publication) : Prop where
  short : state.client.adapter.sent.length < 2147483648
  answered : results published ++ (running state.handling).toList = callKeys state.taken
  waiting : results (published.take state.received) ++ state.client.waiting =
    callKeys state.client.adapter.sent.length

theorem results_append (past future : List Publication) :
    results (past ++ future) = results past ++ results future :=
  List.filterMap_append

theorem results_singleton (one : Publication) : results [one] = one.result.toList := by
  cases answers : one.result <;> simp [results, answers]

theorem inStep_of_accounted {state : State} {published : List Publication}
    (accounted : Accounted state published) : InStep state published := by
  have distinct := callKeys_nodup _ accounted.short
  refine ⟨?_, accounted.answered, ?_⟩
  · intro call member
    obtain ⟨number, positive, bound, rfl⟩ := callKeys_number _ call member
    have short := accounted.short
    exact callKey_positive number positive (by omega)
  · intro call
    rw [← accounted.waiting] at distinct ⊢
    have apart := List.disjoint_of_nodup_append distinct
    have inside : call ∈ state.client.waiting ↔
        call ∈ state.client.calls ∨ state.client.ret = some call := by
      simp [Client.waiting]
    rw [← inside, List.mem_append]
    constructor
    · intro waits
      exact ⟨.inr waits, fun answered => apart answered waits⟩
    · rintro ⟨answered | waits, unanswered⟩
      · exact absurd answered unanswered
      · exact waits

/-- The next result is for the first call that waits. -/
theorem waiting_next (protobuf : Codecs) {state : State} {published : List Publication}
    (served : Served protobuf state published) (accounted : Accounted state published)
    {one : Publication} {call : Int32} (next : published[state.received]? = some one)
    (answers : one.result = some call) :
    ∃ rest, state.client.waiting = call :: rest := by
  have grown := published_grown next
  have heard : results (published.take (state.received + 1)) =
      results (published.take state.received) ++ [call] := by
    rw [grown, results_append, results_singleton, answers]
    rfl
  have early : results (published.take (state.received + 1)) <+: results published :=
    (List.take_prefix _ _).filterMap _
  have requested : results published <+: callKeys state.client.adapter.sent.length := by
    have taken : results published <+: callKeys state.taken := by
      rw [← accounted.answered]
      exact List.prefix_append _ _
    exact taken.trans (callKeys_grow _ _ served.taken)
  obtain ⟨rest, split⟩ := early.trans requested
  rw [heard, ← accounted.waiting, List.append_assoc] at split
  exact ⟨rest, (List.append_cancel_left split).symm⟩

/-! ## Steps -/

theorem result_toList_append (one : Publication) (calls : List Int32) :
    one.result.toList ++ calls = calls ↔ one.result = none := by
  cases one.result with
  | none => simp
  | some call => simp

/-- An entered call waits as it did while it was returned. -/
theorem waiting_recordCall {state : State} {published : List Publication}
    (accounted : Accounted state published) (ret : Int32)
    (returned : state.client.ret = some ret) :
    (state.client.recordCall ret).waiting = state.client.waiting := by
  have member : ret ∈ callKeys state.client.adapter.sent.length := by
    rw [← accounted.waiting]
    simp [Client.waiting, returned]
  obtain ⟨number, positive, bound, same⟩ := callKeys_number _ ret member
  have short := accounted.short
  have least : 0 ≤ ret := by
    rw [← same]
    exact callKey_nonnegative number (by omega)
  have absent : ret ∉ state.client.calls := by
    have distinct := callKeys_nodup _ accounted.short
    rw [← accounted.waiting, Client.waiting, returned] at distinct
    have apart := List.disjoint_of_nodup_append (List.Nodup.of_append_right distinct)
    intro entered
    exact apart (List.mem_reverse.mpr entered) List.mem_cons_self
  simp only [Client.waiting, Client.recordCall, if_pos least, List.insert_of_not_mem absent,
    returned]
  simp

section Steps
variable (protobuf : Codecs)
variable {state : State} {published : List Publication}
variable (served : Served protobuf state published) (accounted : Accounted state published)
include served accounted

/-- A publication keeps the account of the results exactly when it is in time. -/
theorem publishes_accounts {handling after : Option Handling} {event : Event}
    {one : Publication} (current : state.handling = handling)
    (made : Publishes handling event one after) :
    one.result.toList ++ (running after).toList = (running state.handling).toList ↔
      InTime (state, published) event := by
  have short : state.taken < 2147483648 := Nat.lt_of_le_of_lt served.taken accounted.short
  have begun := served.handling
  rw [current] at begun ⊢
  cases made with
  | perform id send sends code one performed =>
      have quiet := result_none_iff send one performed
      refine (result_toList_append one [id.toInt32]).trans (quiet.trans ?_)
      constructor
      · intro silent id' send' sends' code' same
        rw [current] at same
        cases same
        exact silent
      · intro inTime
        exact inTime id send sends code current
  | finish id code =>
      obtain ⟨positive, rfl⟩ := begun _ rfl
      rw [result_finish state.taken positive short]
      exact iff_of_true rfl trivial
  | send handling send one performed =>
      have quiet := result_none_iff send one performed
      exact (result_toList_append one _).trans quiet
  | runtimeError handling code err => exact iff_of_true rfl trivial

/-- The result of the first call that waits, if it has been entered. -/
theorem waiting_hear {one : Publication} {call : Int32}
    (next : published[state.received]? = some one) (answers : one.result = some call)
    (entered : state.client.ret ≠ some call) :
    state.client.waiting = call :: (state.client.hear one).waiting := by
  obtain ⟨rest, first⟩ := waiting_next protobuf served accounted next answers
  have distinct := callKeys_nodup _ accounted.short
  rw [← accounted.waiting] at distinct
  have apart := List.Nodup.of_append_right distinct
  rw [Client.waiting] at first apart
  cases oldest : state.client.calls.reverse with
  | nil =>
      rw [oldest, List.nil_append] at first
      cases returned : state.client.ret with
      | none => simp [returned] at first
      | some ret =>
          rw [returned] at first
          obtain ⟨rfl, _⟩ := List.cons.inj first
          exact absurd returned entered
  | cons head tail =>
      rw [oldest] at first apart
      obtain ⟨rfl, _⟩ := List.cons.inj first
      have calls : state.client.calls = tail.reverse ++ [head] := by
        rw [← List.reverse_reverse state.client.calls, oldest, List.reverse_cons]
      have absent : head ∉ tail.reverse := by
        intro member
        have unique := (List.nodup_cons.mp (List.Nodup.of_append_left apart)).1
        exact unique (List.mem_reverse.mp member)
      have erased : (state.client.hear one).calls = tail.reverse := by
        simp only [Client.hear, Publication.callsAfter, answers, calls]
        rw [List.erase_append_right _ absent]
        simp
      rw [Client.waiting, oldest, Client.waiting, erased, List.reverse_reverse]
      rfl

theorem accounted_moved {event : Event} {next : State × List Publication}
    (inTime : InTime (state, published) event)
    (moved : Moved protobuf state published event next) : Accounted next.1 next.2 := by
  cases moved with
  | requests free =>
      have grown := issued_length protobuf (state.client.adapter.sent.length + 1)
      refine ⟨?_, accounted.answered, ?_⟩
      · simp only [grown]
        exact inTime
      · have waiting := accounted.waiting
        rw [Client.waiting, free] at waiting
        simp only [Client.waiting, grown, callKeys_succ, ← waiting]
        simp [callKey]
  | records ret returned =>
      refine ⟨accounted.short, accounted.answered, ?_⟩
      simp only [waiting_recordCall accounted ret returned]
      exact accounted.waiting
  | takes callback idle sent =>
      refine ⟨accounted.short, ?_, accounted.waiting⟩
      have answered := accounted.answered
      rw [idle] at answered
      simp only [callKeys_succ, ← answered]
      simp [running, callKey]
  | publishes event one handling made known =>
      have kept := (publishes_accounts protobuf served accounted rfl made).mpr inTime
      refine ⟨accounted.short, ?_, ?_⟩
      · simp only [results_append, results_singleton, List.append_assoc, kept]
        exact accounted.answered
      · simp only [List.take_append_of_le_length served.received]
        exact accounted.waiting
  | receives one next =>
      refine ⟨accounted.short, accounted.answered, ?_⟩
      have grown := published_grown next
      simp only [grown, results_append]
      cases answers : one.result with
      | none =>
          have same : (state.client.hear one).waiting = state.client.waiting := by
            simp [Client.waiting, Client.hear, Publication.callsAfter, answers]
          rw [same, results_singleton, answers, Option.toList_none, List.append_nil]
          exact accounted.waiting
      | some call =>
          have first := waiting_hear protobuf served accounted next answers
            (inTime one call next answers)
          have waiting := accounted.waiting
          rw [first] at waiting
          rw [results_singleton, answers, List.append_assoc]
          exact waiting

/-- A step that is not in time takes the two sides out of step. -/
theorem inTime_of_inStep {event : Event} {next : State × List Publication}
    (moved : Moved protobuf state published event next) (after : InStep next.1 next.2) :
    InTime (state, published) event := by
  cases moved with
  | requests free =>
      have short := accounted.short
      have positive := after.positive
      simp only [issued_length] at positive
      simp only [InTime]
      by_contra long
      have last : state.client.adapter.sent.length + 1 = 2147483648 := by omega
      rw [last, callKeys_succ 2147483647] at positive
      have value := positive (callKey 2147483648) (List.mem_append_right _ List.mem_cons_self)
      have wrapped := callKey_wrapped
      omega
  | records ret returned => trivial
  | takes callback idle sent => trivial
  | publishes event one handling made known =>
      apply (publishes_accounts protobuf served accounted rfl made).mp
      have answered := after.answered
      simp only [results_append, results_singleton, List.append_assoc, ← accounted.answered]
        at answered
      exact List.append_cancel_left answered
  | receives one next =>
      intro other call found answers returned
      rw [next] at found
      cases found
      have unheard := ((after.waiting call).mp (.inr returned)).2
      apply unheard
      have last : one ∈ published.take (state.received + 1) := by
        rw [published_grown next]
        exact List.mem_append_right _ (List.mem_singleton_self one)
      exact List.mem_filterMap.mpr ⟨one, last, answers⟩

end Steps

theorem accounted_start : Accounted start.1 start.2 :=
  ⟨by decide, rfl, rfl⟩

theorem accounted_kept (protobuf : Codecs) (rejects : RejectsEmptyEnvelope protobuf)
    (pair : State × List Publication) (event : Event) (next : State × List Publication)
    (_admitted : True) (both : Served protobuf pair.1 pair.2 ∧ Accounted pair.1 pair.2)
    (inTime : InTime pair event) (taken : machine protobuf pair event = some next) :
    Served protobuf next.1 next.2 ∧ Accounted next.1 next.2 := by
  obtain ⟨served, accounted⟩ := both
  have moved := machine_moved protobuf rejects served taken
  exact ⟨served_moved protobuf served moved,
    accounted_moved protobuf served accounted inTime moved⟩

/-- The two sides of a connection stay in step exactly as long as every step is
in time. -/
theorem calls_in_step_iff (protobuf : Codecs) (rejects : RejectsEmptyEnvelope protobuf)
    (events : List Event) :
    Throughout (machine protobuf) (fun pair => InStep pair.1 pair.2) start events ↔
      Guarded (machine protobuf) InTime start events := by
  have needed : ∀ pair event next, True →
      (Served protobuf pair.1 pair.2 ∧ Accounted pair.1 pair.2) →
      machine protobuf pair event = some next → InStep next.1 next.2 → InTime pair event := by
    rintro pair event next _ ⟨served, accounted⟩ taken after
    exact inTime_of_inStep protobuf served accounted
      (machine_moved protobuf rejects served taken) after
  exact throughout_iff_guarded (fun _ => True) (accounted_kept protobuf rejects)
    (fun pair both => inStep_of_accounted both.2) needed
    ⟨served_start protobuf, accounted_start⟩ fun _ _ => trivial

theorem calls_in_step_iff_answered :
    Throughout (machine wire) (fun pair => InStep pair.1 pair.2) start
        [.sendRequestCapabilities, .recordCall, .take ⟨[], 0⟩, .finish, .receive] ↔
      Guarded (machine wire) InTime start
        [.sendRequestCapabilities, .recordCall, .take ⟨[], 0⟩, .finish, .receive] :=
  calls_in_step_iff wire rfl _

/-- A result that is heard before the call is entered leaves it in `m_calls` for good. -/
def overtaken : List Event :=
  [.sendRequestCapabilities, .take ⟨[], 0⟩, .finish, .receive, .recordCall]

example : (run (step wire) connected overtaken).map (fun state =>
    (state.client.calls, state.client.heard.length, state.received)) = some ([1], 1, 1) := by
  decide +kernel

/-- When both sides have worked off what was sent, the client waits for nothing. -/
theorem inStep_settled {state : State} {published : List Publication}
    (inStep : InStep state published) (idle : state.handling = none)
    (taken : state.taken = state.client.adapter.sent.length)
    (received : state.received = published.length) :
    state.client.calls = [] ∧ state.client.ret = none := by
  have answered := inStep.answered
  rw [idle, running, Option.map_none, Option.toList_none, List.append_nil] at answered
  have nothing : ∀ call, ¬ (call ∈ state.client.calls ∨ state.client.ret = some call) := by
    intro call waits
    obtain ⟨requested, unheard⟩ := (inStep.waiting call).mp waits
    rw [received, List.take_length, answered, taken] at unheard
    exact unheard requested
  constructor
  · exact List.eq_nil_iff_forall_not_mem.mpr fun call entered => nothing call (.inl entered)
  · cases returned : state.client.ret with
    | none => rfl
    | some ret => exact absurd (.inr returned) (nothing ret)

end Emserver.System
