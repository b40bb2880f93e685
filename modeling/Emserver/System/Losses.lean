import Emserver.System.Calls
import Emserver.System.Connections
import Emserver.System.Replica

/-!
# What a lost connection loses

Over any number of connections the client hears, of each, a beginning of what was
published over it, and its sensors are those of what it heard.  A request is answered
once at most.  A call whose connection is lost before its result is heard stays in
`m_calls` for good.
-/

set_option autoImplicit false

namespace Emserver.System.Connections

open Emserver.Protobuf
open Emserver.EmserverProcessor
open Emserver.Requests
open Lib.Connections
open Lib.Runs

section Losses
variable (protobuf : Codecs)

/-- The rule for systems that lose connections. -/
theorem throughout_of_carried (rejects : RejectsEmptyEnvelope protobuf)
    {guard : State × History → Event → Prop} (property : State → History → Prop)
    (first : property start.1 start.2)
    (kept : ∀ {state history event next}, Carried protobuf state history →
      property state history → guard (state, history) event →
      Moved protobuf state history event next → property next.1 next.2)
    {events : List Event} (guarded : Guarded (machine protobuf) guard start events) :
    Throughout (machine protobuf)
      (fun pair => Carried protobuf pair.1 pair.2 ∧ property pair.1 pair.2) start events := by
  have preserved : ∀ pair event next, True →
      (Carried protobuf pair.1 pair.2 ∧ property pair.1 pair.2) → guard pair event →
      machine protobuf pair event = some next →
      Carried protobuf next.1 next.2 ∧ property next.1 next.2 := by
    rintro ⟨state, history⟩ event next _ ⟨carried, holds⟩ allowed taken
    have moved := machine_moved rejects carried taken
    exact ⟨carried_moved carried moved, kept carried holds allowed moved⟩
  exact throughout_of_guarded (fun _ => True) preserved ⟨carried_start protobuf, first⟩
    (fun _ _ => trivial) guarded

/-! ## Publications -/

/-- The client has heard what it took from each connection, and can take the next
publication of the current one. -/
structure Hears (state : State) (history : History) : Prop where
  sent : state.system.server.sent =
    history.publications.passed.map (Publication.message protobuf)
  heard : state.system.client.heard = history.publications.taken.map Publication.heard
  sensors : state.system.client.sensors = replica history.publications.taken
  ready : state.system.client.adapter.session = true → history.publications.next.isSome →
    (step protobuf state (.within .receive)).isSome

structure Heeds (state : State) (history : History) : Prop where
  heard : state.system.client.heard = history.publications.taken.map Publication.heard
  sensors : state.system.client.sensors = replica history.publications.taken

theorem hears_of_heeds {state : State} {history : History}
    (carried : Carried protobuf state history) (heeds : Heeds state history) :
    Hears protobuf state history := by
  have sent : state.system.server.sent =
      history.publications.passed.map (Publication.message protobuf) := by
    rw [carried.server]
  refine ⟨sent, heeds.heard, heeds.sensors, fun live pending => ?_⟩
  obtain ⟨one, next⟩ := Option.isSome_iff_exists.mp pending
  have passes := passed_position history.publications
  rw [next] at passes
  have known := carried.known one (List.mem_of_getElem? passes)
  have found : state.system.server.sent[state.system.received]? =
      some (one.message protobuf) := by
    rw [sent, carried.received, List.getElem?_map, passes]
    rfl
  simp [step, reads, live, System.step, found, receive_published protobuf _ one known]

theorem heeds_moved {state : State} {history : History} {event : Event}
    {next : State × History} (heeds : Heeds state history)
    (moved : Moved protobuf state history event next) : Heeds next.1 next.2 := by
  cases moved with
  | receives one live found =>
      have taken := taken_take history.publications found
      constructor
      · simp only [taken, List.map_append, Client.hear, heeds.heard]
        rfl
      · simp only [taken, replica_append, Client.hear, heeds.sensors]
  | records ret returned =>
      exact ⟨by simpa [Client.recordCall] using heeds.heard,
        by simpa [Client.recordCall] using heeds.sensors⟩
  | publishes event one handling live made known =>
      exact ⟨by simpa using heeds.heard, by simpa using heeds.sensors⟩
  | unheard event handling dead silent =>
      exact ⟨by simpa using heeds.heard, by simpa using heeds.sensors⟩
  | connects apart =>
      exact ⟨by simpa using heeds.heard, by simpa using heeds.sensors⟩
  | _ => exact ⟨heeds.heard, heeds.sensors⟩

/-- In every run over any number of connections the client hears a beginning of each. -/
theorem client_follows_over_connections (rejects : RejectsEmptyEnvelope protobuf)
    (events : List Event) :
    Throughout (machine protobuf)
      (fun pair => Hears protobuf pair.1 pair.2 ∧
        pair.2.publications.taken.Sublist pair.2.publications.passed) start events := by
  have kept := throughout_of_carried protobuf rejects Heeds ⟨rfl, rfl⟩
    (fun _ heeds _ moved => heeds_moved protobuf heeds moved)
    (unguarded start events)
  exact kept.mono fun pair both =>
    ⟨hears_of_heeds protobuf both.1 both.2, taken_sublist pair.2.publications⟩

end Losses

/-- A request whose result is lost with the connection, as is an error on the way. -/
def lostResult : List Event :=
  [.within .sendRequestCapabilities, .within .recordCall, .within (.take ⟨[], 0⟩),
    .within (.runtimeError 5 []), .serverLoses, .within .finish, .clientLoses, .connects]

/-- An error that is sent over the next connection before the client is ready for it. -/
def nextConnection : List Event :=
  [.serverInstalls, .within (.runtimeError 6 []), .clientInstalls, .within .receive]

theorem client_follows_over_lostResult :
    Throughout (machine wire)
      (fun pair => Hears wire pair.1 pair.2 ∧
        pair.2.publications.taken.Sublist pair.2.publications.passed) start
      (lostResult ++ nextConnection) :=
  client_follows_over_connections wire rfl (lostResult ++ nextConnection)

example : (run (machine wire) start (lostResult ++ nextConnection)).map (fun pair =>
    (pair.1.system.client.calls, pair.2.publications.passed, pair.2.publications.taken)) =
      some ([1], [.notification 0 5 (some []), .notification 0 6 (some [])],
        [.notification 0 6 (some [])]) := by
  decide +kernel

/-! ## Calls -/

def keys (numbers : List Nat) : List Int32 := numbers.map callKey

/-- The client waits for a call that it has entered or is about to enter. -/
def Waits (client : Client) (call : Int32) : Prop :=
  call ∈ client.calls ∨ client.ret = some call ∧ 0 ≤ call

/-- A request that the server took is answered once at most, in the order of the
requests, and the client waits for the calls whose result it has not heard. -/
structure Settles (state : State) (history : History) : Prop where
  answered : (results history.publications.passed).Sublist (keys history.requests.taken)
  waiting : ∀ call, Waits state.system.client call ↔
    call ∈ keys history.requests.passed ∧ call ∉ results history.publications.taken

/-- The condition on a step: the counter of a request that is sent is an `int32_t`, the
server's user publishes no results, and the client does not hear the result of a call
that it is still to enter. -/
def InTime (pair : State × History) : Event → Prop
  | .within .sendRequestCapabilities =>
      pair.1.system.client.adapter.session = true → pair.2.number < 2147483648
  | .within .perform => pair.1.system.server.session = true →
      ∀ id send sends code, pair.1.system.handling = some ⟨id, send :: sends, code⟩ → send.Quiet
  | .within (.send send) => pair.1.system.server.session = true → send.Quiet
  | .within .receive => ∀ one call, pair.2.publications.next = some one →
      one.result = some call → pair.1.system.client.ret ≠ some call
  | _ => True

structure Accounted (state : State) (history : History) : Prop where
  begun : 0 < history.number
  fresh : ∀ number ∈ history.requests.passed,
    0 < number ∧ number < history.number ∧ number < 2147483648
  distinct : history.requests.passed.Nodup
  handled : ∀ handling, state.system.handling = some handling →
    ∃ number ∈ history.requests.passed, handling.id = counterId number
  answered : ∃ rest, rest ++ (running state.system.handling).toList =
    keys history.requests.taken ∧ (results history.publications.passed).Sublist rest
  entered : state.system.client.calls.Nodup
  waiting : ∀ call, Waits state.system.client call ↔
    call ∈ keys history.requests.passed ∧ call ∉ results history.publications.taken

theorem waits_recordCall (client : Client) (ret call : Int32) (returned : client.ret = some ret) :
    Waits (client.recordCall ret) call ↔ Waits client call := by
  simp only [Waits, Client.recordCall, returned, reduceCtorEq, false_and, or_false,
    Option.some.injEq]
  by_cases least : 0 ≤ ret
  · rw [if_pos least, List.mem_insert_iff]
    constructor
    · rintro (rfl | entered)
      · exact .inr ⟨rfl, least⟩
      · exact .inl entered
    · rintro (entered | ⟨rfl, _⟩)
      · exact .inr entered
      · exact .inl rfl
  · rw [if_neg least]
    constructor
    · exact .inl
    · rintro (entered | ⟨rfl, least'⟩)
      · exact entered
      · exact absurd least' least

theorem waits_hear (client : Client) (one : Publication) (call : Int32)
    (entered : client.calls.Nodup)
    (inTime : ∀ other, one.result = some other → client.ret ≠ some other) :
    Waits (client.hear one) call ↔ Waits client call ∧ one.result ≠ some call := by
  cases answers : one.result with
  | none => simp [Waits, Client.hear, Publication.callsAfter, answers]
  | some other =>
      have unreturned := inTime other answers
      simp only [Waits, Client.hear, Publication.callsAfter, answers, entered.mem_erase_iff,
        ne_eq, Option.some.injEq]
      constructor
      · rintro (⟨distinct, inside⟩ | ⟨returned, least⟩)
        · exact ⟨.inl inside, fun same => distinct same.symm⟩
        · refine ⟨.inr ⟨returned, least⟩, ?_⟩
          rintro rfl
          exact unreturned returned
      · rintro ⟨inside | returned, distinct⟩
        · exact .inl ⟨fun same => distinct same.symm, inside⟩
        · exact .inr returned

theorem keys_append (past future : List Nat) : keys (past ++ future) = keys past ++ keys future :=
  List.map_append

section Accounts
variable {state : State} {history : History} (accounted : Accounted state history)
include accounted

theorem Accounted.small {number : Nat} (sent : number ∈ history.requests.passed) :
    number < 2147483648 := (accounted.fresh number sent).2.2

theorem Accounted.smallHandling (begun : Handling)
    (running : state.system.handling = some begun) :
    ∃ number, 0 < number ∧ number < 2147483648 ∧ begun.id = counterId number := by
  obtain ⟨number, member, same⟩ := accounted.handled begun running
  obtain ⟨positive, _, bound⟩ := accounted.fresh number member
  exact ⟨number, positive, bound, same⟩

/-- What the client has heard is a result of a request. -/
theorem Accounted.heard {call : Int32} (heard : call ∈ results history.publications.taken) :
    call ∈ keys history.requests.passed := by
  obtain ⟨rest, split, answered⟩ := accounted.answered
  have published : call ∈ results history.publications.passed :=
    ((taken_sublist history.publications).filterMap _).subset heard
  have taken : call ∈ keys history.requests.taken := by
    rw [← split]
    exact List.mem_append_left _ (answered.subset published)
  exact ((taken_sublist history.requests).map _).subset taken

theorem Accounted.unsent (short : history.number < 2147483648) :
    callKey history.number ∉ keys history.requests.passed := by
  intro sent
  obtain ⟨number, member, same⟩ := List.mem_map.mp sent
  obtain ⟨_, earlier, small⟩ := accounted.fresh number member
  have numbers := congrArg Int32.toInt same
  rw [callKey_small number small, callKey_small history.number short] at numbers
  omega

theorem settles_of_accounted : Settles state history := by
  obtain ⟨rest, split, answered⟩ := accounted.answered
  refine ⟨?_, accounted.waiting⟩
  rw [← split]
  exact answered.trans (List.sublist_append_left _ _)

end Accounts

section Steps
variable (protobuf : Codecs)
variable {state : State} {history : History}

/-- A publication that is in time is the result of the request that is handled, or none. -/
theorem publishes_running {handling after : Option Handling} {event : System.Event}
    {one : Publication} (current : state.system.handling = handling)
    (live : state.system.server.session = true)
    (known : ∀ begun, handling = some begun →
      ∃ number, 0 < number ∧ number < 2147483648 ∧ begun.id = counterId number)
    (inTime : InTime (state, history) (.within event))
    (made : Publishes handling event one after) :
    one.result.toList ++ (running after).toList = (running handling).toList := by
  cases made with
  | perform id send sends code one performed =>
      have quiet := (result_none_iff send one performed).mpr (inTime live id send sends code current)
      rw [quiet]
      rfl
  | finish id code =>
      obtain ⟨number, positive, small, rfl⟩ := known _ rfl
      rw [result_finish number positive small]
      rfl
  | send handling send one performed =>
      have quiet := (result_none_iff send one performed).mpr (inTime live)
      rw [quiet]
      rfl
  | runtimeError handling code err => rfl

/-- Without a session the result of a request is lost. -/
theorem silent_running {handling after : Option Handling} {event : System.Event}
    (silent : Silent handling event after) :
    (∃ lost, lost ++ (running after).toList = (running handling).toList) ∧
      ∀ current, after = some current → ∃ earlier, handling = some earlier ∧
        earlier.id = current.id := by
  cases silent with
  | perform id send sends code =>
      refine ⟨⟨[], rfl⟩, fun current running => ?_⟩
      cases running
      exact ⟨_, rfl, rfl⟩
  | finish id code => exact ⟨⟨[id.toInt32], rfl⟩, nofun⟩
  | send handling send => exact ⟨⟨[], rfl⟩, fun current running => ⟨current, running, rfl⟩⟩
  | runtimeError handling code err =>
      exact ⟨⟨[], rfl⟩, fun current running => ⟨current, running, rfl⟩⟩

variable (accounted : Accounted state history)
include accounted

theorem accounted_moved {event : Event} {next : State × History}
    (inTime : InTime (state, history) event)
    (moved : Moved protobuf state history event next) : Accounted next.1 next.2 := by
  obtain ⟨begun, fresh, distinct, handled, answered, entered, waiting⟩ := id accounted
  cases moved with
  | requests live free =>
      have short := inTime live
      refine ⟨Nat.succ_pos _, ?_, ?_, ?_, by simpa using answered, entered, ?_⟩
      · intro number member
        rcases List.mem_append.mp (passed_pass history.requests [history.number] ▸ member) with
          earlier | now
        · obtain ⟨positive, less, small⟩ := fresh number earlier
          exact ⟨positive, Nat.lt_succ_of_lt less, small⟩
        · rw [List.mem_singleton.mp now]
          exact ⟨begun, Nat.lt_succ_self _, short⟩
      · simp only [passed_pass]
        refine distinct.append (List.nodup_singleton _) fun number earlier now => ?_
        rw [List.mem_singleton.mp now] at earlier
        exact Nat.lt_irrefl _ (fresh _ earlier).2.1
      · intro handling running
        obtain ⟨number, member, same⟩ := handled handling running
        exact ⟨number, by simp [member], same⟩
      · intro call
        have before := waiting call
        have least := callKey_nonnegative history.number short
        have unsent := accounted.unsent short
        simp only [Waits, free, reduceCtorEq, false_and, or_false] at before
        simp only [Waits, passed_pass, keys_append, List.mem_append, before, Option.some.injEq]
        constructor
        · rintro (⟨sent, unheard⟩ | ⟨rfl, _⟩)
          · exact ⟨.inl sent, unheard⟩
          · exact ⟨.inr List.mem_cons_self, fun heard => unsent (accounted.heard heard)⟩
        · rintro ⟨sent | now, unheard⟩
          · exact .inl ⟨sent, unheard⟩
          · rw [List.mem_singleton.mp now]
            exact .inr ⟨rfl, least⟩
  | refused dead free =>
      refine ⟨Nat.succ_pos _, ?_, by simpa using distinct, by simpa using handled,
        by simpa using answered, entered, ?_⟩
      · intro number member
        obtain ⟨positive, less, small⟩ := fresh number (by simpa using member)
        exact ⟨positive, Nat.lt_succ_of_lt less, small⟩
      · intro call
        have before := waiting call
        have negative : ¬ (invalidSessionError = call ∧ 0 ≤ call) := by
          rintro ⟨rfl, least⟩
          exact absurd least (by decide)
        simp only [Waits, free, reduceCtorEq, false_and, or_false] at before
        simpa [Waits, negative] using before
  | records ret returned =>
      refine ⟨begun, fresh, distinct, handled, by simpa using answered, ?_, fun call => ?_⟩
      · simp only [Client.recordCall]
        split
        · exact entered.insert
        · exact entered
      · rw [waits_recordCall state.system.client ret call returned, taken_pass]
        exact waiting call
  | takes callback number live idle found =>
      have passes := passed_position history.requests
      rw [found] at passes
      have passed := passed_take history.requests found
      refine ⟨begun, ?_, ?_, ?_, ?_, entered, ?_⟩
      · simpa only [passed] using fresh
      · simpa only [passed] using distinct
      · intro handling running
        cases running
        exact ⟨number, passed ▸ List.mem_of_getElem? passes, rfl⟩
      · obtain ⟨rest, split, published⟩ := answered
        rw [idle, running, Option.map_none, Option.toList_none, List.append_nil] at split
        refine ⟨rest, ?_, published⟩
        simp only [taken_take history.requests found, keys_append, split]
        rfl
      · simpa only [passed] using waiting
  | publishes event one handling live made known =>
      have result := publishes_running rfl live accounted.smallHandling inTime made
      refine ⟨begun, fresh, distinct, ?_, ?_, entered, by simpa using waiting⟩
      · intro current running
        obtain ⟨earlier, begun, same⟩ := publishes_handling made current running
        rw [← same]
        exact handled earlier begun
      · obtain ⟨rest, split, published⟩ := answered
        refine ⟨rest ++ one.result.toList, ?_, ?_⟩
        · rw [List.append_assoc, result]
          exact split
        · rw [passed_pass, results_append, results_singleton]
          exact published.append (List.Sublist.refl _)
  | unheard event handling dead silent =>
      obtain ⟨⟨lost, left⟩, same⟩ := silent_running silent
      refine ⟨begun, fresh, distinct, ?_, ?_, entered, by simpa using waiting⟩
      · intro current running
        obtain ⟨earlier, begun, same⟩ := same current running
        rw [← same]
        exact handled earlier begun
      · obtain ⟨rest, split, published⟩ := answered
        refine ⟨rest ++ lost, ?_, ?_⟩
        · rw [List.append_assoc, left]
          exact split
        · rw [passed_pass, List.append_nil]
          exact published.trans (List.sublist_append_left _ _)
  | receives one live found =>
      have passed := passed_take history.publications found
      refine ⟨begun, fresh, distinct, handled, ?_, ?_, fun call => ?_⟩
      · simpa only [passed] using answered
      · simp only [Client.hear, Publication.callsAfter]
        split
        · exact entered
        · exact entered.erase _
      · rw [waits_hear state.system.client one call entered (inTime one · found), waiting call,
          taken_take history.publications found, results_append, results_singleton,
          List.mem_append, not_or, and_assoc, Option.mem_toList]
  | connects apart =>
      exact ⟨begun, by simpa using fresh, by simpa using distinct, by simpa using handled,
        by simpa using answered, entered, by simpa using waiting⟩
  | _ => exact ⟨begun, fresh, distinct, handled, answered, entered, waiting⟩

end Steps

theorem accounted_start : Accounted start.1 start.2 :=
  ⟨by decide, nofun, List.nodup_nil, nofun, ⟨[], rfl, List.Sublist.refl []⟩, List.nodup_nil,
    fun call => by simp [Waits, start, connected, System.connected, keys, Log.passed, Log.empty]⟩

theorem throughout_accounted (protobuf : Codecs) (rejects : RejectsEmptyEnvelope protobuf)
    {events : List Event} (inTime : Guarded (machine protobuf) InTime start events) :
    Throughout (machine protobuf)
      (fun pair => Carried protobuf pair.1 pair.2 ∧ Accounted pair.1 pair.2) start events :=
  throughout_of_carried protobuf rejects Accounted accounted_start
    (fun _ accounted allowed moved => accounted_moved protobuf accounted allowed moved) inTime

/-- Over any number of connections the calls are settled by the results heard. -/
theorem calls_over_connections (protobuf : Codecs) (rejects : RejectsEmptyEnvelope protobuf)
    (events : List Event) (inTime : Guarded (machine protobuf) InTime start events) :
    Throughout (machine protobuf) (fun pair => Settles pair.1 pair.2) start events :=
  (throughout_accounted protobuf rejects inTime).mono fun _ kept =>
    settles_of_accounted kept.2

theorem lostResult_installs :
    Guarded (machine wire) InTime start (lostResult ++ [.clientInstalls]) := by
  have always : ∀ event ∈ lostResult.tail ++ [.clientInstalls], ∀ pair, InTime pair event := by
    simp [lostResult, InTime]
  exact fun next _ => ⟨fun _ => by decide, guarded_of_always next always⟩

theorem calls_over_lostResult :
    Throughout (machine wire) (fun pair => Settles pair.1 pair.2) start lostResult :=
  calls_over_connections wire rfl lostResult lostResult_installs.ahead

/-! ## Lost calls -/

/-- The call was sent over a connection that has ended, no request of the current one is
that call, and its result has not been heard. -/
structure Lost (call : Int32) (state : State) (history : History) : Prop where
  sent : call ∈ keys (history.requests.ended.flatMap Prod.fst)
  handled : ∀ handling, state.system.handling = some handling →
    ∃ number ∈ history.requests.current, handling.id = counterId number
  published : ∀ other ∈ results history.publications.current,
    other ∈ keys history.requests.current
  unheard : call ∉ results history.publications.taken

section Grown
variable {call : Int32} {state next : State} {history : History} (lost : Lost call state history)
include lost

theorem Lost.pass (number : Nat) (more : List Nat)
    (same : next.system.handling = state.system.handling) :
    Lost call next
      { history with number := number, requests := history.requests.pass more } := by
  refine ⟨lost.sent, ?_, ?_, lost.unheard⟩
  · intro handling running
    rw [same] at running
    obtain ⟨earlier, member, begun⟩ := lost.handled handling running
    exact ⟨earlier, List.mem_append_left more member, begun⟩
  · intro other answers
    have requested := lost.published other answers
    simp only [Log.pass, keys_append]
    exact List.mem_append_left _ requested

theorem Lost.publish (more : List Publication)
    (handled : ∀ handling, next.system.handling = some handling →
      ∃ number ∈ history.requests.current, handling.id = counterId number)
    (published : ∀ other ∈ results more, other ∈ keys history.requests.current) :
    Lost call next { history with publications := history.publications.pass more } := by
  refine ⟨lost.sent, handled, ?_, ?_⟩
  · intro other answers
    simp only [Log.pass, results_append] at answers
    rcases List.mem_append.mp answers with earlier | now
    · exact lost.published other earlier
    · exact published other now
  · simp only [taken_pass]
    exact lost.unheard

end Grown

section Lost
variable (protobuf : Codecs)
variable {state : State} {history : History} (accounted : Accounted state history)
include accounted

theorem Accounted.current {call : Int32}
    (sent : call ∈ keys (history.requests.ended.flatMap Prod.fst)) :
    call ∉ keys history.requests.current := by
  intro again
  obtain ⟨number, member, rfl⟩ := List.mem_map.mp sent
  obtain ⟨other, inside, same⟩ := List.mem_map.mp again
  have small := accounted.small (List.mem_append_left history.requests.current member)
  have otherSmall :=
    accounted.small (List.mem_append_right (history.requests.ended.flatMap Prod.fst) inside)
  have numbers := congrArg Int32.toInt same
  rw [callKey_small other otherSmall, callKey_small number small] at numbers
  have equal : other = number := by omega
  rw [equal] at inside
  exact List.disjoint_of_nodup_append accounted.distinct member inside

omit accounted in
theorem idle_of_apart (apart : state.apart = true) : state.system.handling = none := by
  simp only [State.apart, Bool.and_eq_true, Option.isNone_iff_eq_none] at apart
  exact apart.2

theorem lost_connects {next : State × History}
    (taken : machine protobuf (state, history) .connects = some next) {call : Int32}
    (waits : Waits next.1.system.client call) : Lost call next.1 next.2 := by
  obtain ⟨after, stepped, rfl⟩ := Option.map_eq_some_iff.mp taken
  obtain ⟨apart, rfl⟩ := of_guard stepped
  have idle : state.system.handling = none := idle_of_apart apart
  obtain ⟨sent, unheard⟩ := (accounted.waiting call).mp waits
  refine ⟨?_, ?_, nofun, ?_⟩
  · simp only [note, ended_reconnect]
    exact sent
  · intro handling running
    have nobody := idle.symm.trans running
    contradiction
  · simp only [note, taken_reconnect]
    exact unheard

theorem lost_moved {call : Int32} (lost : Lost call state history) {event : Event}
    {next : State × History} (inTime : InTime (state, history) event)
    (moved : Moved protobuf state history event next) : Lost call next.1 next.2 := by
  obtain ⟨sent, handled, published, unheard⟩ := id lost
  cases moved with
  | requests live free => exact lost.pass _ _ rfl
  | refused dead free => exact lost.pass _ _ rfl
  | records ret returned =>
      refine lost.publish [] handled (fun other member => ?_)
      contradiction
  | takes callback number live idle found =>
      obtain ⟨ended, current, _⟩ := take_next history.requests found
      refine ⟨?_, ?_, ?_, unheard⟩
      · simp only [ended]
        exact sent
      · intro handling running
        cases running
        simp only [current]
        exact ⟨number, List.mem_of_getElem? found, rfl⟩
      · simp only [current]
        exact published
  | publishes event one handling live made known =>
      have result := publishes_running rfl live accounted.smallHandling inTime made
      refine lost.publish [one] ?_ ?_
      · intro current running
        obtain ⟨earlier, begun, same⟩ := publishes_handling made current running
        rw [← same]
        exact handled earlier begun
      · intro other answers
        rw [results_singleton] at answers
        have answered := List.mem_append_left (running handling).toList answers
        rw [result] at answered
        obtain ⟨begun, handles, rfl⟩ :=
          Option.map_eq_some_iff.mp (Option.mem_toList.mp answered)
        obtain ⟨number, member, same⟩ := handled begun handles
        rw [same]
        exact List.mem_map_of_mem member
  | unheard event handling dead silent =>
      refine lost.publish [] ?_ fun other member => ?_
      · intro current running
        obtain ⟨earlier, begun, same⟩ := (silent_running silent).2 current running
        rw [← same]
        exact handled earlier begun
      · contradiction
  | receives one live found =>
      obtain ⟨_, current, _⟩ := take_next history.publications found
      refine ⟨sent, handled, ?_, ?_⟩
      · simp only [current]
        exact published
      · simp only [taken_take history.publications found, results_append, results_singleton]
        intro heard
        rcases List.mem_append.mp heard with earlier | now
        · exact unheard earlier
        · have here : call ∈ results history.publications.current :=
            List.mem_filterMap.mpr ⟨one, List.mem_of_getElem? found, Option.mem_toList.mp now⟩
          exact accounted.current sent (published call here)
  | connects apart =>
      refine ⟨?_, fun handling running => ?_, nofun, ?_⟩
      · simp only [ended_reconnect, Log.passed, keys_append]
        exact List.mem_append_left _ sent
      · rw [idle_of_apart apart] at running
        contradiction
      · simpa using unheard
  | _ => exact ⟨sent, handled, published, unheard⟩

end Lost

/-- A call the client waits for when a new connection is made, it waits for ever after. -/
theorem lost_calls_stay (protobuf : Codecs) (rejects : RejectsEmptyEnvelope protobuf)
    (past future : List Event) (before after : State × History)
    (reached : run (machine protobuf) start (past ++ [.connects]) = some before)
    (ran : run (machine protobuf) before future = some after)
    (inTime : Guarded (machine protobuf) InTime start (past ++ [.connects] ++ future))
    (call : Int32) (waits : Waits before.1.system.client call) :
    Waits after.1.system.client call := by
  have kept := (throughout_iff _ _ _).mp (throughout_accounted protobuf rejects inTime)
  obtain ⟨middle, earlier, last⟩ := Option.bind_eq_some_iff.mp (run_append _ _ _ _ ▸ reached)
  obtain ⟨_, connects, same⟩ := Option.bind_eq_some_iff.mp last
  cases same
  have atMiddle := kept past (.connects :: future) middle (by simp) earlier
  have atBefore := kept (past ++ [.connects]) future before rfl reached
  have lost := lost_connects protobuf atMiddle.2 connects waits
  have preserved : ∀ pair event next, True →
      ((Carried protobuf pair.1 pair.2 ∧ Accounted pair.1 pair.2) ∧ Lost call pair.1 pair.2) →
      InTime pair event → machine protobuf pair event = some next →
      (Carried protobuf next.1 next.2 ∧ Accounted next.1 next.2) ∧ Lost call next.1 next.2 := by
    rintro ⟨state, history⟩ event next _ ⟨⟨carried, accounted⟩, lost⟩ allowed taken
    have moved := machine_moved rejects carried taken
    exact ⟨⟨carried_moved carried moved, accounted_moved protobuf accounted allowed moved⟩,
      lost_moved protobuf accounted lost allowed moved⟩
  have throughout := throughout_of_guarded (fun _ => True) preserved ⟨atBefore, lost⟩
    (fun _ _ => trivial) (inTime.behind reached)
  obtain ⟨⟨_, accounted⟩, stays⟩ := throughout.final ran
  refine (accounted.waiting call).mpr ⟨?_, stays.unheard⟩
  rw [Log.passed, keys_append]
  exact List.mem_append_left _ stays.sent

theorem lost_calls_stay_lostResult : ∃ after,
    run (machine wire) start (lostResult ++ [.clientInstalls]) = some after ∧
      Waits after.1.system.client 1 := by
  obtain ⟨before, reached⟩ : ∃ before, run (machine wire) start lostResult = some before :=
    Option.isSome_iff_exists.mp (by decide +kernel)
  have entered : (run (machine wire) start lostResult).map (·.1.system.client.calls) = some [1] := by
    decide +kernel
  rw [reached, Option.map_some, Option.some.injEq] at entered
  have waits : Waits before.1.system.client 1 := by
    refine .inl ?_
    rw [entered]
    exact List.mem_singleton_self 1
  obtain ⟨after, ended⟩ : ∃ after,
      run (machine wire) start (lostResult ++ [.clientInstalls]) = some after :=
    Option.isSome_iff_exists.mp (by decide +kernel)
  have ran : run (machine wire) before [.clientInstalls] = some after := by
    rw [run_append, reached] at ended
    exact ended
  exact ⟨after, ended, lost_calls_stay wire rfl lostResult.dropLast [.clientInstalls] before after
    reached ran lostResult_installs 1 waits⟩

end Emserver.System.Connections
