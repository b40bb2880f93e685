import Mathlib.Data.List.Infix
import Emserver.Lib.Channel
import Emserver.System

/-!
# What the server publishes

Beside a run of the system, the publications of the server's user, in the order
of the calls that made them.  The steps of a connected system are those of two
lists that each side works off: the requests under the counter values from 1 on,
and the publications.
-/

set_option autoImplicit false

namespace Emserver.System

open Emserver.Protobuf
open Emserver.EmserverProcessor
open Emserver.Requests
open Lib.Runs

/-- What an event publishes. -/
def publishes (handling : Option Handling) : Event → List Publication
  | .perform =>
      match handling with
      | some ⟨_, send :: _, _⟩ => (publication send).toList
      | _ => []
  | .finish =>
      match handling with
      | some ⟨id, [], code⟩ => [.notification (CServer.methodId id) code none]
      | _ => []
  | .send send => (publication send).toList
  | .runtimeError code err => [.notification 0 code (some err)]
  | .sendRequestCapabilities => []
  | .recordCall => []
  | .take _ => []
  | .receive => []

section Publications
variable (protobuf : Codecs)

def machine (pair : State × List Publication) (event : Event) :
    Option (State × List Publication) :=
  (step protobuf pair.1 event).map fun next =>
    (next, pair.2 ++ publishes pair.1.handling event)

def start : State × List Publication := (connected, [])

/-! ## Requests -/

/-- The request that finds the counter at `number`. -/
def request (number : Nat) : List UInt8 :=
  makeMessage protobuf .requestCapabilites (some (.requestCapabilities ⟨none⟩))
    (counterId number)

/-- A request needs a session, and uses up a number without one. -/
theorem sendRequestCapabilities_numbered (rejects : RejectsEmptyEnvelope protobuf)
    (number : Nat) (session : Bool) (sent : List (List UInt8)) :
    (⟨Int64.ofNat number, session, sent⟩ : Adapter).sendRequestCapabilities protobuf =
      if session then
        (counterId number, ⟨Int64.ofNat (number + 1), session, sent ++ [request protobuf number]⟩)
      else (invalidSessionError.toInt64, ⟨Int64.ofNat (number + 1), session, sent⟩) := by
  have counter : Int64.ofNat (number + 1) = Int64.ofNat number + 1 := Int64.ofNat_add number 1
  cases session with
  | false =>
      simp only [Adapter.sendRequestCapabilities, Adapter.send, Bool.false_eq_true, if_false,
        counter]
  | true =>
      have returned := issue_returns protobuf rejects ⟨Int64.ofNat number, true, sent⟩
        .sendRequestCapabilities rfl
      have after := issue_live protobuf ⟨Int64.ofNat number, true, sent⟩
        .sendRequestCapabilities rfl
      refine Prod.ext returned (after.trans ?_)
      simp only [if_true, counter, request, requestBytes, requestMessage, counterId]

/-- The adapter after the first `count` requests of a process. -/
def issued (count : Nat) : Adapter :=
  ⟨Int64.ofNat (count + 1), true, (List.range' 1 count).map (request protobuf)⟩

theorem issued_length (count : Nat) : (issued protobuf count).sent.length = count := by
  simp [issued]

theorem issued_message (count index : Nat) (message : List UInt8)
    (found : (issued protobuf count).sent[index]? = some message) :
    index < count ∧ message = request protobuf (index + 1) := by
  obtain ⟨bound, same⟩ := List.getElem?_eq_some_iff.mp found
  rw [issued_length] at bound
  refine ⟨bound, ?_⟩
  rw [← same]
  simp [issued, Nat.add_comm]

theorem sendRequestCapabilities_issued (rejects : RejectsEmptyEnvelope protobuf) (count : Nat) :
    (issued protobuf count).sendRequestCapabilities protobuf =
      (counterId (count + 1), issued protobuf (count + 1)) := by
  have sent := sendRequestCapabilities_numbered protobuf rejects (count + 1) true
    ((List.range' 1 count).map (request protobuf))
  rw [if_pos rfl] at sent
  refine sent.trans ?_
  rw [issued, List.range'_concat, List.map_append, Nat.one_mul, Nat.add_comm 1 count]
  rfl

theorem handle_request (number : Nat) :
    handle protobuf (request protobuf number) =
      .ok ⟨true, [⟨.callbackEmserverCapsRequest, .requestCapabilities ⟨none⟩,
        counterId number⟩]⟩ :=
  (recieved_makeMessage protobuf serverProcessor .requestCapabilites
    (.requestCapabilities ⟨none⟩) (counterId number) rfl).trans
      (dispatch_own_code protobuf serverProcessor (.requestCapabilities ⟨none⟩)
        (counterId number) rfl)

theorem takeMessage_request (server : CServer.Server)
    (registered : server.onClientCapsRequest = true) (callback : CServer.Behaviour)
    (number : Nat) :
    takeMessage protobuf server callback (request protobuf number) =
      some (server, some ⟨counterId number, callback.sends, callback.code⟩) := by
  rw [takeMessage, handle_request]
  simp [invokeServer, beginCapsRequest, isInitialized, registered]

/-! ## Steps -/

/-- The server side of a connected system, in terms of what was published. -/
structure Served (state : State) (published : List Publication) : Prop where
  server : state.server =
    ⟨true, true, true, published.map (Publication.message protobuf)⟩
  known : ∀ one ∈ published, one.Known
  adapter : state.client.adapter = issued protobuf state.client.adapter.sent.length
  taken : state.taken ≤ state.client.adapter.sent.length
  received : state.received ≤ published.length
  handling : ∀ handling, state.handling = some handling →
    0 < state.taken ∧ handling.id = counterId state.taken

/-- The events that publish, and what becomes of the request that is handled. -/
inductive Publishes : Option Handling → Event → Publication → Option Handling → Prop where
  | perform (id : Int64) (send : CServer.Send) (sends : List CServer.Send) (code : Int32)
      (published : Publication) (made : publication send = some published) :
      Publishes (some ⟨id, send :: sends, code⟩) .perform published (some ⟨id, sends, code⟩)
  | finish (id : Int64) (code : Int32) :
      Publishes (some ⟨id, [], code⟩) .finish
        (.notification (CServer.methodId id) code none) none
  | send (handling : Option Handling) (send : CServer.Send) (published : Publication)
      (made : publication send = some published) :
      Publishes handling (.send send) published handling
  | runtimeError (handling : Option Handling) (code : Int32) (err : List UInt8) :
      Publishes handling (.runtimeError code err) (.notification 0 code (some err)) handling

/-- The steps of a connected system. -/
inductive Moved (state : State) (published : List Publication) :
    Event → State × List Publication → Prop where
  | requests (free : state.client.ret = none) :
      Moved state published .sendRequestCapabilities
        ({ state with
          client := { state.client with
            adapter := issued protobuf (state.client.adapter.sent.length + 1)
            ret := some (counterId (state.client.adapter.sent.length + 1)).toInt32 } },
          published)
  | records (ret : Int32) (returned : state.client.ret = some ret) :
      Moved state published .recordCall
        ({ state with client := state.client.recordCall ret }, published)
  | takes (callback : CServer.Behaviour) (idle : state.handling = none)
      (sent : state.taken < state.client.adapter.sent.length) :
      Moved state published (.take callback)
        ({ state with
          handling := some ⟨counterId (state.taken + 1), callback.sends, callback.code⟩
          taken := state.taken + 1 }, published)
  | publishes (event : Event) (one : Publication) (handling : Option Handling)
      (made : Publishes state.handling event one handling) (known : one.Known) :
      Moved state published event
        ({ state with
          server := state.server.sendData (one.message protobuf)
          handling := handling }, published ++ [one])
  | receives (one : Publication) (next : published[state.received]? = some one) :
      Moved state published .receive
        ({ state with
          client := state.client.hear one
          received := state.received + 1 }, published)

theorem published_grown {published : List Publication} {received : Nat} {one : Publication}
    (next : published[received]? = some one) :
    published.take (received + 1) = published.take received ++ [one] := by
  rw [List.take_add_one, next]
  rfl

theorem publishes_list {handling after : Option Handling} {event : Event} {one : Publication}
    (made : Publishes handling event one after) : publishes handling event = [one] := by
  cases made with
  | perform id send sends code published made => simp [publishes, made]
  | finish id code => rfl
  | send handling send published made => simp [publishes, made]
  | runtimeError handling code err => rfl

/-- The request that is handled stays the same. -/
theorem publishes_handling {handling after : Option Handling} {event : Event}
    {one : Publication} (made : Publishes handling event one after) (current : Handling)
    (running : after = some current) :
    ∃ earlier, handling = some earlier ∧ earlier.id = current.id := by
  cases made with
  | perform id send sends code published made =>
      cases running
      exact ⟨_, rfl, rfl⟩
  | finish id code => contradiction
  | send handling send published made => exact ⟨current, running, rfl⟩
  | runtimeError handling code err => exact ⟨current, running, rfl⟩

section Live
variable (rejects : RejectsEmptyEnvelope protobuf)
variable {state : State} {published : List Publication}
include rejects

theorem perform_inv (live : state.server.session = true) {send : CServer.Send}
    {after : CServer.Server}
    (performed : (state.server.perform protobuf send).toOption = some after) :
    ∃ one, publication send = some one ∧ one.Known ∧
      after = state.server.sendData (one.message protobuf) := by
  rw [perform_published protobuf rejects state.server live] at performed
  obtain ⟨one, made, rfl⟩ := Option.map_eq_some_iff.mp performed
  exact ⟨one, made, publication_known send one made, rfl⟩

theorem step_moved (served : Served protobuf state published) (event : Event) (next : State)
    (stepped : step protobuf state event = some next) :
    Moved protobuf state published event
      (next, published ++ publishes state.handling event) := by
  have live : state.server.session = true := by rw [served.server]
  have registered : state.server.onClientCapsRequest = true := by rw [served.server]
  cases event with
  | sendRequestCapabilities =>
      cases free : state.client.ret with
      | some ret =>
          rw [step, free] at stepped
          contradiction
      | none =>
          rw [step, free] at stepped
          cases stepped
          have sent := sendRequestCapabilities_issued protobuf rejects
            state.client.adapter.sent.length
          rw [← served.adapter] at sent
          rw [Client.sendRequestCapabilities, sent, publishes, List.append_nil]
          exact .requests free
  | recordCall =>
      obtain ⟨ret, returned, rfl⟩ := Option.map_eq_some_iff.mp stepped
      rw [publishes, List.append_nil]
      exact .records ret returned
  | take callback =>
      simp only [step] at stepped
      split at stepped
      case h_2 => contradiction
      case h_1 message idle found =>
        rw [served.adapter] at found
        obtain ⟨sent, rfl⟩ := issued_message protobuf _ _ message found
        rw [takeMessage_request protobuf state.server registered callback] at stepped
        cases stepped
        rw [publishes, List.append_nil]
        exact .takes callback idle sent
  | perform =>
      simp only [step] at stepped
      split at stepped
      case h_2 => contradiction
      case h_1 id send sends code handling =>
        obtain ⟨after, performed, rfl⟩ := Option.map_eq_some_iff.mp stepped
        obtain ⟨one, made, known, rfl⟩ := perform_inv protobuf rejects live performed
        have publishing := Publishes.perform id send sends code one made
        rw [← handling] at publishing
        rw [publishes_list publishing]
        exact .publishes _ one _ publishing known
  | finish =>
      simp only [step] at stepped
      split at stepped
      case h_2 => contradiction
      case h_1 id code handling =>
        cases stepped
        have publishing := Publishes.finish id code
        rw [← handling] at publishing
        rw [publishes_list publishing, sendMethodCallResult_published protobuf rejects _ live]
        exact .publishes _ _ none publishing trivial
  | send send =>
      obtain ⟨after, performed, rfl⟩ := Option.map_eq_some_iff.mp stepped
      obtain ⟨one, made, known, rfl⟩ := perform_inv protobuf rejects live performed
      have publishing := Publishes.send state.handling send one made
      rw [publishes_list publishing]
      exact .publishes _ one state.handling publishing known
  | runtimeError code err =>
      cases stepped
      rw [runtimeError_published protobuf state.server live]
      exact .publishes _ _ state.handling (.runtimeError state.handling code err) trivial
  | receive =>
      simp only [step] at stepped
      split at stepped
      case h_2 => contradiction
      case h_1 message found =>
        rw [served.server, List.getElem?_map] at found
        obtain ⟨one, next, rfl⟩ := Option.map_eq_some_iff.mp found
        have known := served.known one (List.mem_of_getElem? next)
        rw [receive_published protobuf state.client one known] at stepped
        cases stepped
        rw [publishes, List.append_nil]
        exact .receives one next

end Live

/-- A connected system stays one. -/
theorem served_moved {state : State} {published : List Publication} (served : Served protobuf state published) {event : Event}
    {next : State × List Publication} (moved : Moved protobuf state published event next) :
    Served protobuf next.1 next.2 := by
  cases moved with
  | requests free =>
      have grown := issued_length protobuf (state.client.adapter.sent.length + 1)
      refine ⟨served.server, served.known, ?_, ?_, served.received, served.handling⟩
      · simp only [grown]
      · have taken := served.taken
        simp only [grown]
        omega
  | records ret returned =>
      exact ⟨served.server, served.known, served.adapter, served.taken, served.received,
        served.handling⟩
  | takes callback idle sent =>
      refine ⟨served.server, served.known, served.adapter, sent, served.received, ?_⟩
      intro handling begun
      cases begun
      exact ⟨Nat.succ_pos state.taken, rfl⟩
  | publishes event one handling made known =>
      refine ⟨?_, ?_, served.adapter, served.taken, ?_, ?_⟩
      · simp [served.server, CServer.Server.sendData]
      · intro other member
        rcases List.mem_append.mp member with past | here
        · exact served.known other past
        · rwa [List.mem_singleton.mp here]
      · have received := served.received
        simp only [List.length_append, List.length_singleton]
        omega
      · intro current running
        obtain ⟨earlier, begun, same⟩ := publishes_handling made current running
        rw [← same]
        exact served.handling earlier begun
  | receives one next =>
      obtain ⟨bound, _⟩ := List.getElem?_eq_some_iff.mp next
      exact ⟨served.server, served.known, served.adapter, served.taken, bound, served.handling⟩

theorem served_start : Served protobuf start.1 start.2 :=
  ⟨rfl, nofun, rfl, Nat.le_refl 0, Nat.le_refl 0, nofun⟩

theorem machine_moved (rejects : RejectsEmptyEnvelope protobuf)
    {pair next : State × List Publication} {event : Event}
    (served : Served protobuf pair.1 pair.2) (taken : machine protobuf pair event = some next) :
    Moved protobuf pair.1 pair.2 event next := by
  obtain ⟨after, stepped, rfl⟩ := Option.map_eq_some_iff.mp taken
  exact step_moved protobuf rejects served event after stepped

/-- The rule for connected systems. -/
theorem throughout_of_served (rejects : RejectsEmptyEnvelope protobuf)
    {property : State → List Publication → Prop} (first : property start.1 start.2)
    (kept : ∀ {state published event next}, Served protobuf state published →
      property state published → Moved protobuf state published event next →
      property next.1 next.2) (events : List Event) :
    Throughout (machine protobuf)
      (fun pair => Served protobuf pair.1 pair.2 ∧ property pair.1 pair.2) start events := by
  have preserved : ∀ pair event next, True →
      (Served protobuf pair.1 pair.2 ∧ property pair.1 pair.2) →
      machine protobuf pair event = some next →
      Served protobuf next.1 next.2 ∧ property next.1 next.2 := by
    rintro pair event next _ ⟨served, holds⟩ taken
    have moved := machine_moved protobuf rejects served taken
    exact ⟨served_moved protobuf served moved, kept served holds moved⟩
  exact throughout_of_kept preserved ⟨served_start protobuf, first⟩ fun _ _ => trivial

/-! ## The two directions -/

def requests (pair : State × List Publication) : List (List UInt8) := pair.1.client.adapter.sent

def takenRequests (pair : State × List Publication) : List (List UInt8) :=
  (requests pair).take pair.1.taken

def answers (pair : State × List Publication) : List (List UInt8) := pair.1.server.sent

def receivedAnswers (pair : State × List Publication) : List (List UInt8) :=
  (answers pair).take pair.1.received

/-- Messages are added at the end, and taken in order. -/
structure Grows (before after : State × List Publication) : Prop where
  requests : requests before <+: requests after
  takenRequests : takenRequests before <+: takenRequests after
  answers : answers before <+: answers after
  receivedAnswers : receivedAnswers before <+: receivedAnswers after

theorem moved_grows {state : State} {published : List Publication} {event : Event}
    {next : State × List Publication} (served : Served protobuf state published)
    (moved : Moved protobuf state published event next) : Grows (state, published) next := by
  cases moved with
  | requests free =>
      have grown : state.client.adapter.sent <+:
          (issued protobuf (state.client.adapter.sent.length + 1)).sent := by
        obtain ⟨rest, more⟩ : (issued protobuf state.client.adapter.sent.length).sent <+:
            (issued protobuf (state.client.adapter.sent.length + 1)).sent := by
          rw [issued, issued, List.range'_concat, List.map_append]
          exact List.prefix_append _ _
        rw [← served.adapter] at more
        exact ⟨rest, more⟩
      exact ⟨grown, grown.take state.taken, List.prefix_rfl, List.prefix_rfl⟩
  | records ret returned =>
      exact ⟨List.prefix_rfl, List.prefix_rfl, List.prefix_rfl, List.prefix_rfl⟩
  | takes callback idle sent =>
      refine ⟨List.prefix_rfl, ?_, List.prefix_rfl, List.prefix_rfl⟩
      exact List.take_prefix_take_left (Nat.le_succ state.taken)
  | publishes event one handling made known =>
      have grown : state.server.sent <+: state.server.sent ++ [one.message protobuf] :=
        List.prefix_append _ _
      exact ⟨List.prefix_rfl, List.prefix_rfl, grown, grown.take state.received⟩
  | receives one next =>
      refine ⟨List.prefix_rfl, List.prefix_rfl, List.prefix_rfl, ?_⟩
      exact List.take_prefix_take_left (Nat.le_succ state.received)

/-- Each of the two directions is a channel. -/
theorem directions_channel (rejects : RejectsEmptyEnvelope protobuf) (events : List Event)
    (final : State × List Publication)
    (ran : run (machine protobuf) start events = some final) :
    run Lib.Channel.step ⟨[], 0⟩
        (Lib.Channel.trace (machine protobuf) requests takenRequests start events) =
      some ⟨requests final, final.1.taken⟩ ∧
    run Lib.Channel.step ⟨[], 0⟩
        (Lib.Channel.trace (machine protobuf) answers receivedAnswers start events) =
      some ⟨answers final, final.1.received⟩ := by
  have grows : ∀ pair event next, Served protobuf pair.1 pair.2 →
      machine protobuf pair event = some next → Grows pair next := by
    intro pair event next served taken
    exact moved_grows protobuf served (machine_moved protobuf rejects served taken)
  have served : Throughout (machine protobuf) (fun pair => Served protobuf pair.1 pair.2) start
      events :=
    (throughout_of_served protobuf rejects (served_start protobuf)
      (fun served _ moved => served_moved protobuf served moved) events).mono
        fun pair kept => kept.1
  have ends := served.final ran
  constructor
  · have logs : Lib.Channel.Logs (machine protobuf) (fun pair => Served protobuf pair.1 pair.2)
        requests takenRequests :=
      ⟨fun pair event next kept taken => (grows pair event next kept taken).requests,
        fun pair event next kept taken => (grows pair event next kept taken).takenRequests⟩
    have inOrder := served.mono fun pair kept =>
      And.intro kept (List.take_prefix pair.1.taken (requests pair))
    have traced := Lib.Channel.run_trace logs start final events inOrder ran
    have taken : (takenRequests final).length = final.1.taken := by
      rw [takenRequests, List.length_take]
      exact Nat.min_eq_left ends.taken
    rw [taken] at traced
    exact traced
  · have logs : Lib.Channel.Logs (machine protobuf) (fun pair => Served protobuf pair.1 pair.2)
        answers receivedAnswers :=
      ⟨fun pair event next kept taken => (grows pair event next kept taken).answers,
        fun pair event next kept taken => (grows pair event next kept taken).receivedAnswers⟩
    have inOrder := served.mono fun pair kept =>
      And.intro kept (List.take_prefix pair.1.received (answers pair))
    have traced := Lib.Channel.run_trace logs start final events inOrder ran
    have received : (receivedAnswers final).length = final.1.received := by
      rw [receivedAnswers, List.length_take, answers, ends.server]
      exact Nat.min_eq_left (by simpa using ends.received)
    rw [received] at traced
    exact traced

end Publications

end Emserver.System
