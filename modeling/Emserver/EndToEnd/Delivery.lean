import Emserver.EndToEnd.Refinement

/-!
# What arrives

What holds of `System` holds over the bytes.  The client hears what the server's user
published, and all of it when nothing of the way back moves any more; no message that
arrives keeps a worker from its next callback; and the calls are settled as in
`System`.
-/

set_option autoImplicit false

namespace Emserver.EndToEnd

open Emserver.Protobuf
open Emserver.EmserverProcessor
open Emserver.Requests
open Lib.Refinement
open Lib.Runs

section Delivery
variable (crc : List UInt8 → UInt32) (protobuf : Codecs)

/-! ## The next callback -/

section Ready
variable {crc protobuf}
variable {state : State} {published : List System.Publication}
variable (coupled : Coupled crc protobuf state)
variable (served : System.Served protobuf state.system published)
variable (clear : Clear crc protobuf state) {cmsg : CommonMessage}
include coupled served clear

theorem receive_ready (calling : Connection.called state.answers = some cmsg) (index : Nat) :
    (step crc protobuf state (.side index .receive)).isSome := by
  obtain ⟨answers, calls⟩ := Connection.call_of_called crc protobuf calling
  obtain ⟨message, found, rfl⟩ :=
    next_message (coupled.answers.calledNext crc protobuf clear.2 calling)
  have sent : state.server.sent = published.map (System.Publication.message protobuf) :=
    congrArg CServer.Server.sent served.server
  rw [coupled.answered, sent, List.getElem?_map] at found
  obtain ⟨one, next, rfl⟩ := Option.map_eq_some_iff.mp found
  have known := served.known one (List.mem_of_getElem? next)
  have returned : heard protobuf state.client ⟨some 1, some (one.message protobuf)⟩ =
      some (state.client.hear one) :=
    System.receive_published protobuf state.client one known
  have acted : state.act crc protobuf .receive =
      some { state with client := state.client.hear one, answers := answers } := by
    simp only [State.act, calls, Option.bind_some, returned, Option.map_some]
  have goes := send_nothing crc protobuf state
    { state with client := state.client.hear one, answers := answers } index rfl rfl
  simp only [step, acted, Option.bind_some, goes, Option.isSome_some]

theorem take_ready (calling : Connection.called state.requests = some cmsg)
    (idle : state.handling = none) (index : Nat) (callback : CServer.Behaviour) :
    (step crc protobuf state (.side index (.take callback))).isSome := by
  obtain ⟨requests, calls⟩ := Connection.call_of_called crc protobuf calling
  obtain ⟨message, found, rfl⟩ :=
    next_message (coupled.requests.calledNext crc protobuf clear.1 calling)
  have adapter : state.client.adapter =
      System.issued protobuf state.client.adapter.sent.length := served.adapter
  rw [coupled.requested, adapter] at found
  obtain ⟨_, rfl⟩ := System.issued_message protobuf _ _ message found
  have registered : state.server.onClientCapsRequest = true :=
    congrArg CServer.Server.onClientCapsRequest served.server
  have returned := System.takeMessage_request protobuf state.server registered callback
    ((Connection.delivered state.requests).length + 1)
  rw [← handled_message] at returned
  let after : State := { state with
    handling := some ⟨counterId ((Connection.delivered state.requests).length + 1),
      callback.sends, callback.code⟩
    requests := requests }
  have acted : state.act crc protobuf (.take callback) = some after := by
    simp only [State.act, idle, Option.isNone_none, if_true, calls, Option.bind_some, returned,
      Option.map_some]
    rfl
  have goes := send_nothing crc protobuf state after index rfl rfl
  simp only [step, acted, Option.bind_some, goes, Option.isSome_some]

end Ready

/-! ## All of it -/

section Rest
variable {crc protobuf}
variable {state : State} (coupled : Coupled crc protobuf state)
variable (clear : Clear crc protobuf state)
include coupled clear

theorem requests_delivered (rest : Connection.AtRest crc protobuf state.requests) :
    state.system.taken = state.system.client.adapter.sent.length := by
  have all : Connection.delivered state.requests = Connection.passed state.requests :=
    rest.delivered coupled.requests clear.1
  simp only [State.system, all, Connection.passed, CommonProcessor.expected, List.length_map,
    coupled.requested]

theorem answers_delivered (rest : Connection.AtRest crc protobuf state.answers) :
    state.system.received = state.system.server.sent.length := by
  have all : Connection.delivered state.answers = Connection.passed state.answers :=
    rest.delivered coupled.answers clear.2
  simp only [State.system, all, Connection.passed, CommonProcessor.expected, List.length_map,
    coupled.answered]

end Rest

/-- The client has heard the publications that reached it, and all of them when nothing
of the way back moves; and a worker that gets to a message can call its callback. -/
structure Informs (state : State) (published : List System.Publication) : Prop where
  follows : System.Follows protobuf state.system published
  everything : Connection.AtRest crc protobuf state.answers →
    state.client.heard = published.map System.Publication.heard ∧
      state.client.sensors = System.replica published
  receives : ∀ index, (Connection.called state.answers).isSome →
    (step crc protobuf state (.side index .receive)).isSome
  takes : ∀ index callback, (Connection.called state.requests).isSome →
    state.handling = none → (step crc protobuf state (.side index (.take callback))).isSome

theorem informs_of_served {state : State} {published : List System.Publication}
    (coupled : Coupled crc protobuf state) (clear : Clear crc protobuf state)
    (served : System.Served protobuf state.system published)
    (heeds : System.Heeds state.system published) : Informs crc protobuf state published := by
  have follows := System.follows_of_served protobuf served heeds
  refine ⟨follows, ?_, ?_, ?_⟩
  · intro rest
    have whole : state.system.received = published.length := by
      rw [answers_delivered coupled clear rest, follows.sent, List.length_map]
    have heard := follows.heard
    have sensors := follows.sensors
    rw [whole, List.take_length] at heard sensors
    exact ⟨heard, sensors⟩
  · intro index pending
    obtain ⟨cmsg, calling⟩ := Option.isSome_iff_exists.mp pending
    exact receive_ready coupled served clear calling index
  · intro index callback pending idle
    obtain ⟨cmsg, calling⟩ := Option.isSome_iff_exists.mp pending
    exact take_ready coupled served clear calling idle index callback

/-! ## Runs -/

/-- The publications of the run that the two sides took. -/
def Published (events : List Event) (final : State) (published : List System.Publication) :
    Prop :=
  run (System.machine protobuf) System.start (events.filterMap Event.system) =
    some (final.system, published)

theorem published_of_run {events : List Event} {final : State}
    (ran : run (System.step protobuf) System.connected (events.filterMap Event.system) =
      some final.system) :
    ∃ published, Published protobuf events final published := by
  refine run_noted ?_ System.start ran
  intro pair event next stepped
  refine ⟨pair.2 ++ System.publishes pair.1.handling event, ?_⟩
  rw [System.machine, stepped, Option.map_some]

section Run
variable (rejects : RejectsEmptyEnvelope protobuf)
variable (events : List Event) (final : State)
variable (ran : run (step crc protobuf) connected events = some final)
variable (sound : Guarded (step crc protobuf) (Sound protobuf) connected events)
variable (clear : Clear crc protobuf final)
include rejects ran sound clear

/-- From the socket to the sensors: whatever the threads and the sockets do, the client
follows the server's user. -/
theorem client_informed :
    ∃ published, Published protobuf events final published ∧
      Informs crc protobuf final published := by
  have throughout := coupled_inOrder crc protobuf ran sound clear
  obtain ⟨published, history⟩ := published_of_run protobuf (system_run crc protobuf throughout ran)
  have kept := (System.throughout_of_served protobuf rejects System.heeds_start
    (System.heeds_moved protobuf) (events.filterMap Event.system)).final history
  exact ⟨published, history,
    informs_of_served crc protobuf (throughout.final ran).1 clear kept.1 kept.2⟩

/-- The calls are settled over the bytes, and none is left when nothing moves any more. -/
theorem calls_settled
    (inTime : Guarded (System.machine protobuf) System.InTime System.start
      (events.filterMap Event.system)) :
    ∃ published, Published protobuf events final published ∧
      System.InStep final.system published ∧
      (Connection.AtRest crc protobuf final.requests → Connection.AtRest crc protobuf final.answers →
        final.handling = none → final.client.calls = [] ∧ final.client.ret = none) := by
  have throughout := coupled_inOrder crc protobuf ran sound clear
  have coupled := (throughout.final ran).1
  obtain ⟨published, history⟩ := published_of_run protobuf (system_run crc protobuf throughout ran)
  have both := (throughout_of_guarded (fun _ => True) (System.accounted_kept protobuf rejects)
    ⟨System.served_start protobuf, System.accounted_start⟩ (fun _ _ => trivial) inTime).final
      history
  have inStep := System.inStep_of_accounted both.2
  refine ⟨published, history, inStep, ?_⟩
  intro requests answers idle
  have sent : final.system.server.sent = published.map (System.Publication.message protobuf) :=
    congrArg CServer.Server.sent both.1.server
  have received : final.system.received = published.length := by
    rw [answers_delivered coupled clear answers, sent, List.length_map]
  exact System.inStep_settled inStep idle (requests_delivered coupled clear requests) received

end Run

end Delivery

theorem client_informed_exchange :
    ∃ published, Published wire exchange settled published ∧
      Informs Lib.Crc32.crc32 wire settled published :=
  client_informed Lib.Crc32.crc32 wire rfl exchange settled exchange_run exchange_sound
    exchange_clear

theorem exchange_inTime :
    Guarded (System.machine wire) System.InTime System.start
      (exchange.filterMap Event.system) := by
  have always : ∀ event ∈ [System.Event.recordCall, .take ⟨[], 0⟩, .finish], ∀ pair,
      System.InTime pair event := by
    simp [System.InTime]
  have before : Guarded (System.machine wire) System.InTime System.start
      [.sendRequestCapabilities, .recordCall, .take ⟨[], 0⟩, .finish] := by
    have short : System.start.1.client.adapter.sent.length + 1 < 2147483648 := by decide
    exact fun next _ => ⟨short, guarded_of_always next always⟩
  have entered : (run (System.machine wire) System.start
      [.sendRequestCapabilities, .recordCall, .take ⟨[], 0⟩, .finish]).map
        (·.1.client.ret) = some none := by
    decide +kernel
  obtain ⟨reached, ran, nothing⟩ := Option.map_eq_some_iff.mp entered
  refine guarded_append before ran ?_
  intro next _
  refine ⟨?_, trivial⟩
  intro one call _ _ returned
  rw [nothing] at returned
  contradiction

theorem settled_atRest : Connection.AtRest Lib.Crc32.crc32 wire settled.requests ∧
    Connection.AtRest Lib.Crc32.crc32 wire settled.answers := by
  decide +kernel

theorem calls_settled_exchange : settled.client.calls = [] ∧ settled.client.ret = none := by
  obtain ⟨_, _, _, nothing⟩ := calls_settled Lib.Crc32.crc32 wire rfl exchange settled
    exchange_run exchange_sound exchange_clear exchange_inTime
  exact nothing settled_atRest.1 settled_atRest.2 rfl

end Emserver.EndToEnd
