import Emserver.Lib.Connections
import Emserver.System.Publications

/-!
# A client and a server over one connection after another

Each direction of a connection is an ordered channel, as in `System`, until the
connection is lost.  Either side can lose its session at any time.  The destructor of
a session waits for the callback its worker runs, so the server accepts again when the
callback has returned, and what was on the way is gone.  The two sides install their
ends of a new connection in either order.
-/

set_option autoImplicit false

namespace Emserver.System.Connections

open Emserver.Protobuf
open Emserver.EmserverProcessor
open Emserver.Requests
open Lib.Connections
open Lib.Runs

/-- `clientSocket` and `serverSocket` mean that the side is connected and about to
install its session. -/
structure State where
  system : System.State
  clientSocket : Bool
  serverSocket : Bool

def connected : State := ⟨System.connected, false, false⟩

/-- `within` is a step of the two sides as over one connection. -/
inductive Event where
  | within (event : System.Event)
  | clientLoses
  | serverLoses
  | connects
  | clientInstalls
  | serverInstalls

/-! ## Steps -/

def setClientSession (state : System.State) (session : Bool) : System.State :=
  { state with
    client := { state.client with adapter := { state.client.adapter with session := session } } }

def setServerSession (state : System.State) (session : Bool) : System.State :=
  { state with server := { state.server with session := session } }

/-- A message is read by a session that is installed. -/
def reads (state : System.State) : System.Event → Bool
  | .take _ => state.server.session
  | .receive => state.client.adapter.session
  | _ => true

/-- Neither side has a session, a socket or a callback running. -/
def State.apart (state : State) : Bool :=
  !state.system.client.adapter.session && !state.system.server.session &&
    !state.clientSocket && !state.serverSocket && state.system.handling.isNone

section Steps
variable (protobuf : Codecs)

def step (state : State) : Event → Option State
  | .within event =>
      if reads state.system event then
        (System.step protobuf state.system event).map fun system => { state with system := system }
      else none
  | .clientLoses =>
      if state.system.client.adapter.session then
        some { state with system := setClientSession state.system false }
      else none
  | .serverLoses =>
      if state.system.server.session then
        some { state with system := setServerSession state.system false }
      else none
  | .connects =>
      if state.apart then
        some {
          system := { state.system with
            taken := state.system.client.adapter.sent.length
            received := state.system.server.sent.length }
          clientSocket := true
          serverSocket := true }
      else none
  | .clientInstalls =>
      if state.clientSocket then
        some { state with system := setClientSession state.system true, clientSocket := false }
      else none
  | .serverInstalls =>
      if state.serverSocket then
        some { state with system := setServerSession state.system true, serverSocket := false }
      else none

/-! ## What passes over the connections -/

/-- The value of the counter, the values of the requests sent, and the publications. -/
structure History where
  number : Nat
  requests : Log Nat
  publications : Log Publication

/-- A session is needed to send. -/
def note (state : State) (event : Event) (history : History) : History :=
  match event with
  | .within .sendRequestCapabilities =>
      { history with
        number := history.number + 1
        requests := history.requests.pass
          (if state.system.client.adapter.session then [history.number] else []) }
  | .within (.take _) => { history with requests := history.requests.take }
  | .within .receive => { history with publications := history.publications.take }
  | .within event =>
      { history with
        publications := history.publications.pass
          (if state.system.server.session then publishes state.system.handling event else []) }
  | .connects =>
      { history with
        requests := history.requests.reconnect
        publications := history.publications.reconnect }
  | _ => history

def machine (pair : State × History) (event : Event) : Option (State × History) :=
  (step protobuf pair.1 event).map fun next => (next, note pair.1 event pair.2)

def start : State × History := (connected, ⟨1, .empty, .empty⟩)

/-! ## Without a session -/

theorem sendMethodCallResult_silent (server : CServer.Server) (dead : server.session = false)
    (methodId : UInt32) (code : Int32) :
    server.sendMethodCallResult protobuf methodId code = server := by
  simp [CServer.Server.sendMethodCallResult, dead]

theorem runtimeError_silent (server : CServer.Server) (dead : server.session = false)
    (code : Int32) (err : List UInt8) : server.runtimeError protobuf code err = server := by
  simp [CServer.Server.runtimeError, dead]

theorem perform_silent (server : CServer.Server) (dead : server.session = false)
    (send : CServer.Send) {after : CServer.Server}
    (performed : (server.perform protobuf send).toOption = some after) : after = server := by
  cases send with
  | sendCapabilities id caps =>
      cases visited : CServer.protoSensors protobuf caps.sensors with
      | error fault =>
          simp [CServer.Server.perform, CServer.Server.sendCapabilities, visited, bind,
            Except.bind, Except.toOption] at performed
      | ok sensors =>
          simp only [CServer.Server.perform, CServer.Server.sendCapabilities, visited, bind,
            Except.bind, dead, Bool.and_false, Bool.false_eq_true, if_false] at performed
          cases performed
          rfl
  | sendActiveSensor id pSensor =>
      simp only [CServer.Server.perform, CServer.Server.sendActivatedSensorState, dead,
        Bool.and_false, Bool.false_eq_true, if_false] at performed
      cases performed
      rfl

/-! ## The steps between the two sides -/

/-- What passed over the connections is what the two sides sent and took. -/
structure Carried (state : State) (history : History) : Prop where
  server : state.system.server = ⟨state.system.server.session, true, true,
    history.publications.passed.map (Publication.message protobuf)⟩
  known : ∀ one ∈ history.publications.passed, one.Known
  adapter : state.system.client.adapter = ⟨Int64.ofNat history.number,
    state.system.client.adapter.session, history.requests.passed.map (request protobuf)⟩
  taken : state.system.taken = history.requests.position
  received : state.system.received = history.publications.position

/-- The events of a server without a session, and what becomes of the callback. -/
inductive Silent : Option Handling → System.Event → Option Handling → Prop where
  | perform (id : Int64) (send : CServer.Send) (sends : List CServer.Send) (code : Int32) :
      Silent (some ⟨id, send :: sends, code⟩) .perform (some ⟨id, sends, code⟩)
  | finish (id : Int64) (code : Int32) : Silent (some ⟨id, [], code⟩) .finish none
  | send (handling : Option Handling) (send : CServer.Send) :
      Silent handling (.send send) handling
  | runtimeError (handling : Option Handling) (code : Int32) (err : List UInt8) :
      Silent handling (.runtimeError code err) handling

/-- The steps of a client and a server. -/
inductive Moved (state : State) (history : History) : Event → State × History → Prop where
  | requests (live : state.system.client.adapter.session = true)
      (free : state.system.client.ret = none) :
      Moved state history (.within .sendRequestCapabilities)
        ({ state with system := { state.system with client := { state.system.client with
            adapter := ⟨Int64.ofNat (history.number + 1), true,
              history.requests.passed.map (request protobuf) ++
                [request protobuf history.number]⟩
            ret := some (counterId history.number).toInt32 } } },
          { history with
            number := history.number + 1
            requests := history.requests.pass [history.number] })
  | refused (dead : state.system.client.adapter.session = false)
      (free : state.system.client.ret = none) :
      Moved state history (.within .sendRequestCapabilities)
        ({ state with system := { state.system with client := { state.system.client with
            adapter := ⟨Int64.ofNat (history.number + 1), false,
              history.requests.passed.map (request protobuf)⟩
            ret := some invalidSessionError } } },
          { history with
            number := history.number + 1
            requests := history.requests.pass [] })
  | records (ret : Int32) (returned : state.system.client.ret = some ret) :
      Moved state history (.within .recordCall)
        ({ state with system := { state.system with
            client := state.system.client.recordCall ret } },
          { history with publications := history.publications.pass [] })
  | takes (callback : CServer.Behaviour) (number : Nat)
      (live : state.system.server.session = true) (idle : state.system.handling = none)
      (next : history.requests.next = some number) :
      Moved state history (.within (.take callback))
        ({ state with system := { state.system with
            handling := some ⟨counterId number, callback.sends, callback.code⟩
            taken := state.system.taken + 1 } },
          { history with requests := history.requests.take })
  | publishes (event : System.Event) (one : Publication) (handling : Option Handling)
      (live : state.system.server.session = true)
      (made : Publishes state.system.handling event one handling) (known : one.Known) :
      Moved state history (.within event)
        ({ state with system := { state.system with
            server := state.system.server.sendData (one.message protobuf)
            handling := handling } },
          { history with publications := history.publications.pass [one] })
  | unheard (event : System.Event) (handling : Option Handling)
      (dead : state.system.server.session = false)
      (silent : Silent state.system.handling event handling) :
      Moved state history (.within event)
        ({ state with system := { state.system with handling := handling } },
          { history with publications := history.publications.pass [] })
  | receives (one : Publication) (live : state.system.client.adapter.session = true)
      (next : history.publications.next = some one) :
      Moved state history (.within .receive)
        ({ state with system := { state.system with
            client := state.system.client.hear one
            received := state.system.received + 1 } },
          { history with publications := history.publications.take })
  | clientLoses (live : state.system.client.adapter.session = true) :
      Moved state history .clientLoses
        ({ state with system := setClientSession state.system false }, history)
  | serverLoses (live : state.system.server.session = true) :
      Moved state history .serverLoses
        ({ state with system := setServerSession state.system false }, history)
  | connects (apart : state.apart = true) :
      Moved state history .connects
        ({ system := { state.system with
            taken := state.system.client.adapter.sent.length
            received := state.system.server.sent.length }
           clientSocket := true
           serverSocket := true },
          { history with
            requests := history.requests.reconnect
            publications := history.publications.reconnect })
  | clientInstalls (socket : state.clientSocket = true) :
      Moved state history .clientInstalls
        ({ state with system := setClientSession state.system true, clientSocket := false },
          history)
  | serverInstalls (socket : state.serverSocket = true) :
      Moved state history .serverInstalls
        ({ state with system := setServerSession state.system true, serverSocket := false },
          history)

section Note
variable (state : State) (event : System.Event) (history : History)
variable {before after : Option Handling} {one : Publication}

theorem note_silent (dead : state.system.server.session = false)
    (silent : Silent before event after) :
    note state (.within event) history =
      { history with publications := history.publications.pass [] } := by
  cases silent <;> simp only [note, dead, Bool.false_eq_true, if_false]

theorem note_live (live : state.system.server.session = true)
    (made : Publishes state.system.handling event one after) :
    note state (.within event) history =
      { history with publications := history.publications.pass [one] } := by
  have noted : ∀ handling, Publishes handling event one after →
      note state (.within event) history =
        { history with
          publications := history.publications.pass
            (if state.system.server.session then publishes state.system.handling event
              else []) } := by
    intro handling made
    cases made <;> rfl
  rw [noted _ made, if_pos live, publishes_list made]

end Note

section Moving
variable {protobuf}
variable (rejects : RejectsEmptyEnvelope protobuf)
variable {state : State} {history : History} (carried : Carried protobuf state history)
include rejects carried

theorem within_moved (event : System.Event) (next : System.State)
    (reading : reads state.system event = true)
    (stepped : System.step protobuf state.system event = some next) :
    Moved protobuf state history (.within event)
      ({ state with system := next }, note state (.within event) history) := by
  have registered : state.system.server.onClientCapsRequest = true := by rw [carried.server]
  cases event with
  | sendRequestCapabilities =>
      cases free : state.system.client.ret with
      | some ret =>
          rw [System.step, free] at stepped
          contradiction
      | none =>
          rw [System.step, free] at stepped
          cases stepped
          have sent := sendRequestCapabilities_numbered protobuf rejects history.number
            state.system.client.adapter.session (history.requests.passed.map (request protobuf))
          rw [← carried.adapter] at sent
          cases session : state.system.client.adapter.session with
          | true =>
              rw [session, if_pos rfl] at sent
              rw [Client.sendRequestCapabilities, sent, note, session]
              exact .requests session free
          | false =>
              rw [session, if_neg Bool.false_ne_true] at sent
              rw [Client.sendRequestCapabilities, sent, note, session]
              exact .refused session free
  | recordCall =>
      obtain ⟨ret, returned, rfl⟩ := Option.map_eq_some_iff.mp stepped
      have noted : note state (.within .recordCall) history =
          { history with publications := history.publications.pass [] } := by
        simp [note, publishes]
      rw [noted]
      exact .records ret returned
  | take callback =>
      simp only [System.step] at stepped
      split at stepped
      case h_2 => contradiction
      case h_1 message idle found =>
        rw [carried.adapter, carried.taken, List.getElem?_map, passed_position] at found
        obtain ⟨number, next, rfl⟩ := Option.map_eq_some_iff.mp found
        rw [takeMessage_request protobuf state.system.server registered callback] at stepped
        cases stepped
        exact .takes callback number reading idle next
  | perform =>
      simp only [System.step] at stepped
      split at stepped
      case h_2 => contradiction
      case h_1 id send sends code handling =>
        obtain ⟨after, performed, rfl⟩ := Option.map_eq_some_iff.mp stepped
        cases live : state.system.server.session with
        | true =>
            obtain ⟨one, made, known, rfl⟩ := perform_inv protobuf rejects live performed
            have publishing := Publishes.perform id send sends code one made
            rw [← handling] at publishing
            rw [note_live state .perform history live publishing]
            exact .publishes _ one _ live publishing known
        | false =>
            have silent := Silent.perform id send sends code
            rw [← handling] at silent
            rw [perform_silent protobuf _ live send performed,
              note_silent state .perform history live silent]
            exact .unheard _ _ live silent
  | finish =>
      simp only [System.step] at stepped
      split at stepped
      case h_2 => contradiction
      case h_1 id code handling =>
        cases stepped
        cases live : state.system.server.session with
        | true =>
            have publishing := Publishes.finish id code
            rw [← handling] at publishing
            rw [sendMethodCallResult_published protobuf rejects _ live,
              note_live state .finish history live publishing]
            exact .publishes _ _ none live publishing trivial
        | false =>
            have silent := Silent.finish id code
            rw [← handling] at silent
            rw [sendMethodCallResult_silent protobuf _ live,
              note_silent state .finish history live silent]
            exact .unheard _ _ live silent
  | send send =>
      obtain ⟨after, performed, rfl⟩ := Option.map_eq_some_iff.mp stepped
      cases live : state.system.server.session with
      | true =>
          obtain ⟨one, made, known, rfl⟩ := perform_inv protobuf rejects live performed
          have publishing := Publishes.send state.system.handling send one made
          rw [note_live state (.send send) history live publishing]
          exact .publishes _ one _ live publishing known
      | false =>
          have silent := Silent.send state.system.handling send
          rw [perform_silent protobuf _ live send performed,
            note_silent state (.send send) history live silent]
          exact .unheard _ _ live silent
  | runtimeError code err =>
      cases stepped
      cases live : state.system.server.session with
      | true =>
          have publishing := Publishes.runtimeError state.system.handling code err
          rw [runtimeError_published protobuf state.system.server live,
            note_live state (.runtimeError code err) history live publishing]
          exact .publishes _ _ _ live publishing trivial
      | false =>
          have silent := Silent.runtimeError state.system.handling code err
          rw [runtimeError_silent protobuf _ live,
            note_silent state (.runtimeError code err) history live silent]
          exact .unheard _ _ live silent
  | receive =>
      simp only [System.step] at stepped
      split at stepped
      case h_2 => contradiction
      case h_1 message found =>
        rw [carried.server, carried.received, List.getElem?_map, passed_position] at found
        obtain ⟨one, next, rfl⟩ := Option.map_eq_some_iff.mp found
        have passes := passed_position history.publications
        rw [next] at passes
        have known := carried.known one (List.mem_of_getElem? passes)
        rw [receive_published protobuf state.system.client one known] at stepped
        cases stepped
        exact .receives one reading next

theorem machine_moved {event : Event} {next : State × History}
    (taken : machine protobuf (state, history) event = some next) :
    Moved protobuf state history event next := by
  obtain ⟨after, stepped, rfl⟩ := Option.map_eq_some_iff.mp taken
  cases event with
  | within event =>
      obtain ⟨reading, moved⟩ := Option.ite_none_right_eq_some.mp stepped
      obtain ⟨next, within, rfl⟩ := Option.map_eq_some_iff.mp moved
      exact within_moved rejects carried event next reading within
  | clientLoses =>
      obtain ⟨live, rfl⟩ := of_guard stepped
      exact .clientLoses live
  | serverLoses =>
      obtain ⟨live, rfl⟩ := of_guard stepped
      exact .serverLoses live
  | connects =>
      obtain ⟨apart, rfl⟩ := of_guard stepped
      exact .connects apart
  | clientInstalls =>
      obtain ⟨socket, rfl⟩ := of_guard stepped
      exact .clientInstalls socket
  | serverInstalls =>
      obtain ⟨socket, rfl⟩ := of_guard stepped
      exact .serverInstalls socket

omit rejects in
/-- The two sides go on sending and taking what passes over the connections. -/
theorem carried_moved {event : Event} {next : State × History}
    (moved : Moved protobuf state history event next) : Carried protobuf next.1 next.2 := by
  obtain ⟨server, known, adapter, taken, received⟩ := carried
  cases moved with
  | requests live free =>
      exact ⟨server, known, by simp, taken, received⟩
  | refused dead free =>
      exact ⟨server, known, by simp, taken, received⟩
  | records ret returned =>
      exact ⟨by simpa using server, by simpa using known, adapter, taken, received⟩
  | takes callback number live idle next =>
      refine ⟨server, known, ?_, ?_, received⟩
      · simp only [passed_take history.requests next]
        exact adapter
      · simp only [position_take history.requests next, taken]
  | publishes event one handling live made fresh =>
      refine ⟨?_, ?_, adapter, taken, received⟩
      · rw [server]
        simp [CServer.Server.sendData]
      · intro other member
        rcases List.mem_append.mp (passed_pass history.publications [one] ▸ member) with past | here
        · exact known other past
        · rwa [List.mem_singleton.mp here]
  | unheard event handling dead silent =>
      exact ⟨by simpa using server, by simpa using known, adapter, taken, received⟩
  | receives one live next =>
      refine ⟨?_, ?_, adapter, taken, ?_⟩
      · simp only [passed_take history.publications next]
        exact server
      · simp only [passed_take history.publications next]
        exact known
      · simp only [position_take history.publications next, received]
  | clientLoses live =>
      refine ⟨server, known, ?_, taken, received⟩
      simp only [setClientSession]
      rw [adapter]
  | clientInstalls socket =>
      refine ⟨server, known, ?_, taken, received⟩
      simp only [setClientSession]
      rw [adapter]
  | serverLoses live =>
      refine ⟨?_, known, adapter, taken, received⟩
      simp only [setServerSession]
      rw [server]
  | serverInstalls socket =>
      refine ⟨?_, known, adapter, taken, received⟩
      simp only [setServerSession]
      rw [server]
  | connects apart =>
      refine ⟨?_, ?_, ?_, ?_, ?_⟩
      · simpa using server
      · simpa using known
      · simpa using adapter
      · simp only [position_reconnect]
        rw [adapter]
        simp
      · simp only [position_reconnect]
        rw [server]
        simp

end Moving

theorem carried_start : Carried protobuf start.1 start.2 :=
  ⟨rfl, nofun, rfl, rfl, rfl⟩

end Steps
end Emserver.System.Connections
