import Emserver.Connection.Ends
import Emserver.System

/-!
# A client and a server over the bytes between them

The two sides of `System` on the two directions of a connection as it is: the mutex
and the write operations of a `TcpSession`, the stream of bytes, the reads of the
other session, and the worker of its `CommonProcessor`.  A thread that calls
`sendData` brings its string and has taken its step when it passes the mutex.  A
callback is called with what the worker has extracted, and the worker of the server
goes on when the callback has returned.
-/

set_option autoImplicit false

namespace Emserver.EndToEnd

open Emserver.Protobuf
open Lib.Runs

deriving instance DecidableEq for Requests.Adapter
deriving instance DecidableEq for System.Client
deriving instance DecidableEq for CServer.Send
deriving instance DecidableEq for CServer.Server
deriving instance DecidableEq for System.Handling

/-- `requests` leads from the client to the server, and `answers` back. -/
structure State where
  client : System.Client
  server : CServer.Server
  handling : Option System.Handling
  requests : Connection.State
  answers : Connection.State
  deriving DecidableEq

def connected : State where
  client := System.connected.client
  server := System.connected.server
  handling := System.connected.handling
  requests := Connection.connected
  answers := Connection.connected

/-- A step of a side, where what it sends was brought to `sendData` by the caller at the
index, or a step of one direction of the connection. -/
inductive Event where
  | side (index : Nat) (event : System.Event)
  | requests (event : Connection.Event)
  | answers (event : Connection.Event)

/-- What the two sides are without the connection. -/
def State.system (state : State) : System.State where
  client := state.client
  server := state.server
  handling := state.handling
  taken := (Connection.delivered state.requests).length
  received := (Connection.delivered state.answers).length

def Event.system : Event → Option System.Event
  | .side _ event => some event
  | .requests _ => none
  | .answers _ => none

/-! ## The callbacks of the workers -/

section Callbacks
variable (protobuf : Codecs)

/-- `callbackRecievedCommonMessage` of the server's processor. -/
def handled (server : CServer.Server) (callback : CServer.Behaviour) (cmsg : CommonMessage) :
    Option (CServer.Server × Option System.Handling) :=
  match Requests.serverProcessor.callbackRecievedCommonMessage protobuf cmsg with
  | .error _ => none
  | .ok outcome =>
      match outcome.invoked with
      | [] => some (server, none)
      | invocation :: _ => System.invokeServer protobuf server callback invocation

/-- `callbackRecievedCommonMessage` of the client's processor. -/
def heard (client : System.Client) (cmsg : CommonMessage) : Option System.Client :=
  match EmserverAdapter.clientProcessor.callbackRecievedCommonMessage protobuf cmsg with
  | .error _ => none
  | .ok outcome =>
      match outcome.invoked with
      | [] => some client
      | invocation :: _ => client.invoked protobuf invocation

theorem handled_message (server : CServer.Server) (callback : CServer.Behaviour)
    (message : List UInt8) :
    handled protobuf server callback ⟨some 1, some message⟩ =
      System.takeMessage protobuf server callback message := rfl

theorem heard_message (client : System.Client) (message : List UInt8) :
    heard protobuf client ⟨some 1, some message⟩ = client.receive protobuf message := rfl

end Callbacks

/-! ## Steps -/

section Steps
variable (crc : List UInt8 → UInt32) (protobuf : Codecs)

/-- A step of a side up to what it sends. -/
def State.act (state : State) : System.Event → Option State
  | .take callback =>
      if state.handling.isNone then
        (state.requests.call crc protobuf).bind fun (cmsg, requests) =>
          (handled protobuf state.server callback cmsg).map fun (server, handling) =>
            { state with server := server, handling := handling, requests := requests }
      else none
  | .receive =>
      (state.answers.call crc protobuf).bind fun (cmsg, answers) =>
        (heard protobuf state.client cmsg).map fun client =>
          { state with client := client, answers := answers }
  | event =>
      (System.step protobuf state.system event).map fun next =>
        { state with client := next.client, server := next.server, handling := next.handling }

/-- What went to `sendData` in between. -/
def sentSince (before after : List (List UInt8)) : Option (List (List UInt8)) :=
  after.dropPrefix? before

/-- What a side has sent goes to its direction of the connection. -/
def State.send (before after : State) (index : Nat) : Option State :=
  (sentSince before.client.adapter.sent after.client.adapter.sent).bind fun requested =>
    (sentSince before.server.sent after.server.sent).bind fun answered =>
      (after.requests.pass crc protobuf index requested).bind fun requests =>
        (after.answers.pass crc protobuf index answered).map fun answers =>
          { after with requests := requests, answers := answers }

def step (state : State) : Event → Option State
  | .side index event =>
      (state.act crc protobuf event).bind fun after => state.send crc protobuf after index
  | .requests event =>
      if Connection.between state.requests event ∧
          (event = .worker .advance → state.handling.isNone) then
        (Connection.step crc protobuf state.requests event).map fun requests =>
          { state with requests := requests }
      else none
  | .answers event =>
      if Connection.between state.answers event then
        (Connection.step crc protobuf state.answers event).map fun answers =>
          { state with answers := answers }
      else none

/-- No read or write of the connection fails, and writes start orderly. -/
def Sound (state : State) : Event → Prop
  | .side _ _ => True
  | .requests event => Connection.Sound protobuf state.requests event
  | .answers event => Connection.Sound protobuf state.answers event

instance soundDecidable (state : State) (event : Event) :
    Decidable (Sound protobuf state event) := by
  cases event <;> unfold Sound <;> infer_instance

/-- No scan of either worker has met a decoy. -/
def Clear (state : State) : Prop :=
  CommonProcessor.NoDecoys crc protobuf state.requests.strings.passed
      state.requests.worker.2.schedule ∧
    CommonProcessor.NoDecoys crc protobuf state.answers.strings.passed
      state.answers.worker.2.schedule

instance clearDecidable (state : State) : Decidable (Clear crc protobuf state) := by
  unfold Clear
  infer_instance

/-! ## What a step does -/

/-- What a side does of its own accord. -/
inductive Acted (state : State) : System.Event → State → Prop where
  | takes (callback : CServer.Behaviour) (cmsg : CommonMessage) (requests : Connection.State)
      (server : CServer.Server) (handling : Option System.Handling)
      (idle : state.handling = none)
      (called : state.requests.call crc protobuf = some (cmsg, requests))
      (returned : handled protobuf state.server callback cmsg = some (server, handling)) :
      Acted state (.take callback)
        { state with server := server, handling := handling, requests := requests }
  | receives (cmsg : CommonMessage) (answers : Connection.State) (client : System.Client)
      (called : state.answers.call crc protobuf = some (cmsg, answers))
      (returned : heard protobuf state.client cmsg = some client) :
      Acted state .receive { state with client := client, answers := answers }
  | alone (event : System.Event) (next : System.State)
      (stepped : System.step protobuf state.system event = some next)
      (taken : next.taken = state.system.taken) (received : next.received = state.system.received) :
      Acted state event
        { state with client := next.client, server := next.server, handling := next.handling }

theorem act_inv (state : State) (event : System.Event) (after : State)
    (acted : state.act crc protobuf event = some after) :
    Acted crc protobuf state event after := by
  cases event with
  | take callback =>
      obtain ⟨idle, calls⟩ := Option.ite_none_right_eq_some.mp acted
      obtain ⟨⟨cmsg, requests⟩, called, returns⟩ := Option.bind_eq_some_iff.mp calls
      obtain ⟨⟨server, handling⟩, returned, rfl⟩ := Option.map_eq_some_iff.mp returns
      exact .takes callback cmsg requests server handling
        (Option.isNone_iff_eq_none.mp idle) called returned
  | receive =>
      obtain ⟨⟨cmsg, answers⟩, called, returns⟩ := Option.bind_eq_some_iff.mp acted
      obtain ⟨client, returned, rfl⟩ := Option.map_eq_some_iff.mp returns
      exact .receives cmsg answers client called returned
  | sendRequestCapabilities =>
      obtain ⟨next, stepped, rfl⟩ := Option.map_eq_some_iff.mp acted
      have counters := stepped
      simp only [System.step] at counters
      split at counters
      case h_2 => contradiction
      case h_1 =>
        cases counters
        exact .alone _ _ stepped rfl rfl
  | recordCall =>
      obtain ⟨next, stepped, rfl⟩ := Option.map_eq_some_iff.mp acted
      obtain ⟨ret, _, rfl⟩ := Option.map_eq_some_iff.mp stepped
      exact .alone _ _ stepped rfl rfl
  | perform =>
      obtain ⟨next, stepped, rfl⟩ := Option.map_eq_some_iff.mp acted
      have counters := stepped
      simp only [System.step] at counters
      split at counters
      case h_2 => contradiction
      case h_1 =>
        obtain ⟨server, _, rfl⟩ := Option.map_eq_some_iff.mp counters
        exact .alone _ _ stepped rfl rfl
  | finish =>
      obtain ⟨next, stepped, rfl⟩ := Option.map_eq_some_iff.mp acted
      have counters := stepped
      simp only [System.step] at counters
      split at counters
      case h_2 => contradiction
      case h_1 =>
        cases counters
        exact .alone _ _ stepped rfl rfl
  | send send =>
      obtain ⟨next, stepped, rfl⟩ := Option.map_eq_some_iff.mp acted
      obtain ⟨server, _, rfl⟩ := Option.map_eq_some_iff.mp stepped
      exact .alone _ _ stepped rfl rfl
  | runtimeError code err =>
      cases acted
      exact .alone _ _ rfl rfl rfl

/-- What goes to the connection afterwards. -/
structure Sends (before after : State) (index : Nat) (next : State) : Prop where
  client : next.client = after.client
  server : next.server = after.server
  handling : next.handling = after.handling
  requests : ∃ messages, after.client.adapter.sent = before.client.adapter.sent ++ messages ∧
    after.requests.pass crc protobuf index messages = some next.requests
  answers : ∃ messages, after.server.sent = before.server.sent ++ messages ∧
    after.answers.pass crc protobuf index messages = some next.answers

theorem sentSince_eq {before after messages : List (List UInt8)}
    (since : sentSince before after = some messages) : after = before ++ messages := by
  obtain ⟨first, split, same⟩ := List.dropPrefix?_eq_some_iff.mp since
  rw [split, eq_of_beq same]

theorem sentSince_self (sent : List (List UInt8)) : sentSince sent sent = some [] :=
  List.dropPrefix?_eq_some_iff.mpr ⟨sent, (List.append_nil sent).symm, beq_self_eq_true sent⟩

/-- A step that sends nothing goes through. -/
theorem send_nothing (before after : State) (index : Nat)
    (client : after.client.adapter.sent = before.client.adapter.sent)
    (server : after.server.sent = before.server.sent) :
    before.send crc protobuf after index = some after := by
  rw [State.send, client, server, sentSince_self, sentSince_self]
  rfl

theorem send_inv (before after : State) (index : Nat) (next : State)
    (sent : before.send crc protobuf after index = some next) :
    Sends crc protobuf before after index next := by
  obtain ⟨requested, requestedSince, sent⟩ := Option.bind_eq_some_iff.mp sent
  obtain ⟨answered, answeredSince, sent⟩ := Option.bind_eq_some_iff.mp sent
  obtain ⟨requests, requestsPass, sent⟩ := Option.bind_eq_some_iff.mp sent
  obtain ⟨answers, answersPass, rfl⟩ := Option.map_eq_some_iff.mp sent
  exact ⟨rfl, rfl, rfl, ⟨requested, sentSince_eq requestedSince, requestsPass⟩,
    ⟨answered, sentSince_eq answeredSince, answersPass⟩⟩

end Steps

end Emserver.EndToEnd
