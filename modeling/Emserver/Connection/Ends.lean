import Emserver.Connection.Delivery

/-!
# The two ends of a connection

What a caller of `sendData` brought is on its way when the caller passes
`m_sendSyncMutex`, and the receiver's callback is called when the worker gets to it.
No other step of the connection is seen from outside.
-/

set_option autoImplicit false

namespace Emserver.Connection

open Emserver.Protobuf
open Emserver.CommonProcessor
open Emserver.TcpSession
open Lib.Runs

/-- What the worker is about to call its callback with. -/
def called (state : State) : Option CommonMessage :=
  match state.worker.1.control with
  | .calling cmsg _ => some cmsg
  | _ => none

/-- The steps between the two ends of a connection that stays open. -/
def between (state : State) : Event → Bool
  | .sender (.acquire _) => false
  | .sender .close => false
  | .worker .advance => (called state).isNone
  | _ => true

section Ends
variable (crc : List UInt8 → UInt32) (protobuf : Codecs)

/-- The caller at the index, which brought the message, passes the mutex; a caller
without a message has not called `sendData`. -/
def State.pass (state : State) (index : Nat) : List (List UInt8) → Option State
  | [] => some state
  | [message] =>
      if state.strings.blocked[index]? = some message then
        step crc protobuf state (.sender (.acquire index))
      else none
  | _ :: _ :: _ => none

def State.call (state : State) : Option (CommonMessage × State) :=
  (called state).bind fun cmsg =>
    (step crc protobuf state (.worker .advance)).map fun next => (cmsg, next)

/-! ## What the ends see -/

theorem handOver_delivered (worker next : Worker.State × Worker.History)
    (effects : List Receiving.Effect) (taken : handOver crc protobuf worker effects = some next) :
    next.1.delivered = worker.1.delivered := by
  induction effects generalizing worker with
  | nil =>
      cases taken
      rfl
  | cons effect rest ih =>
      cases effect with
      | onReadedChunk chunk =>
          obtain ⟨after, accepted, later⟩ := Option.bind_eq_some_iff.mp taken
          obtain ⟨state, stepped, rfl⟩ := Option.map_eq_some_iff.mp accepted
          have same := ih _ later
          cases Worker.step_inv crc protobuf worker.1 _ state stepped
          exact same
      | onSessionError code => exact ih worker taken

theorem receive_unseen {state next : State} {event : Receiving.Event}
    (taken : state.receive crc protobuf event = some next) :
    next.strings.passed = state.strings.passed ∧ delivered next = delivered state := by
  obtain ⟨⟨receiver, effects⟩, _, later⟩ := Option.bind_eq_some_iff.mp taken
  obtain ⟨worker, handed, rfl⟩ := Option.map_eq_some_iff.mp later
  exact ⟨rfl, handOver_delivered crc protobuf state.worker worker effects handed⟩

theorem between_unseen {state next : State} {event : Event} (inside : between state event = true)
    (taken : step crc protobuf state event = some next) :
    next.strings.passed = state.strings.passed ∧ delivered next = delivered state := by
  cases event with
  | sender event =>
      obtain ⟨sender, _, rfl⟩ := Option.map_eq_some_iff.mp taken
      refine ⟨?_, rfl⟩
      cases event with
      | acquire index => contradiction
      | sendData s =>
          simp only [Callers.note]
          split <;> rfl
      | _ => rfl
  | arrive count =>
      obtain ⟨_, received⟩ := Option.ite_none_right_eq_some.mp taken
      exact receive_unseen crc protobuf received
  | receiver event =>
      obtain ⟨_, received⟩ := Option.ite_none_right_eq_some.mp taken
      exact receive_unseen crc protobuf received
  | worker event =>
      obtain ⟨_, worked⟩ := Option.ite_none_right_eq_some.mp taken
      obtain ⟨worker, moved, rfl⟩ := Option.map_eq_some_iff.mp worked
      obtain ⟨after, stepped, rfl⟩ := Option.map_eq_some_iff.mp moved
      refine ⟨rfl, ?_⟩
      cases Worker.step_inv crc protobuf state.worker.1 event after stepped with
      | advances _ advanced =>
          cases advanced with
          | calls cmsg messages control =>
              simp only [between, called, control] at inside
              contradiction
          | _ => rfl
      | _ => rfl

theorem pass_seen {state next : State} {index : Nat} {messages : List (List UInt8)}
    (taken : state.pass crc protobuf index messages = some next) :
    next.strings.passed = state.strings.passed ++ messages ∧
      delivered next = delivered state := by
  cases messages with
  | nil =>
      cases taken
      exact ⟨(List.append_nil _).symm, rfl⟩
  | cons message rest =>
      cases rest with
      | cons second rest => contradiction
      | nil =>
          obtain ⟨brought, passes⟩ := Option.ite_none_right_eq_some.mp taken
          obtain ⟨sender, _, rfl⟩ := Option.map_eq_some_iff.mp passes
          refine ⟨?_, rfl⟩
          simp only [Callers.note, brought]
          rfl

theorem call_seen {state next : State} {cmsg : CommonMessage}
    (taken : state.call crc protobuf = some (cmsg, next)) :
    next.strings.passed = state.strings.passed ∧
      delivered next = delivered state ++ [cmsg] := by
  obtain ⟨cmsg, calling, later⟩ := Option.bind_eq_some_iff.mp taken
  obtain ⟨next, worked, same⟩ := Option.map_eq_some_iff.mp later
  cases same
  obtain ⟨worker, machined, rfl⟩ := Option.map_eq_some_iff.mp worked
  obtain ⟨after, stepped, rfl⟩ := Option.map_eq_some_iff.mp machined
  refine ⟨rfl, ?_⟩
  cases control : state.worker.1.control <;> simp only [called, control] at calling
  case calling current messages =>
    cases calling
    simp only [Worker.step, Worker.State.advance, control] at stepped
    cases stepped
    rfl
  all_goals contradiction

/-! ## What they keep -/

theorem pass_step {state next : State} {index : Nat} {messages : List (List UInt8)}
    (taken : state.pass crc protobuf index messages = some next) :
    next = state ∨ step crc protobuf state (.sender (.acquire index)) = some next := by
  cases messages with
  | nil =>
      cases taken
      exact .inl rfl
  | cons message rest =>
      cases rest with
      | cons second rest => contradiction
      | nil => exact .inr (Option.ite_none_right_eq_some.mp taken).2

theorem call_step {state next : State} {cmsg : CommonMessage}
    (taken : state.call crc protobuf = some (cmsg, next)) :
    step crc protobuf state (.worker .advance) = some next := by
  obtain ⟨cmsg, _, later⟩ := Option.bind_eq_some_iff.mp taken
  obtain ⟨next, worked, same⟩ := Option.map_eq_some_iff.mp later
  cases same
  exact worked

theorem pass_linked {state next : State} {index : Nat} {messages : List (List UInt8)}
    (linked : Linked crc protobuf state)
    (taken : state.pass crc protobuf index messages = some next) : Linked crc protobuf next := by
  rcases pass_step crc protobuf taken with rfl | passes
  · exact linked
  · have sound : Sound protobuf state (.sender (.acquire index)) := trivial
    exact step_linked crc protobuf state _ next trivial linked sound passes

theorem pass_grows {state next : State} {index : Nat} {messages : List (List UInt8)}
    (taken : state.pass crc protobuf index messages = some next) : Grows state next := by
  rcases pass_step crc protobuf taken with rfl | passes
  · exact Grows.refl _
  · exact step_grows crc protobuf state _ next passes

theorem call_linked {state next : State} {cmsg : CommonMessage}
    (linked : Linked crc protobuf state)
    (taken : state.call crc protobuf = some (cmsg, next)) : Linked crc protobuf next := by
  have sound : Sound protobuf state (.worker .advance) := by
    intro same
    contradiction
  exact step_linked crc protobuf state _ next trivial linked sound (call_step crc protobuf taken)

theorem call_grows {state next : State} {cmsg : CommonMessage}
    (taken : state.call crc protobuf = some (cmsg, next)) : Grows state next :=
  step_grows crc protobuf state _ next (call_step crc protobuf taken)

/-- Where a later state has met no decoy, the callback got what was passed. -/
theorem Linked.inOrder {state final : State} (linked : Linked crc protobuf state)
    (grows : Grows state final)
    (noDecoys : NoDecoys crc protobuf final.strings.passed final.worker.2.schedule) :
    delivered state <+: passed state := by
  obtain ⟨more, strings⟩ := grows.passed
  obtain ⟨later, schedule⟩ := grows.schedule
  rw [← strings, ← schedule] at noDecoys
  exact linked.delivered_prefix (NoDecoys.earlier crc protobuf noDecoys linked.scheduled_prefix)

/-! ## The next callback -/

/-- The worker can call its callback when it gets to it. -/
theorem call_of_called {state : State} {cmsg : CommonMessage} (calling : called state = some cmsg) :
    ∃ next, state.call crc protobuf = some (cmsg, next) := by
  cases control : state.worker.1.control <;> simp only [called, control] at calling
  case calling current messages =>
    cases calling
    have moves : ∃ next, step crc protobuf state (.worker .advance) = some next := by
      simp [step, ofWorker, Worker.machine, Worker.step, Worker.State.advance, control]
    obtain ⟨next, taken⟩ := moves
    refine ⟨next, ?_⟩
    simp only [State.call, called, control, taken]
    rfl
  all_goals contradiction

/-- It gets to what was passed next. -/
theorem Linked.calledNext {state : State} {cmsg : CommonMessage}
    (linked : Linked crc protobuf state)
    (noDecoys : NoDecoys crc protobuf state.strings.passed state.worker.2.schedule)
    (calling : called state = some cmsg) : delivered state ++ [cmsg] <+: passed state := by
  obtain ⟨_, processed, _, handed⟩ := linked.progress noDecoys
  have inHand : delivered state ++ state.worker.1.control.inHand protobuf <+: passed state := by
    rw [delivered, handed, passed, ← filterMap_sentMessages protobuf]
    exact (Lib.Resync.cut_initial _ _ _).filterMap _
  cases control : state.worker.1.control <;> simp only [called, control] at calling
  case calling current messages =>
    cases calling
    rw [control, Worker.Control.inHand] at inHand
    refine List.IsPrefix.trans ?_ inHand
    exact List.prefix_append_right_inj _ |>.mpr (List.prefix_append [cmsg] _)
  all_goals contradiction

end Ends

end Emserver.Connection
