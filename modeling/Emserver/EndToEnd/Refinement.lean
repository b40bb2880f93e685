import Emserver.EndToEnd
import Emserver.Lib.Refinement
import Emserver.System.Calls
import Emserver.System.Replica

/-!
# From the bytes to the sensors

While the connection works, the two sides over its bytes take the steps of `System`,
where each direction delivers what was passed to `sendData` in order.  What holds of
`System` so holds of callers, sockets, buffers and workers in any interleaving, and
when nothing of the connection moves any more, the client knows everything.
-/

set_option autoImplicit false

namespace Emserver.EndToEnd

open Emserver.Protobuf
open Lib.Refinement
open Lib.Runs

section Refinement
variable (crc : List UInt8 → UInt32) (protobuf : Codecs)

/-- Each side has sent what was passed to its direction. -/
structure Coupled (state : State) : Prop where
  requests : Connection.Linked crc protobuf state.requests
  answers : Connection.Linked crc protobuf state.answers
  requested : state.requests.strings.passed = state.client.adapter.sent
  answered : state.answers.strings.passed = state.server.sent

/-- Both directions have delivered what was passed, as far as they got. -/
structure InOrder (state : State) : Prop where
  requests : Connection.delivered state.requests <+: Connection.passed state.requests
  answers : Connection.delivered state.answers <+: Connection.passed state.answers

/-- Both directions only add to what was passed and delivered. -/
structure Grows (before after : State) : Prop where
  requests : Connection.Grows before.requests after.requests
  answers : Connection.Grows before.answers after.answers

theorem Grows.refl (state : State) : Grows state state :=
  ⟨Connection.Grows.refl _, Connection.Grows.refl _⟩

theorem Grows.trans {first second third : State} (early : Grows first second)
    (late : Grows second third) : Grows first third :=
  ⟨early.requests.trans late.requests, early.answers.trans late.answers⟩

theorem coupled_connected : Coupled crc protobuf connected where
  requests := Connection.linked_connected crc protobuf
  answers := Connection.linked_connected crc protobuf
  requested := rfl
  answered := rfl

/-! ## A step -/

/-- What was delivered next is what was passed next. -/
theorem next_message {delivered : List CommonMessage} {cmsg : CommonMessage}
    {strings : List (List UInt8)}
    (inOrder : delivered ++ [cmsg] <+: CommonProcessor.expected strings) :
    ∃ message, strings[delivered.length]? = some message ∧ cmsg = ⟨some 1, some message⟩ := by
  obtain ⟨rest, split⟩ := inOrder
  have here : (CommonProcessor.expected strings)[delivered.length]? = some cmsg := by
    rw [← split]
    simp
  rw [CommonProcessor.expected, List.getElem?_map] at here
  obtain ⟨message, found, same⟩ := Option.map_eq_some_iff.mp here
  exact ⟨message, found, same.symm⟩

section Side
variable {crc protobuf}
variable {state after next : State} {index : Nat} {event : System.Event}
variable (coupled : Coupled crc protobuf state)
variable (acted : Acted crc protobuf state event after)
include coupled acted

theorem acted_kept :
    (Connection.Linked crc protobuf after.requests ∧
      Connection.Linked crc protobuf after.answers) ∧
    after.requests.strings.passed = state.client.adapter.sent ∧
    after.answers.strings.passed = state.server.sent := by
  cases acted with
  | takes callback cmsg requests server handling idle called returned =>
      have linked := Connection.call_linked crc protobuf coupled.requests called
      obtain ⟨passed, _⟩ := Connection.call_seen crc protobuf called
      exact ⟨⟨linked, coupled.answers⟩, passed.trans coupled.requested, coupled.answered⟩
  | receives cmsg answers client called returned =>
      have linked := Connection.call_linked crc protobuf coupled.answers called
      obtain ⟨passed, _⟩ := Connection.call_seen crc protobuf called
      exact ⟨⟨coupled.requests, linked⟩, coupled.requested, passed.trans coupled.answered⟩
  | alone event beyond stepped taken received =>
      exact ⟨⟨coupled.requests, coupled.answers⟩, coupled.requested, coupled.answered⟩

variable (sends : Sends crc protobuf state after index next)
include sends

theorem side_coupled : Coupled crc protobuf next := by
  obtain ⟨⟨requestsLinked, answersLinked⟩, requested, answered⟩ := acted_kept coupled acted
  obtain ⟨requests, requestsSent, requestsPass⟩ := sends.requests
  obtain ⟨answers, answersSent, answersPass⟩ := sends.answers
  obtain ⟨requestsPassed, _⟩ := Connection.pass_seen crc protobuf requestsPass
  obtain ⟨answersPassed, _⟩ := Connection.pass_seen crc protobuf answersPass
  refine ⟨Connection.pass_linked crc protobuf requestsLinked requestsPass,
    Connection.pass_linked crc protobuf answersLinked answersPass, ?_, ?_⟩
  · rw [requestsPassed, requested, ← requestsSent, sends.client]
  · rw [answersPassed, answered, ← answersSent, sends.server]

/-- A side that takes a step over the bytes takes it in `System`. -/
theorem side_matched (inOrder : InOrder next) :
    System.step protobuf state.system event = some next.system := by
  have kept := side_coupled coupled acted sends
  obtain ⟨requests, _, requestsPass⟩ := sends.requests
  obtain ⟨answers, _, answersPass⟩ := sends.answers
  obtain ⟨_, requestsDelivered⟩ := Connection.pass_seen crc protobuf requestsPass
  obtain ⟨_, answersDelivered⟩ := Connection.pass_seen crc protobuf answersPass
  have requestsInOrder := inOrder.requests
  have answersInOrder := inOrder.answers
  rw [Connection.passed, kept.requested, sends.client, requestsDelivered] at requestsInOrder
  rw [Connection.passed, kept.answered, sends.server, answersDelivered] at answersInOrder
  have view : next.system =
      ⟨after.client, after.server, after.handling,
        (Connection.delivered after.requests).length,
        (Connection.delivered after.answers).length⟩ := by
    rw [State.system, sends.client, sends.server, sends.handling, requestsDelivered,
      answersDelivered]
  rw [view]
  cases acted with
  | takes callback cmsg requests server handling idle called returned =>
      obtain ⟨_, delivered⟩ := Connection.call_seen crc protobuf called
      rw [delivered] at requestsInOrder
      obtain ⟨message, found, rfl⟩ := next_message requestsInOrder
      rw [handled_message] at returned
      simp only [System.step, State.system, idle, found, returned, delivered]
      simp
  | receives cmsg answers client called returned =>
      obtain ⟨_, delivered⟩ := Connection.call_seen crc protobuf called
      rw [delivered] at answersInOrder
      obtain ⟨message, found, rfl⟩ := next_message answersInOrder
      rw [heard_message] at returned
      simp only [System.step, State.system, found, returned, delivered]
      simp
  | alone event beyond stepped taken received =>
      rw [stepped]
      obtain ⟨client, server, handling, takenCount, receivedCount⟩ := beyond
      cases taken
      cases received
      rfl

end Side

theorem step_coupled (state : State) (event : Event) (next : State) (_admitted : True)
    (coupled : Coupled crc protobuf state) (sound : Sound protobuf state event)
    (taken : step crc protobuf state event = some next) :
    Coupled crc protobuf next := by
  cases event with
  | side index event =>
      obtain ⟨after, acts, sent⟩ := Option.bind_eq_some_iff.mp taken
      exact side_coupled coupled (act_inv crc protobuf state event after acts)
        (send_inv crc protobuf state after index next sent)
  | requests event =>
      obtain ⟨⟨inside, _⟩, moves⟩ := Option.ite_none_right_eq_some.mp taken
      obtain ⟨requests, moved, rfl⟩ := Option.map_eq_some_iff.mp moves
      obtain ⟨passed, _⟩ := Connection.between_unseen crc protobuf inside moved
      exact { coupled with
        requests := Connection.step_linked crc protobuf _ event _ trivial coupled.requests sound moved
        requested := passed.trans coupled.requested }
  | answers event =>
      obtain ⟨inside, moves⟩ := Option.ite_none_right_eq_some.mp taken
      obtain ⟨answers, moved, rfl⟩ := Option.map_eq_some_iff.mp moves
      obtain ⟨passed, _⟩ := Connection.between_unseen crc protobuf inside moved
      exact { coupled with
        answers := Connection.step_linked crc protobuf _ event _ trivial coupled.answers sound moved
        answered := passed.trans coupled.answered }

theorem step_grows (state : State) (event : Event) (next : State)
    (taken : step crc protobuf state event = some next) : Grows state next := by
  cases event with
  | side index event =>
      obtain ⟨after, acts, sent⟩ := Option.bind_eq_some_iff.mp taken
      have sends := send_inv crc protobuf state after index next sent
      obtain ⟨_, _, requestsPass⟩ := sends.requests
      obtain ⟨_, _, answersPass⟩ := sends.answers
      have passes : Grows after next :=
        ⟨Connection.pass_grows crc protobuf requestsPass,
          Connection.pass_grows crc protobuf answersPass⟩
      refine Grows.trans ?_ passes
      cases act_inv crc protobuf state event after acts with
      | takes callback cmsg requests server handling idle called returned =>
          exact ⟨Connection.call_grows crc protobuf called, Connection.Grows.refl _⟩
      | receives cmsg answers client called returned =>
          exact ⟨Connection.Grows.refl _, Connection.call_grows crc protobuf called⟩
      | alone event beyond stepped taken received =>
          exact ⟨Connection.Grows.refl _, Connection.Grows.refl _⟩
  | requests event =>
      obtain ⟨_, moves⟩ := Option.ite_none_right_eq_some.mp taken
      obtain ⟨requests, moved, rfl⟩ := Option.map_eq_some_iff.mp moves
      exact ⟨Connection.step_grows crc protobuf _ event _ moved, Connection.Grows.refl _⟩
  | answers event =>
      obtain ⟨_, moves⟩ := Option.ite_none_right_eq_some.mp taken
      obtain ⟨answers, moved, rfl⟩ := Option.map_eq_some_iff.mp moves
      exact ⟨Connection.Grows.refl _, Connection.step_grows crc protobuf _ event _ moved⟩

theorem step_matched (state : State) (event : Event) (next : State)
    (coupled : Coupled crc protobuf state) (inOrder : InOrder next)
    (taken : step crc protobuf state event = some next) :
    Matched (System.step protobuf) state.system next.system event.system := by
  cases event with
  | side index event =>
      obtain ⟨after, acts, sent⟩ := Option.bind_eq_some_iff.mp taken
      exact side_matched coupled (act_inv crc protobuf state event after acts)
        (send_inv crc protobuf state after index next sent) inOrder
  | requests event =>
      obtain ⟨⟨inside, _⟩, moves⟩ := Option.ite_none_right_eq_some.mp taken
      obtain ⟨requests, moved, rfl⟩ := Option.map_eq_some_iff.mp moves
      obtain ⟨_, delivered⟩ := Connection.between_unseen crc protobuf inside moved
      simp only [Matched, Event.system, State.system, delivered]
  | answers event =>
      obtain ⟨inside, moves⟩ := Option.ite_none_right_eq_some.mp taken
      obtain ⟨answers, moved, rfl⟩ := Option.map_eq_some_iff.mp moves
      obtain ⟨_, delivered⟩ := Connection.between_unseen crc protobuf inside moved
      simp only [Matched, Event.system, State.system, delivered]

/-! ## Runs -/

theorem coupled_inOrder {events : List Event} {final : State}
    (ran : run (step crc protobuf) connected events = some final)
    (sound : Guarded (step crc protobuf) (Sound protobuf) connected events)
    (clear : Clear crc protobuf final) :
    Throughout (step crc protobuf) (fun state => Coupled crc protobuf state ∧ InOrder state)
      connected events := by
  have coupled := throughout_of_guarded (fun _ => True) (step_coupled crc protobuf)
    (coupled_connected crc protobuf) (fun _ _ => trivial) sound
  rw [throughout_iff] at coupled ⊢
  intro past future reached split reaches
  have here := coupled past future reached split reaches
  have rest : run (step crc protobuf) reached future = some final := by
    rwa [split, run_append, reaches] at ran
  have grows := run_related Grows.refl Grows.trans (step_grows crc protobuf) rest
  exact ⟨here, here.requests.inOrder crc protobuf grows.requests clear.1,
    here.answers.inOrder crc protobuf grows.answers clear.2⟩

theorem system_run {events : List Event} {final : State}
    (throughout : Throughout (step crc protobuf)
      (fun state => Coupled crc protobuf state ∧ InOrder state) connected events)
    (ran : run (step crc protobuf) connected events = some final) :
    run (System.step protobuf) System.connected (events.filterMap Event.system) =
      some final.system := by
  have matched : ∀ state event next, Coupled crc protobuf state ∧ InOrder state →
      Coupled crc protobuf next ∧ InOrder next → step crc protobuf state event = some next →
      Matched (System.step protobuf) state.system next.system event.system := by
    intro state event next before after taken
    exact step_matched crc protobuf state event next before.1 after.2 taken
  exact run_matched matched throughout ran

/-- A run over the bytes is a run of `System`. -/
theorem refines_system (events : List Event) (final : State)
    (ran : run (step crc protobuf) connected events = some final)
    (sound : Guarded (step crc protobuf) (Sound protobuf) connected events)
    (clear : Clear crc protobuf final) :
    run (System.step protobuf) System.connected (events.filterMap Event.system) =
      some final.system :=
  system_run crc protobuf (coupled_inOrder crc protobuf ran sound clear) ran

end Refinement

/-! ## One request -/

section Request

def frame (s : List UInt8) : List UInt8 := CommonProcessor.prepareData Lib.Crc32.crc32 wire s

def message (s : List UInt8) : BaseProtocol.Message :=
  BaseProtocol.create (CommonProcessor.serializedContainer wire s)

/-- A caller that has passed the mutex writes, and the frame gets up to the scan of the
worker in one chunk. -/
def carry (s : List UInt8) : List Connection.Event :=
  [.sender .test, .sender .startWrite, .sender (.transfer 0 (frame s).length),
    .sender (.complete 0 none), .sender (.handlerWrite 0), .arrive (frame s).length,
    .receiver (.transfer 1), .receiver .handlerRead, .receiver .readNext,
    .receiver (.transfer ((frame s).length - 1)), .receiver .handlerRead, .receiver .readNext,
    .worker .lockAcceptor, .worker .pushChunk, .worker .advance, .worker .advance,
    .worker .advance, .worker .advance]

def carried (s : List UInt8) (control : CommonProcessor.Worker.Control)
    (delivered : List CommonMessage) (schedule : List CommonProcessor.Event) :
    Connection.State where
  sender := (⟨true, false, [], [], none, [], frame s⟩,
    ⟨[frame s], [frame s], [⟨(frame s).length, (frame s).length, none⟩]⟩)
  strings := ⟨[], [s]⟩
  receiver := (⟨[], [], .reading 1⟩, ⟨frame s, [frame s]⟩)
  worker := (⟨⟨[], false, true, BufferProcessor.empty, delivered⟩, control, .idle, .notCalled⟩,
    ⟨[frame s], [.registerCommonMessageIncomingCallback, .onReadedChunk (frame s)] ++ schedule,
      []⟩)

def request : List UInt8 := System.request wire 1

def result : List UInt8 := CServer.resultMessage wire 1 0

def asked : System.Client :=
  (System.connected.client.sendRequestCapabilities wire).recordCall 1

def requestArrives : List Event :=
  [.requests (.sender (.sendData request)), .side 0 .sendRequestCapabilities,
    .side 0 .recordCall] ++ (carry request).map .requests

/-- The server's callback returns, and its result is on the way back. -/
def resultArrives : List Event :=
  [.requests (.worker .advance), .side 0 (.take ⟨[], 0⟩), .answers (.sender (.sendData result)),
    .side 0 .finish] ++ (carry result).map .answers

/-- The client hears it, and both workers go back to sleep. -/
def resultHeard : List Event :=
  [.answers (.worker .advance), .side 0 .receive] ++
    List.replicate 4 (.requests (.worker .advance)) ++
    List.replicate 4 (.answers (.worker .advance))

def requestScan (control : CommonProcessor.Worker.Control)
    (schedule : List CommonProcessor.Event) : State where
  client := asked
  server := System.connected.server
  handling := none
  requests := carried request control [] schedule
  answers := Connection.connected

def resultScan (control : CommonProcessor.Worker.Control)
    (schedule : List CommonProcessor.Event) : State where
  client := asked
  server := System.connected.server.sendData result
  handling := none
  requests := carried request (.handing []) [⟨some 1, some request⟩] [.iterate]
  answers := carried result control [] schedule

def settled : State where
  client := asked.hear (.notification 1 0 none)
  server := System.connected.server.sendData result
  handling := none
  requests := carried request (.waiting false) [⟨some 1, some request⟩] [.iterate]
  answers := carried result (.waiting false) [⟨some 1, some result⟩] [.iterate]

theorem requestArrives_run : run (step Lib.Crc32.crc32 wire) connected requestArrives =
    some (requestScan (.unlocked [frame request]) []) := by
  decide +kernel

theorem request_scanned :
    step Lib.Crc32.crc32 wire (requestScan (.unlocked [frame request]) [])
        (.requests (.worker .advance)) =
      some (requestScan (.handing [message request]) [.iterate]) := by
  have scanned := Connection.scanned_of_drain Lib.Crc32.crc32 (frame request)
    [message request] (by decide +kernel)
  simp only [step, Connection.step, Connection.ofWorker, requestScan, carried,
    CommonProcessor.Worker.machine, CommonProcessor.Worker.step,
    CommonProcessor.Worker.State.advance, CommonProcessor.Worker.State.process, scanned]
  rfl

theorem resultArrives_run :
    run (step Lib.Crc32.crc32 wire) (requestScan (.handing [message request]) [.iterate])
        resultArrives =
      some (resultScan (.unlocked [frame result]) []) := by
  decide +kernel

theorem result_scanned :
    step Lib.Crc32.crc32 wire (resultScan (.unlocked [frame result]) [])
        (.answers (.worker .advance)) =
      some (resultScan (.handing [message result]) [.iterate]) := by
  have scanned := Connection.scanned_of_drain Lib.Crc32.crc32 (frame result)
    [message result] (by decide +kernel)
  simp only [step, Connection.step, Connection.ofWorker, resultScan, carried,
    CommonProcessor.Worker.machine, CommonProcessor.Worker.step,
    CommonProcessor.Worker.State.advance, CommonProcessor.Worker.State.process, scanned]
  rfl

theorem resultHeard_run :
    run (step Lib.Crc32.crc32 wire) (resultScan (.handing [message result]) [.iterate])
        resultHeard = some settled := by
  decide +kernel

def exchange : List Event :=
  requestArrives ++ .requests (.worker .advance) ::
    (resultArrives ++ .answers (.worker .advance) :: resultHeard)

theorem exchange_run : run (step Lib.Crc32.crc32 wire) connected exchange = some settled := by
  rw [exchange, run_append, requestArrives_run, Option.bind_some,
    run_cons _ _ _ _ _ request_scanned, run_append, resultArrives_run, Option.bind_some,
    run_cons _ _ _ _ _ result_scanned]
  exact resultHeard_run

theorem exchange_sound :
    Guarded (step Lib.Crc32.crc32 wire) (Sound wire) connected exchange := by
  refine guarded_append (by decide +kernel) requestArrives_run ?_
  intro next taken
  rw [request_scanned] at taken
  cases taken
  refine ⟨by decide, guarded_append (by decide +kernel) resultArrives_run ?_⟩
  intro next taken
  rw [result_scanned] at taken
  cases taken
  exact ⟨by decide, by decide +kernel⟩

theorem exchange_clear : Clear Lib.Crc32.crc32 wire settled := by decide +kernel

theorem refines_system_exchange :
    run (System.step wire) System.connected (exchange.filterMap Event.system) =
      some settled.system :=
  refines_system Lib.Crc32.crc32 wire exchange settled exchange_run exchange_sound exchange_clear

example : exchange.filterMap Event.system =
    [.sendRequestCapabilities, .recordCall, .take ⟨[], 0⟩, .finish, .receive] := rfl

end Request

end Emserver.EndToEnd
