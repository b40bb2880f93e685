import Emserver.Connection
import Emserver.Lib.Channel

/-!
# End-to-end delivery

In a run in which no read or write fails, writes start orderly and no scan meets a
decoy, the receiver's callback gets the strings of the callers in the order in
which they passed `m_sendSyncMutex`, each at most once; and all of them once no
part of the connection can move.
-/

set_option autoImplicit false

namespace Emserver.Connection

open Emserver.Protobuf
open Emserver.CommonProcessor
open Emserver.TcpSession
open Lib.Resync
open Lib.Runs

section Order
variable (crc : List UInt8 → UInt32) (protobuf : Codecs)

theorem Framed.sentBytes {sender : Sending.State × Sending.History}
    {strings : Callers (List UInt8)} (framed : Framed crc protobuf sender strings) :
    sentBytes crc protobuf strings.passed = sender.2.passed.flatten := by
  have passed := congrArg Callers.passed framed.frames
  rw [CommonProcessor.sentBytes, List.flatMap_def]
  exact congrArg List.flatten passed.symm

section Links
variable {crc protobuf}
variable {state : State} (linked : Linked crc protobuf state)
include linked

/-- What is on the wire is what the callers passed, but for the end. -/
theorem Linked.wire_prefix :
    state.sender.1.wire <+: sentBytes crc protobuf state.strings.passed := by
  have wire := linked.serialized.wire linked.noneFailed
  rw [linked.framed.sentBytes, linked.serialized.passed, List.flatten_append, ← wire,
    List.append_assoc]
  exact List.prefix_append _ _

theorem Linked.chunks_prefix : state.receiver.2.chunks.flatten <+: state.receiver.2.arrived := by
  rw [← linked.conserved.order, List.append_assoc]
  exact List.prefix_append _ _

theorem Linked.received_prefix :
    received state.worker.2.schedule <+: state.receiver.2.chunks.flatten := by
  have accepted := linked.working.linearized.accepted
  rw [linked.working.handed] at accepted
  rw [Worker.received_eq, ← accepted, List.flatten_append, List.flatten_append, List.append_assoc]
  exact List.prefix_append _ _

theorem Linked.scheduled_prefix :
    received state.worker.2.schedule <+: sentBytes crc protobuf state.strings.passed :=
  linked.received_prefix.trans
    (linked.chunks_prefix.trans (linked.arrived.trans linked.wire_prefix))

/-- The schedule noted of the worker delivers, and the worker is where it leads. -/
theorem Linked.progress
    (noDecoys : NoDecoys crc protobuf state.strings.passed state.worker.2.schedule) :
    state.worker.1.control.NoFault ∧ ∃ processed,
      CommonProcessor.received state.worker.2.schedule =
          processed ++ (state.worker.1.control.queue state.worker.1.acceptorBuffer).flatten ∧
        state.worker.1.delivered ++ state.worker.1.control.inHand protobuf =
          (cut (BaseProtocol.Message.makeProtocolMessage crc)
            (sentMessages protobuf state.strings.passed) processed.length).1.filterMap
              (unpack protobuf) := by
  have registered : RegisteredFirst state.worker.2.schedule := by
    obtain ⟨rest, split⟩ := linked.working.registered
    rw [← split]
    exact registeredFirst_cons rest
  obtain ⟨coarse, ran, delivering⟩ := delivering_run state.strings.passed
    state.worker.2.schedule
    (fun s member => linked.framed.small s (List.mem_append_right _ member))
    linked.scheduled_prefix registered noDecoys
  have alive : state.worker.1.control.NoFault := by
    intro fault control
    have failed := linked.working.linearized.faulted fault control
    rw [ran] at failed
    contradiction
  obtain ⟨dropped, same, gone⟩ := linked.working.linearized.running alive
  have nothing : dropped = [] := by
    refine gone.resolve_right fun ⟨exiting, _⟩ => ?_
    exact absurd (exiting.symm.trans linked.working.running) (by decide)
  rw [nothing, List.append_nil, ran] at same
  cases same
  obtain ⟨processed, split, _, delivered⟩ := delivering.progress
  exact ⟨alive, processed, split, delivered⟩

theorem Linked.delivered_prefix
    (noDecoys : NoDecoys crc protobuf state.strings.passed state.worker.2.schedule) :
    state.worker.1.delivered <+: expected state.strings.passed := by
  obtain ⟨_, processed, _, delivered⟩ := linked.progress noDecoys
  have handed : state.worker.1.delivered <+:
      state.worker.1.delivered ++ state.worker.1.control.inHand protobuf :=
    List.prefix_append _ _
  refine handed.trans ?_
  rw [delivered, ← filterMap_sentMessages protobuf]
  exact (cut_initial _ _ _).filterMap _

end Links

/-! ## At rest -/

/-- The steps that move a string on; the waits that end by themselves only to be
entered again are not among them. -/
def moves : List Event :=
  [.sender .test, .sender .enterWait, .sender (.wake .timedOut), .sender .startWrite,
    .sender (.transfer 0 1), .sender (.complete 0 none), .sender (.handlerWrite 0), .arrive 1,
    .receiver (.transfer 1), .receiver .handlerRead, .receiver .readNext,
    .worker .lockAcceptor, .worker .pushChunk, .worker .advance, .worker (.wake .notified)]

def AtRest (state : State) : Prop := ∀ event ∈ moves, step crc protobuf state event = none

instance atRestDecidable (state : State) : Decidable (AtRest crc protobuf state) := by
  unfold AtRest
  infer_instance

section Rest
variable {crc protobuf}
variable {state : State} (rest : AtRest crc protobuf state)
include rest

theorem AtRest.sender (event : Sending.Event) (member : Event.sender event ∈ moves) :
    Sending.step crc protobuf state.sender.1 event = none := by
  have stuck := rest _ member
  simpa [step, Sending.machine, observed] using stuck

/-- No caller is on its way to its write. -/
theorem AtRest.holder : state.sender.1.holder = none := by
  cases holder : state.sender.1.holder with
  | none => rfl
  | some caller =>
      exfalso
      obtain ⟨phase, chunk⟩ := caller
      cases phase with
      | testing =>
          have stuck := rest.sender .test (by decide)
          simp [Sending.step, Sending.State.test, holder] at stuck
      | entering =>
          have stuck := rest.sender .enterWait (by decide)
          simp [Sending.step, Sending.State.enterWait, holder] at stuck
      | waiting notified =>
          have stuck := rest.sender (.wake .timedOut) (by decide)
          simp [Sending.step, Sending.State.wake, holder] at stuck
      | leaving =>
          have stuck := rest.sender .startWrite (by decide)
          simp [Sending.step, holder] at stuck

theorem AtRest.writes (linked : Linked crc protobuf state) : state.sender.1.writes = [] := by
  rcases linked.serialized.channel with idle | ⟨write, busy⟩ | ⟨write, busy⟩
  · exact idle.writes
  · exfalso
    have stuck := rest.sender (.complete 0 none) (by decide)
    simp [Sending.step, busy.writes, busy.stage] at stuck
  · exfalso
    have stuck := rest.sender (.handlerWrite 0) (by decide)
    obtain ⟨content, transferred, stage⟩ := write
    cases stage with
    | inProgress => exact busy.stage rfl
    | completed code => simp [Sending.step, busy.writes] at stuck

theorem AtRest.arrived (linked : Linked crc protobuf state) :
    state.receiver.2.arrived = state.sender.1.wire := by
  have stuck := rest (.arrive 1) (by decide)
  have nothing : state.inTransit = [] := by
    by_contra some
    have there := List.length_pos_of_ne_nil some
    simp [step, State.receive, Receiving.step, handOver, Nat.succ_le_of_lt there] at stuck
  have ended : state.sender.1.wire.length ≤ state.receiver.2.arrived.length :=
    List.drop_eq_nil_iff.mp nothing
  exact linked.arrived.eq_of_length_le ended

theorem AtRest.worker (event : Worker.Event) (member : Event.worker event ∈ moves)
    (own : ofWorker event = true) :
    Worker.step crc protobuf state.worker.1 event = none := by
  have stuck := rest _ member
  simpa [step, Worker.machine, own] using stuck

/-- The worker sleeps behind an empty queue, and the io thread is outside. -/
theorem AtRest.asleep (linked : Linked crc protobuf state)
    (alive : state.worker.1.control.NoFault) :
    state.worker.1.control = .waiting false ∧ state.worker.1.acceptor = .idle := by
  have awake := linked.working.awake
  have running := linked.working.running
  have unpushed := rest.worker .pushChunk (by decide) rfl
  have sleeps : state.worker.1.control = .waiting false := by
    by_contra other
    have moving := Worker.canMove crc protobuf state.worker.1 .notified
      (fun notified waiting _ => by
        by_contra silent
        rw [Bool.not_eq_true] at silent
        exact other (waiting.trans (by rw [silent])))
      alive
      (fun exited => absurd ((awake.exited exited).symm.trans running) (by decide))
    rcases moving with advances | pushes | wakes
    · rw [rest.worker .advance (by decide) rfl] at advances
      contradiction
    · rw [unpushed] at pushes
      contradiction
    · rw [rest.worker (.wake .notified) (by decide) rfl] at wakes
      contradiction
  refine ⟨sleeps, ?_⟩
  cases acceptor : state.worker.1.acceptor with
  | idle => rfl
  | locking chunk =>
      have unlocked := rest.worker .lockAcceptor (by decide) rfl
      have free : state.worker.1.MutexFree := by
        rw [Worker.State.MutexFree, sleeps, acceptor]
        exact ⟨id, id⟩
      simp [Worker.step, Worker.State.lockAcceptor, acceptor, free] at unlocked
  | holding chunk => simp [Worker.step, Worker.State.pushChunk, acceptor] at unpushed

theorem AtRest.drained (linked : Linked crc protobuf state)
    (idle : state.worker.1.acceptor = .idle) :
    state.receiver.1.buffer = [] ∧ state.receiver.1.unread = [] := by
  have conserved := linked.conserved
  cases phase : state.receiver.1.phase with
  | idle => exact absurd phase conserved.busy
  | completed code =>
      have stuck := rest (.receiver .handlerRead) (by decide)
      obtain ⟨rfl, _⟩ := conserved.completed phase
      simp [step, ofReceiver, idle, State.receive, Receiving.step, phase,
        Receiving.State.handlerRead, handOver] at stuck
  | running avaliableBytes =>
      have stuck := rest (.receiver .readNext) (by decide)
      by_cases nothing : avaliableBytes = 0 <;>
        simp [step, ofReceiver, idle, State.receive, Receiving.step, phase,
          Receiving.State.readNext, nothing, handOver, Worker.machine, Worker.step,
          Worker.State.onReadedChunk] at stuck
  | reading remaining =>
      have stuck := rest (.receiver (.transfer 1)) (by decide)
      have blocked : ¬ (1 ≤ remaining ∧ 1 ≤ state.receiver.1.unread.length) := by
        rintro ⟨wanted, there⟩
        simp [step, ofReceiver, idle, State.receive, Receiving.step, phase, wanted, there,
          handOver] at stuck
      rcases conserved.reading phase with ⟨empty, one⟩ | ⟨positive, there⟩
      · refine ⟨empty, List.eq_nil_of_length_eq_zero ?_⟩
        omega
      · exact absurd ⟨positive, by omega⟩ blocked

/-- At rest the schedule has received every byte of every string. -/
theorem AtRest.everything (linked : Linked crc protobuf state)
    (alive : state.worker.1.control.NoFault) :
    CommonProcessor.received state.worker.2.schedule =
      sentBytes crc protobuf state.strings.passed := by
  obtain ⟨sleeps, idle⟩ := rest.asleep linked alive
  obtain ⟨buffer, unread⟩ := rest.drained linked idle
  have accepted := linked.working.linearized.accepted
  rw [linked.working.linearized.pending, sleeps, idle, linked.working.handed] at accepted
  have chunks := linked.conserved.order
  rw [buffer, unread, rest.arrived linked] at chunks
  have wire := linked.serialized.wire linked.noneFailed
  have passed := linked.serialized.passed
  rw [rest.holder] at passed
  calc CommonProcessor.received state.worker.2.schedule
      = state.receiver.2.chunks.flatten := by
        rw [Worker.received_eq, ← accepted]
        simp [Worker.Control.pending, Worker.Acceptor.inside]
    _ = state.sender.1.wire := by
        rw [← chunks]
        simp
    _ = state.sender.2.started.flatten := by
        rw [← wire, Sending.unsent, rest.writes linked]
        simp
    _ = sentBytes crc protobuf state.strings.passed := by
        rw [linked.framed.sentBytes, passed]
        simp

theorem AtRest.delivered (linked : Linked crc protobuf state)
    (noDecoys : NoDecoys crc protobuf state.strings.passed state.worker.2.schedule) :
    state.worker.1.delivered = expected state.strings.passed := by
  obtain ⟨alive, processed, split, delivered⟩ := linked.progress noDecoys
  obtain ⟨sleeps, idle⟩ := rest.asleep linked alive
  have nothing := linked.working.awake.asleep sleeps
  have everything := rest.everything linked alive
  rw [sleeps, nothing] at split
  rw [sleeps] at delivered
  have all : processed = sentBytes crc protobuf state.strings.passed := by
    rw [← everything, split]
    simp [Worker.Control.queue]
  have whole := cut_all (BaseProtocol.Message.makeProtocolMessage crc)
    (sentMessages protobuf state.strings.passed) processed.length
    (by rw [all, sentBytes_eq])
  rw [whole, filterMap_sentMessages] at delivered
  simpa [Worker.Control.inHand] using delivered

end Rest

/-- The callback gets the strings in order and each once, and all of them once nothing
moves any more. -/
theorem delivered_in_order (events : List Event) (state : State)
    (ran : run (step crc protobuf) connected events = some state)
    (sound : Guarded (step crc protobuf) (Sound protobuf) connected events)
    (noDecoys : NoDecoys crc protobuf state.strings.passed state.worker.2.schedule) :
    state.worker.1.delivered <+: expected state.strings.passed ∧
      (AtRest crc protobuf state →
        state.worker.1.delivered = expected state.strings.passed) := by
  have linked := (throughout_of_guarded (fun _ => True) (step_linked crc protobuf)
    (linked_connected crc protobuf) (fun _ _ => trivial) sound).final ran
  exact ⟨linked.delivered_prefix noDecoys, fun rest => rest.delivered linked noDecoys⟩

/-! ## As a channel -/

def passed (state : State) : List CommonMessage := expected state.strings.passed

def delivered (state : State) : List CommonMessage := state.worker.1.delivered

/-- What a run only adds to. -/
structure Grows (before after : State) : Prop where
  passed : before.strings.passed <+: after.strings.passed
  schedule : before.worker.2.schedule <+: after.worker.2.schedule
  delivered : before.worker.1.delivered <+: after.worker.1.delivered

theorem Grows.refl (state : State) : Grows state state :=
  ⟨List.prefix_rfl, List.prefix_rfl, List.prefix_rfl⟩

theorem Grows.trans {first second third : State} (early : Grows first second)
    (late : Grows second third) : Grows first third :=
  ⟨early.passed.trans late.passed, early.schedule.trans late.schedule,
    early.delivered.trans late.delivered⟩

theorem stepped_delivered {state next : Worker.State} {event : Worker.Event}
    (taken : Worker.Stepped crc protobuf state event next) :
    state.delivered <+: next.delivered := by
  cases taken with
  | advances _ advanced =>
      cases advanced with
      | calls cmsg messages control => exact List.prefix_append _ _
      | _ => exact List.prefix_rfl
  | _ => exact List.prefix_rfl

theorem machine_grows {worker next : Worker.State × Worker.History} {event : Worker.Event}
    (taken : Worker.machine crc protobuf worker event = some next) :
    worker.2.schedule <+: next.2.schedule ∧ worker.1.delivered <+: next.1.delivered := by
  obtain ⟨after, stepped, rfl⟩ := Option.map_eq_some_iff.mp taken
  exact ⟨(Worker.note_grows worker.1 event worker.2).2,
    stepped_delivered crc protobuf (Worker.step_inv crc protobuf worker.1 event after stepped)⟩

theorem handOver_grows (worker next : Worker.State × Worker.History)
    (effects : List Receiving.Effect) (taken : handOver crc protobuf worker effects = some next) :
    worker.2.schedule <+: next.2.schedule ∧ worker.1.delivered <+: next.1.delivered := by
  induction effects generalizing worker with
  | nil =>
      cases taken
      exact ⟨List.prefix_rfl, List.prefix_rfl⟩
  | cons effect rest ih =>
      cases effect with
      | onReadedChunk chunk =>
          obtain ⟨after, accepted, later⟩ := Option.bind_eq_some_iff.mp taken
          obtain ⟨schedule, delivered⟩ := machine_grows crc protobuf accepted
          obtain ⟨moreSchedule, moreDelivered⟩ := ih after later
          exact ⟨schedule.trans moreSchedule, delivered.trans moreDelivered⟩
      | onSessionError code => exact ih worker taken

theorem receive_grows {state next : State} {event : Receiving.Event}
    (taken : state.receive crc protobuf event = some next) : Grows state next := by
  obtain ⟨⟨receiver, effects⟩, _, later⟩ := Option.bind_eq_some_iff.mp taken
  obtain ⟨worker, handed, rfl⟩ := Option.map_eq_some_iff.mp later
  obtain ⟨schedule, delivered⟩ := handOver_grows crc protobuf state.worker worker effects handed
  exact ⟨List.prefix_rfl, schedule, delivered⟩

theorem note_passed (strings : Callers (List UInt8)) (isOpen : Bool) (event : Sending.Event) :
    strings.passed <+: (strings.note isOpen id event).passed := by
  cases event with
  | sendData s => cases isOpen <;> exact List.prefix_rfl
  | acquire index => exact List.prefix_append _ _
  | _ => exact List.prefix_rfl

theorem step_grows (state : State) (event : Event) (next : State)
    (taken : step crc protobuf state event = some next) : Grows state next := by
  cases event with
  | sender event =>
      obtain ⟨sender, _, rfl⟩ := Option.map_eq_some_iff.mp taken
      exact ⟨note_passed state.strings _ event, List.prefix_rfl, List.prefix_rfl⟩
  | arrive count =>
      obtain ⟨_, received⟩ := Option.ite_none_right_eq_some.mp taken
      exact receive_grows crc protobuf received
  | receiver event =>
      obtain ⟨_, received⟩ := Option.ite_none_right_eq_some.mp taken
      exact receive_grows crc protobuf received
  | worker event =>
      obtain ⟨_, worked⟩ := Option.ite_none_right_eq_some.mp taken
      obtain ⟨worker, moved, rfl⟩ := Option.map_eq_some_iff.mp worked
      obtain ⟨schedule, delivered⟩ := machine_grows crc protobuf moved
      exact ⟨List.prefix_rfl, schedule, delivered⟩

theorem logs : Lib.Channel.Logs (step crc protobuf) (Linked crc protobuf) passed delivered where
  sent state event next _ taken := (step_grows crc protobuf state event next taken).passed.map _
  got state event next _ taken := (step_grows crc protobuf state event next taken).delivered

/-- No decoy later, none before. -/
theorem NoDecoys.earlier {strings more : List (List UInt8)}
    {events later : List CommonProcessor.Event}
    (noDecoys : NoDecoys crc protobuf (strings ++ more) (events ++ later))
    (arrived : received events <+: sentBytes crc protobuf strings) :
    NoDecoys crc protobuf strings events := by
  intro past future split
  have here := noDecoys past (future ++ later) (by rw [split, List.append_assoc]; rfl)
  have inside : (received past).length ≤
      ((sentMessages protobuf strings).flatMap
        (BaseProtocol.Message.makeProtocolMessage crc)).length := by
    rw [← sentBytes_eq]
    refine (List.IsPrefix.length_le ?_).trans arrived.length_le
    rw [split, received_append]
    exact List.prefix_append _ _
  rw [incompleteFrame, sentMessages, List.map_append] at here
  rw [incompleteFrame, ← cut_part_append _ _ _ _ inside]
  exact here

/-- To the callers of `sendData` and the callback of the receiver, the connection is
a channel. -/
theorem refines_channel (events : List Event) (state : State)
    (ran : run (step crc protobuf) connected events = some state)
    (sound : Guarded (step crc protobuf) (Sound protobuf) connected events)
    (noDecoys : NoDecoys crc protobuf state.strings.passed state.worker.2.schedule) :
    run Lib.Channel.step ⟨[], 0⟩
        (Lib.Channel.trace (step crc protobuf) passed delivered connected events) =
      some ⟨passed state, (delivered state).length⟩ := by
  have linked := throughout_of_guarded (fun _ => True) (step_linked crc protobuf)
    (linked_connected crc protobuf) (fun _ _ => trivial) sound
  have inOrder : Throughout (step crc protobuf)
      (fun state => Linked crc protobuf state ∧ delivered state <+: passed state)
      connected events := by
    rw [throughout_iff] at linked ⊢
    intro past future reached split reaches
    have here := linked past future reached split reaches
    have rest : run (step crc protobuf) reached future = some state := by
      rwa [split, Lib.Runs.run_append, reaches] at ran
    have grows := run_related Grows.refl Grows.trans (step_grows crc protobuf) rest
    obtain ⟨more, strings⟩ := grows.passed
    obtain ⟨later, schedule⟩ := grows.schedule
    rw [← strings, ← schedule] at noDecoys
    exact ⟨here,
      here.delivered_prefix (NoDecoys.earlier crc protobuf noDecoys here.scheduled_prefix)⟩
  exact Lib.Channel.run_trace (logs crc protobuf) connected state events inOrder ran

end Order

/-! ## One string -/

/-- A chunk of whole frames leaves nothing in the buffer. -/
theorem scanned_of_drain (crc : List UInt8 → UInt32) (chunk : List UInt8)
    (messages : List BaseProtocol.Message)
    (drained : drain (BufferProcessor.decodeFrame crc) BaseProtocol.Message.fullSize chunk =
      .ok (messages, [])) :
    (BufferProcessor.empty.appendBuffers [chunk]).messages crc =
      .ok (messages, BufferProcessor.empty) := by
  rw [BufferProcessor.appendBuffers_eq, BufferProcessor.messages_ok_iff]
  simpa [BufferProcessor.empty] using drained

section Letter

def letterFrame : List UInt8 := prepareData Lib.Crc32.crc32 wire [0x61]

/-- The frame arrives in two portions, and the worker gets up to the scan. -/
def letterArrives : List Event :=
  [.sender (.sendData [0x61]), .sender (.acquire 0), .sender .test, .sender .startWrite,
    .sender (.transfer 0 18), .arrive 5, .receiver (.transfer 1), .receiver .handlerRead,
    .receiver .readNext, .sender (.complete 0 none), .sender (.handlerWrite 0), .arrive 13,
    .receiver (.transfer 4), .receiver .handlerRead, .receiver .readNext,
    .receiver (.transfer 13), .receiver .handlerRead, .receiver .readNext,
    .worker .lockAcceptor, .worker .pushChunk, .worker .advance, .worker .advance,
    .worker .advance, .worker .advance]

def letterHanded : List Event := List.replicate 6 (.worker .advance)

def letterState (control : Worker.Control) (delivered : List CommonMessage)
    (schedule : List CommonProcessor.Event) : State where
  sender := (⟨true, false, [], [], none, [], letterFrame⟩,
    ⟨[letterFrame], [letterFrame], [⟨18, 18, none⟩]⟩)
  strings := ⟨[], [[0x61]]⟩
  receiver := (⟨[], [], .reading 1⟩, ⟨letterFrame, [letterFrame]⟩)
  worker := (⟨⟨[], false, true, BufferProcessor.empty, delivered⟩, control, .idle, .notCalled⟩,
    ⟨[letterFrame],
      [.registerCommonMessageIncomingCallback, .onReadedChunk letterFrame] ++ schedule, []⟩)

def letterMessage : BaseProtocol.Message :=
  BaseProtocol.create (serializedContainer wire [0x61])

theorem letter_scanned :
    step Lib.Crc32.crc32 wire (letterState (.unlocked [letterFrame]) [] []) (.worker .advance) =
      some (letterState (.handing [letterMessage]) [] [.iterate]) := by
  have scanned := scanned_of_drain Lib.Crc32.crc32 letterFrame [letterMessage] (by decide +kernel)
  simp only [step, ofWorker, letterState, Worker.machine, Worker.step, Worker.State.advance,
    Worker.State.process, scanned]
  rfl

def letterEvents : List Event := letterArrives ++ .worker .advance :: letterHanded

def letterFinal : State := letterState (.waiting false) [⟨some 1, some [0x61]⟩] [.iterate]

theorem letterArrives_run : run (step Lib.Crc32.crc32 wire) connected letterArrives =
    some (letterState (.unlocked [letterFrame]) [] []) := by decide +kernel

theorem letterEvents_run :
    run (step Lib.Crc32.crc32 wire) connected letterEvents = some letterFinal := by
  have after : run (step Lib.Crc32.crc32 wire)
      (letterState (.handing [letterMessage]) [] [.iterate]) letterHanded =
        some letterFinal := by
    decide +kernel
  rw [letterEvents, Lib.Runs.run_append, letterArrives_run]
  exact (run_cons _ _ _ _ _ letter_scanned).trans after

theorem letterEvents_sound :
    Guarded (step Lib.Crc32.crc32 wire) (Sound wire) connected letterEvents := by
  refine guarded_append (by decide +kernel) letterArrives_run fun next taken => ?_
  rw [letter_scanned] at taken
  cases taken
  exact ⟨by decide, by decide +kernel⟩

theorem letterEvents_clear : NoDecoys Lib.Crc32.crc32 wire letterFinal.strings.passed
    letterFinal.worker.2.schedule := by decide +kernel

theorem letterEvents_delivered :
    letterFinal.worker.1.delivered <+: expected letterFinal.strings.passed ∧
      (AtRest Lib.Crc32.crc32 wire letterFinal →
        letterFinal.worker.1.delivered = expected letterFinal.strings.passed) :=
  delivered_in_order Lib.Crc32.crc32 wire letterEvents letterFinal letterEvents_run
    letterEvents_sound letterEvents_clear

theorem letterEvents_channel :
    run Lib.Channel.step ⟨[], 0⟩
        (Lib.Channel.trace (step Lib.Crc32.crc32 wire) passed delivered connected
          letterEvents) =
      some ⟨passed letterFinal, (delivered letterFinal).length⟩ :=
  refines_channel Lib.Crc32.crc32 wire letterEvents letterFinal letterEvents_run
    letterEvents_sound letterEvents_clear

end Letter

end Emserver.Connection
