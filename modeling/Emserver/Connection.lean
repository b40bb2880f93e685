import Mathlib.Data.List.InsertIdx
import Emserver.CommonProcessor.Delivery
import Emserver.CommonProcessor.Linearization
import Emserver.CommonProcessor.Shutdown
import Emserver.TcpSession.Receiving
import Emserver.TcpSession.Serialization

/-!
# One direction of a connection

The `TcpSession` that sends, the bytes between the two sockets, the `TcpSession`
that receives, and the worker of its `CommonProcessor`
(`common/src/tcpsession.cpp`, `common/src/commonprocessor.cpp`).  The sockets
carry a stream of bytes: what is on the wire arrives in order, in any portions.

The io thread of the receiver is one thread: while it is inside `onReadedChunk`
neither the transfer nor the next handler of its session runs.
-/

set_option autoImplicit false

namespace Emserver.Connection

open Emserver.Protobuf
open Emserver.CommonProcessor
open Emserver.TcpSession
open Lib.Runs

/-- What the callers of `sendData` brought: those that wait for `m_sendSyncMutex`, and
those that passed it. -/
structure Callers (α : Type) where
  blocked : List α
  passed : List α
  deriving DecidableEq

def Callers.note {α : Type} (callers : Callers α) (isOpen : Bool) (brought : List UInt8 → α)
    (event : Sending.Event) : Callers α :=
  match event with
  | .sendData s =>
      if isOpen then { callers with blocked := callers.blocked ++ [brought s] } else callers
  | .acquire index =>
      ⟨callers.blocked.eraseIdx index, callers.passed ++ callers.blocked[index]?.toList⟩
  | _ => callers

def Callers.map {α β : Type} (f : α → β) (callers : Callers α) : Callers β :=
  ⟨callers.blocked.map f, callers.passed.map f⟩

theorem note_map {α β : Type} (callers : Callers α) (isOpen : Bool)
    (brought : List UInt8 → α) (f : α → β) (event : Sending.Event) :
    (callers.map f).note isOpen (fun s => f (brought s)) event =
      (callers.note isOpen brought event).map f := by
  cases event with
  | sendData s => cases isOpen <;> simp [Callers.note, Callers.map]
  | acquire index =>
      cases found : callers.blocked[index]? <;>
        simp [Callers.note, Callers.map, List.eraseIdx_map, found]
  | _ => rfl

/-- The frames of the callers in `Sending`. -/
def frames (sender : Sending.State × Sending.History) : Callers (List UInt8) :=
  ⟨sender.1.blocked, sender.2.passed⟩

structure State where
  sender : Sending.State × Sending.History
  strings : Callers (List UInt8)
  receiver : Receiving.State × Receiving.History
  worker : Worker.State × Worker.History
  deriving DecidableEq

inductive Event where
  | sender (event : Sending.Event)
  | arrive (count : Nat)
  | receiver (event : Receiving.Event)
  | worker (event : Worker.Event)
  deriving DecidableEq

/-- `registerReadCallback` and `waitReading` of a session that has just connected. -/
def connected : State where
  sender := Sending.start
  strings := ⟨[], []⟩
  receiver := Receiving.start []
  worker := ({ Worker.constructed with readCallback := true },
    ⟨[], [.registerCommonMessageIncomingCallback], []⟩)

/-- The bytes on the wire that have not arrived. -/
def State.inTransit (state : State) : List UInt8 :=
  state.sender.1.wire.drop state.receiver.2.arrived.length

/-- Bytes arrive from the wire only. -/
def ofReceiver : Receiving.Event → Bool
  | .arrive _ => false
  | _ => true

theorem bytes_of_receiver {event : Receiving.Event} (own : ofReceiver event = true) :
    event.bytes = [] := by
  cases event with
  | arrive bytes => contradiction
  | _ => rfl

/-- Chunks come from the receiver only. -/
def ofWorker : Worker.Event → Bool
  | .onReadedChunk _ => false
  | _ => true

theorem chunks_of_worker {event : Worker.Event} (own : ofWorker event = true) :
    event.chunks = [] := by
  cases event with
  | onReadedChunk chunk => contradiction
  | _ => rfl

section Step
variable (crc : List UInt8 → UInt32) (protobuf : Codecs)

/-- What `handlerRead` passes on: a chunk goes to the processor of the session, an
error to whoever registered for it. -/
def handOver (worker : Worker.State × Worker.History) :
    List Receiving.Effect → Option (Worker.State × Worker.History)
  | [] => some worker
  | .onReadedChunk chunk :: rest =>
      (Worker.machine crc protobuf worker (.onReadedChunk chunk)).bind fun next =>
        handOver next rest
  | .onSessionError _ :: rest => handOver worker rest

def State.receive (state : State) (event : Receiving.Event) : Option State :=
  (Receiving.step state.receiver.1 event).bind fun (next, effects) =>
    (handOver crc protobuf state.worker effects).map fun worker =>
      { state with
        receiver := (next, Receiving.note state.receiver.1 event effects state.receiver.2)
        worker := worker }

def step (state : State) : Event → Option State
  | .sender event =>
      (Sending.machine crc protobuf state.sender event).map fun sender =>
        { state with
          sender := sender
          strings := state.strings.note state.sender.1.isOpen id event }
  | .arrive count =>
      if 0 < count ∧ count ≤ state.inTransit.length then
        state.receive crc protobuf (.arrive (state.inTransit.take count))
      else none
  | .receiver event =>
      if ofReceiver event ∧ state.worker.1.acceptor = .idle then state.receive crc protobuf event
      else none
  | .worker event =>
      if ofWorker event then
        (Worker.machine crc protobuf state.worker event).map fun worker =>
          { state with worker := worker }
      else none

end Step

/-! ## Runs without a failure -/

section Sound
variable (crc : List UInt8 → UInt32) (protobuf : Codecs)

/-- The frame is within the length its header can carry, the write starts orderly, and
the operation transfers everything. -/
def SenderSound (pair : Sending.State × Sending.History) : Sending.Event → Prop
  | .sendData s => (serializedContainer protobuf s).length < 2147483648
  | .startWrite => Sending.Orderly pair .startWrite
  | .complete index code =>
      code = none ∧ ∀ write ∈ pair.1.writes[index]?, write.transferred = write.content.length
  | _ => True

instance (pair : Sending.State × Sending.History) (event : Sending.Event) :
    Decidable (SenderSound protobuf pair event) := by
  cases event <;> unfold SenderSound <;> infer_instance

/-- No read fails, and neither of the two ends goes away. -/
def Sound (state : State) : Event → Prop
  | .sender event => SenderSound protobuf state.sender event
  | .arrive _ => True
  | .receiver (.fail _) => False
  | .receiver _ => True
  | .worker event => event ≠ .setNeedExit

instance (state : State) (event : Event) : Decidable (Sound protobuf state event) := by
  cases event with
  | sender event => exact inferInstanceAs (Decidable (SenderSound protobuf _ event))
  | arrive count => exact .isTrue trivial
  | receiver event => cases event <;> unfold Sound <;> infer_instance
  | worker event => exact inferInstanceAs (Decidable (event ≠ .setNeedExit))

/-! ## The invariant -/

/-- The frames of the sender are those of its strings. -/
structure Framed (sender : Sending.State × Sending.History) (strings : Callers (List UInt8)) :
    Prop where
  frames : frames sender = strings.map (prepareData crc protobuf)
  small : ∀ s ∈ strings.blocked ++ strings.passed,
    (serializedContainer protobuf s).length < 2147483648

/-- The worker's part of the invariant, with the chunks it was handed. -/
structure Working (chunks : List (List UInt8)) (worker : Worker.State × Worker.History) :
    Prop where
  handed : worker.2.accepted = chunks
  linearized : Worker.Linearized crc protobuf worker.1 worker.2
  registered : [.registerCommonMessageIncomingCallback] <+: worker.2.schedule
  awake : Worker.Awake worker.1
  running : worker.1.needExit = false

/-- Each part keeps its own invariant, and what a part has got is a prefix of what the
one before it has given. -/
structure Linked (state : State) : Prop where
  framed : Framed crc protobuf state.sender state.strings
  serialized : Sending.Serialized state.sender.1 state.sender.2
  noneFailed : Sending.NoWriteFailed state.sender.2
  arrived : state.receiver.2.arrived <+: state.sender.1.wire
  conserved : Receiving.Conserved state.receiver.1 state.receiver.2
  working : Working crc protobuf state.receiver.2.chunks state.worker

theorem linked_connected : Linked crc protobuf connected where
  framed := ⟨rfl, nofun⟩
  serialized := Sending.start_serialized
  noneFailed := nofun
  arrived := List.prefix_rfl
  conserved := Receiving.start_conserved []
  working := ⟨rfl, (Worker.linearized_start crc protobuf).registered, List.prefix_rfl,
    ⟨False.elim, nofun, nofun⟩, rfl⟩

/-! ## The sender -/

/-- What a step of the sender changes besides its invariant. -/
structure SenderStep (before after : Sending.State × Sending.History) (event : Sending.Event) :
    Prop where
  frames : frames after =
    (frames before).note before.1.isOpen (prepareData crc protobuf) event
  wire : before.1.wire <+: after.1.wire

theorem sender_step (before after : Sending.State × Sending.History) (event : Sending.Event)
    (taken : Sending.machine crc protobuf before event = some after) :
    SenderStep crc protobuf before after event := by
  obtain ⟨next, effects, stepped, rfl⟩ := observed_some taken
  cases event with
  | sendData s =>
      cases stepped
      cases isOpen : before.1.isOpen with
      | true =>
          constructor <;> simp [Sending.State.sendData, isOpen, frames, Callers.note, Sending.note]
      | false =>
          constructor <;> simp [Sending.State.sendData, isOpen, frames, Callers.note, Sending.note]
  | acquire index =>
      obtain ⟨_, acquired, same⟩ := Option.map_eq_some_iff.mp stepped
      cases same
      unfold Sending.State.acquire at acquired
      split at acquired
      case h_2 => contradiction
      case h_1 =>
        cases acquired
        exact ⟨rfl, List.prefix_rfl⟩
  | test =>
      obtain ⟨_, tested, same⟩ := Option.map_eq_some_iff.mp stepped
      cases same
      unfold Sending.State.test at tested
      split at tested
      case h_2 => contradiction
      case h_1 =>
        cases tested
        exact ⟨rfl, List.prefix_rfl⟩
  | enterWait =>
      obtain ⟨_, entered, same⟩ := Option.map_eq_some_iff.mp stepped
      cases same
      unfold Sending.State.enterWait at entered
      split at entered
      case h_2 => contradiction
      case h_1 =>
        cases entered
        exact ⟨rfl, List.prefix_rfl⟩
  | wake cause =>
      obtain ⟨_, woken, same⟩ := Option.map_eq_some_iff.mp stepped
      cases same
      unfold Sending.State.wake at woken
      split at woken
      case h_2 => contradiction
      case h_1 =>
        split at woken
        case isTrue => contradiction
        case isFalse =>
          cases woken
          exact ⟨rfl, List.prefix_rfl⟩
  | startWrite =>
      simp only [Sending.step] at stepped
      split at stepped
      case h_2 => contradiction
      case h_1 =>
        cases stepped
        exact ⟨rfl, List.prefix_rfl⟩
  | transfer index count =>
      simp only [Sending.step] at stepped
      split at stepped
      case h_2 => contradiction
      case h_1 =>
        obtain ⟨_, same⟩ := of_guard stepped
        cases same
        exact ⟨rfl, List.prefix_append _ _⟩
  | complete index code =>
      simp only [Sending.step] at stepped
      split at stepped
      case h_2 => contradiction
      case h_1 =>
        obtain ⟨_, same⟩ := of_guard stepped
        cases same
        exact ⟨rfl, List.prefix_rfl⟩
  | handlerWrite index =>
      simp only [Sending.step] at stepped
      split at stepped
      case h_2 => contradiction
      case h_1 =>
        cases stepped
        exact ⟨rfl, List.prefix_rfl⟩
  | close =>
      cases stepped
      exact ⟨rfl, List.prefix_rfl⟩

theorem Framed.kept {before after : Sending.State × Sending.History}
    {strings : Callers (List UInt8)} {event : Sending.Event}
    (framed : Framed crc protobuf before strings) (sound : SenderSound protobuf before event)
    (taken : SenderStep crc protobuf before after event) :
    Framed crc protobuf after (strings.note before.1.isOpen id event) := by
  refine ⟨?_, ?_⟩
  · rw [taken.frames, framed.frames]
    exact note_map strings before.1.isOpen id (prepareData crc protobuf) event
  · have small := framed.small
    cases event with
    | sendData s =>
        simp only [Callers.note]
        split
        case isFalse => exact small
        case isTrue =>
          intro string member
          simp only [List.mem_append, List.mem_singleton, or_assoc] at member
          rcases member with before | rfl | before
          · exact small string (List.mem_append_left _ before)
          · exact sound
          · exact small string (List.mem_append_right _ before)
    | acquire index =>
        intro string member
        simp only [Callers.note, List.mem_append, Option.mem_toList] at member
        rcases member with left | before | taken
        · exact small string (List.mem_append_left _ (List.mem_of_mem_eraseIdx left))
        · exact small string (List.mem_append_right _ before)
        · exact small string (List.mem_append_left _ (List.mem_of_getElem? taken))
    | _ => exact small

theorem orderly_of_sound (pair : Sending.State × Sending.History) (event : Sending.Event)
    (sound : SenderSound protobuf pair event) : Sending.Orderly pair event := by
  intro starts
  subst starts
  exact sound rfl

theorem noneFailed_kept (before after : Sending.State × Sending.History)
    (event : Sending.Event) (sound : SenderSound protobuf before event)
    (noneFailed : Sending.NoWriteFailed before.2)
    (taken : Sending.machine crc protobuf before event = some after) :
    Sending.NoWriteFailed after.2 := by
  obtain ⟨next, effects, stepped, rfl⟩ := observed_some taken
  cases event with
  | complete index code =>
      intro completion member
      simp only [Sending.note, List.mem_append, Option.mem_toList] at member
      rcases member with earlier | now
      · exact noneFailed completion earlier
      · obtain ⟨write, found, rfl⟩ := Option.map_eq_some_iff.mp now
        exact ⟨sound.1, sound.2 write found⟩
  | _ => exact noneFailed

theorem Linked.sent {state : State} (linked : Linked crc protobuf state)
    (event : Sending.Event) (sound : SenderSound protobuf state.sender event)
    (sender : Sending.State × Sending.History)
    (taken : Sending.machine crc protobuf state.sender event = some sender) :
    Linked crc protobuf { state with
      sender := sender
      strings := state.strings.note state.sender.1.isOpen id event } := by
  have stepped := sender_step crc protobuf state.sender sender event taken
  exact {
    framed := linked.framed.kept crc protobuf sound stepped
    serialized := Sending.machine_kept crc protobuf state.sender event sender
      linked.serialized (orderly_of_sound protobuf _ _ sound) taken
    noneFailed := noneFailed_kept crc protobuf _ _ event sound linked.noneFailed taken
    arrived := linked.arrived.trans stepped.wire
    conserved := linked.conserved
    working := linked.working }

/-! ## The receiver -/

theorem advanced_needExit {state next : Worker.State}
    (taken : Worker.Advanced crc protobuf state next) : next.needExit = state.needExit := by
  cases taken <;> rfl

theorem stepped_needExit {state next : Worker.State} {event : Worker.Event}
    (stays : event ≠ .setNeedExit) (taken : Worker.Stepped crc protobuf state event next) :
    next.needExit = state.needExit := by
  cases taken with
  | exits notCalled => exact absurd rfl stays
  | advances _ advanced => exact advanced_needExit crc protobuf advanced
  | _ => rfl

theorem Working.step {chunks : List (List UInt8)} {worker next : Worker.State × Worker.History}
    (working : Working crc protobuf chunks worker) (event : Worker.Event)
    (stays : event ≠ .setNeedExit)
    (taken : Worker.machine crc protobuf worker event = some next) :
    Working crc protobuf (chunks ++ event.chunks) next := by
  have linearized := Worker.machine_linearized crc protobuf worker event next trivial
    working.linearized taken
  obtain ⟨after, stepped, rfl⟩ := Option.map_eq_some_iff.mp taken
  obtain ⟨accepted, grows⟩ := Worker.note_grows worker.1 event worker.2
  have inversion := Worker.step_inv crc protobuf worker.1 event after stepped
  refine ⟨?_, linearized, working.registered.trans grows,
    Worker.step_awake crc protobuf worker.1 event after trivial working.awake stepped, ?_⟩
  · rw [← working.handed]
    exact accepted
  · exact (stepped_needExit crc protobuf stays inversion).trans working.running

theorem Working.handOver {chunks : List (List UInt8)}
    {worker next : Worker.State × Worker.History} (effects : List Receiving.Effect)
    (working : Working crc protobuf chunks worker)
    (taken : handOver crc protobuf worker effects = some next) :
    Working crc protobuf (chunks ++ effects.filterMap Receiving.Effect.chunk) next := by
  induction effects generalizing chunks worker with
  | nil =>
      cases taken
      simpa using working
  | cons effect rest ih =>
      cases effect with
      | onReadedChunk chunk =>
          obtain ⟨after, accepted, later⟩ := Option.bind_eq_some_iff.mp taken
          have handed := ih (working.step crc protobuf (.onReadedChunk chunk) nofun accepted) later
          simpa [Receiving.Effect.chunk, Worker.Event.chunks] using handed
      | onSessionError code => exact ih working taken

theorem Linked.receive {state next : State} (linked : Linked crc protobuf state)
    (event : Receiving.Event) (errorFree : event.ErrorFree)
    (arrives : state.receiver.2.arrived ++ event.bytes <+: state.sender.1.wire)
    (taken : state.receive crc protobuf event = some next) : Linked crc protobuf next := by
  obtain ⟨⟨receiver, effects⟩, stepped, later⟩ := Option.bind_eq_some_iff.mp taken
  obtain ⟨worker, handed, rfl⟩ := Option.map_eq_some_iff.mp later
  have machined : Receiving.machine state.receiver event =
      some (receiver, Receiving.note state.receiver.1 event effects state.receiver.2) := by
    simp only [Receiving.machine, observed, stepped]
    rfl
  exact {
    framed := linked.framed
    serialized := linked.serialized
    noneFailed := linked.noneFailed
    arrived := arrives
    conserved := Receiving.machine_conserved state.receiver event _ errorFree
      linked.conserved machined
    working := linked.working.handOver crc protobuf effects handed }

/-- What arrives is the next part of the wire. -/
theorem arrived_grows (arrived wire : List UInt8) (inOrder : arrived <+: wire) (count : Nat) :
    arrived ++ (wire.drop arrived.length).take count <+: wire := by
  obtain ⟨rest, rfl⟩ := inOrder
  rw [List.drop_left]
  exact List.prefix_append_right_inj arrived |>.mpr (List.take_prefix count rest)

theorem step_linked (state : State) (event : Event) (next : State) (_admitted : True)
    (linked : Linked crc protobuf state) (sound : Sound protobuf state event)
    (taken : step crc protobuf state event = some next) : Linked crc protobuf next := by
  cases event with
  | sender event =>
      obtain ⟨sender, stepped, rfl⟩ := Option.map_eq_some_iff.mp taken
      exact linked.sent crc protobuf event sound sender stepped
  | arrive count =>
      obtain ⟨_, received⟩ := Option.ite_none_right_eq_some.mp taken
      exact linked.receive crc protobuf (.arrive (state.inTransit.take count))
        (fun code => by simp) (arrived_grows _ _ linked.arrived count) received
  | receiver event =>
      obtain ⟨⟨own, _⟩, received⟩ := Option.ite_none_right_eq_some.mp taken
      have arrived := linked.arrived
      rw [← List.append_nil state.receiver.2.arrived, ← bytes_of_receiver own] at arrived
      refine linked.receive crc protobuf event ?_ arrived received
      rintro code rfl
      exact sound
  | worker event =>
      obtain ⟨own, worked⟩ := Option.ite_none_right_eq_some.mp taken
      obtain ⟨worker, stepped, rfl⟩ := Option.map_eq_some_iff.mp worked
      have working := linked.working.step crc protobuf event sound stepped
      rw [chunks_of_worker own, List.append_nil] at working
      exact { linked with working := working }

end Sound

end Emserver.Connection
