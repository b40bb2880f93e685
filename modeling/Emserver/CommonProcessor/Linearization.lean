import Emserver.CommonProcessor.Worker

/-!
# Linearization of the worker

Whatever the threads do, the worker delivers what the processor with atomic
iterations delivers in some schedule of the same chunks.  An iteration takes
place where the worker tests `m_readCallback`, with the chunks that it swapped
out before; the chunks pushed in between are queued behind it.
-/

set_option autoImplicit false

namespace Emserver.CommonProcessor.Worker

open Emserver.BaseProtocol
open Emserver.BufferProcessor
open Emserver.Protobuf
open Lib.Runs

/-! ## What is noted of a run -/

/-- The chunks passed to `onReadedChunk`, the atomic events, and the chunks pushed
since the swap while the iteration has not taken place. -/
structure History where
  accepted : List (List UInt8)
  schedule : List CommonProcessor.Event
  pending : List (List UInt8)
  deriving DecidableEq

def Acceptor.inside : Acceptor → List (List UInt8)
  | .idle => []
  | .locking dataChunk => [dataChunk]
  | .holding dataChunk => [dataChunk]

def History.push (history : History) (control : Control) (chunks : List (List UInt8)) :
    History :=
  match control with
  | .unlocked _ => { history with pending := history.pending ++ chunks }
  | _ => { history with schedule := history.schedule ++ chunks.map .onReadedChunk }

def History.advance (history : History) (control : Control) : History :=
  match control with
  | .relocking true => { history with schedule := history.schedule ++ [.waitTimedOut] }
  | .unlocked _ =>
      { history with
        schedule := history.schedule ++ .iterate :: history.pending.map .onReadedChunk
        pending := [] }
  | _ => history

def note (state : State) (event : Event) (history : History) : History :=
  match event with
  | .registerCommonMessageIncomingCallback =>
      { history with
        schedule := history.schedule ++ [.registerCommonMessageIncomingCallback] }
  | .onReadedChunk chunk => { history with accepted := history.accepted ++ [chunk] }
  | .pushChunk => history.push state.control state.acceptor.inside
  | .advance => history.advance state.control
  | _ => history

def start : State × History := (constructed, ⟨[], [], []⟩)

theorem History.push_grows (history : History) (control : Control)
    (chunks : List (List UInt8)) :
    (history.push control chunks).accepted = history.accepted ∧
      history.schedule <+: (history.push control chunks).schedule := by
  unfold History.push
  split
  · exact ⟨rfl, List.prefix_rfl⟩
  · exact ⟨rfl, List.prefix_append _ _⟩

theorem History.advance_grows (history : History) (control : Control) :
    (history.advance control).accepted = history.accepted ∧
      history.schedule <+: (history.advance control).schedule := by
  unfold History.advance
  split
  · exact ⟨rfl, List.prefix_append _ _⟩
  · exact ⟨rfl, List.prefix_append _ _⟩
  · exact ⟨rfl, List.prefix_rfl⟩

def Event.chunks : Event → List (List UInt8)
  | .onReadedChunk chunk => [chunk]
  | _ => []

/-- The schedule only grows, and chunks are accepted by `onReadedChunk` only. -/
theorem note_grows (state : State) (event : Event) (history : History) :
    (note state event history).accepted = history.accepted ++ event.chunks ∧
      history.schedule <+: (note state event history).schedule := by
  cases event with
  | registerCommonMessageIncomingCallback => exact ⟨by simp [note, Event.chunks],
      List.prefix_append _ _⟩
  | onReadedChunk chunk => exact ⟨rfl, List.prefix_rfl⟩
  | pushChunk =>
      obtain ⟨same, grows⟩ := history.push_grows state.control state.acceptor.inside
      exact ⟨by simp [note, Event.chunks, same], grows⟩
  | advance =>
      obtain ⟨same, grows⟩ := history.advance_grows state.control
      exact ⟨by simp [note, Event.chunks, same], grows⟩
  | _ => exact ⟨by simp [note, Event.chunks], List.prefix_rfl⟩

/-! ## The abstraction -/

/-- The chunks the next iteration of the schedule finds. -/
def Control.queue (control : Control) (acceptorBuffer : List (List UInt8)) :
    List (List UInt8) :=
  match control with
  | .unlocked acceptedChunks => acceptedChunks
  | _ => acceptorBuffer

def Control.pending (control : Control) (acceptorBuffer : List (List UInt8)) :
    List (List UInt8) :=
  match control with
  | .unlocked _ => acceptorBuffer
  | _ => []

def Control.Ending : Control → Prop
  | .testing => True
  | .exited => True
  | _ => False

def Control.NoFault (control : Control) : Prop := ∀ fault, control ≠ .faulted fault

/-- The chunks queued in a run. -/
def queuedChunks : List CommonProcessor.Event → List (List UInt8)
  | [] => []
  | .onReadedChunk chunk :: rest => chunk :: queuedChunks rest
  | .registerCommonMessageIncomingCallback :: rest => queuedChunks rest
  | .waitTimedOut :: rest => queuedChunks rest
  | .iterate :: rest => queuedChunks rest

@[simp] theorem queuedChunks_append (past future : List CommonProcessor.Event) :
    queuedChunks (past ++ future) = queuedChunks past ++ queuedChunks future := by
  induction past with
  | nil => rfl
  | cons event rest ih => cases event <;> simp [queuedChunks, ih]

@[simp] theorem queuedChunks_map (chunks : List (List UInt8)) :
    queuedChunks (chunks.map .onReadedChunk) = chunks := by
  induction chunks with
  | nil => rfl
  | cons chunk rest ih => simp [queuedChunks, ih]

theorem received_eq (events : List CommonProcessor.Event) :
    received events = (queuedChunks events).flatten := by
  induction events with
  | nil => rfl
  | cons event rest ih => cases event <;> simp [received, queuedChunks, ih]

/-! ## Outside the swap -/

def Control.Outside (control : Control) : Prop := ∀ chunks, control ≠ .unlocked chunks

theorem Control.Outside.queue {control : Control} (outside : control.Outside)
    (acceptorBuffer : List (List UInt8)) : control.queue acceptorBuffer = acceptorBuffer := by
  cases control with
  | unlocked chunks => exact absurd rfl (outside chunks)
  | _ => rfl

theorem Control.Outside.pending {control : Control} (outside : control.Outside)
    (acceptorBuffer : List (List UInt8)) : control.pending acceptorBuffer = [] := by
  cases control with
  | unlocked chunks => exact absurd rfl (outside chunks)
  | _ => rfl

theorem Control.Outside.push {control : Control} (outside : control.Outside)
    (history : History) (chunks : List (List UInt8)) :
    history.push control chunks =
      { history with schedule := history.schedule ++ chunks.map .onReadedChunk } := by
  cases control with
  | unlocked chunks => exact absurd rfl (outside chunks)
  | _ => rfl

/-- Neither between a swap and its iteration nor at a fault. -/
def Control.plain : Control → Bool
  | .unlocked _ => false
  | .faulted _ => false
  | _ => true

theorem Control.outside_of_plain {control : Control} (plain : control.plain = true) :
    control.Outside := by
  rintro chunks rfl
  contradiction

theorem Control.noFault_of_plain {control : Control} (plain : control.plain = true) :
    control.NoFault := by
  rintro fault rfl
  contradiction

theorem Control.noFault_unlocked (chunks : List (List UInt8)) :
    (Control.unlocked chunks).NoFault := by
  simp [Control.NoFault]

/-- A notification changes nothing but the wait. -/
theorem notify_cases (control : Control) :
    (∃ notified, control = .waiting notified ∧ control.notify = .waiting true) ∨
      control.notify = control := by
  cases control with
  | waiting notified => exact .inl ⟨notified, rfl, rfl⟩
  | _ => exact .inr rfl

section Abstraction
variable (crc : List UInt8 → UInt32) (protobuf : Codecs)

def machine (pair : State × History) (event : Event) : Option (State × History) :=
  (step crc protobuf pair.1 event).map fun next => (next, note pair.1 event pair.2)

/-- The messages of the last scan that the callback has not been called with. -/
def Control.inHand : Control → List CommonMessage
  | .handing messages => messages.filterMap (unpack protobuf)
  | .calling cmsg messages => cmsg :: messages.filterMap (unpack protobuf)
  | _ => []

/-- The schedule leads to the state the worker is in.  What it has delivered
beyond the worker is in the worker's hands, or was dropped on the way out. -/
structure Linearized (state : State) (history : History) : Prop where
  accepted : queuedChunks history.schedule ++ history.pending ++ state.acceptor.inside =
    history.accepted
  pending : history.pending = state.control.pending state.acceptorBuffer
  faulted : ∀ fault, state.control = .faulted fault →
    run crc protobuf CommonProcessor.start history.schedule = .error fault
  running : state.control.NoFault → ∃ dropped,
    run crc protobuf CommonProcessor.start history.schedule =
        .ok ⟨state.control.queue state.acceptorBuffer, false, state.readCallback,
          state.processor, state.delivered ++ state.control.inHand protobuf ++ dropped⟩ ∧
      (dropped = [] ∨ state.needExit = true ∧ state.control.Ending)

theorem linearized_start : Linearized crc protobuf start.1 start.2 where
  accepted := rfl
  pending := rfl
  faulted fault control := by simp [start, constructed] at control
  running _ := ⟨[], rfl, .inl rfl⟩

/-! ## Longer schedules -/

theorem run_ok_append (state next : CommonProcessor.State)
    (past future : List CommonProcessor.Event)
    (earlier : CommonProcessor.run crc protobuf state past = .ok next) :
    CommonProcessor.run crc protobuf state (past ++ future) =
      CommonProcessor.run crc protobuf next future := by
  rw [run_append, earlier]
  rfl

theorem run_error_append (state : CommonProcessor.State) (fault : Fault)
    (past future : List CommonProcessor.Event)
    (earlier : CommonProcessor.run crc protobuf state past = .error fault) :
    CommonProcessor.run crc protobuf state (past ++ future) = .error fault := by
  rw [run_append, earlier]
  rfl

theorem run_chunks (state : CommonProcessor.State) (chunks : List (List UInt8)) :
    CommonProcessor.run crc protobuf state (chunks.map .onReadedChunk) =
      .ok { state with acceptorBuffer := state.acceptorBuffer ++ chunks } := by
  induction chunks generalizing state with
  | nil => simp [CommonProcessor.run]
  | cons chunk rest ih =>
      rw [List.map_cons, CommonProcessor.run, CommonProcessor.step]
      refine (ih _).trans ?_
      simp

end Abstraction

/-! ## Steps -/

section Steps
variable {crc : List UInt8 → UInt32} {protobuf : Codecs}
variable {state : State} {history : History}
variable (linearized : Linearized crc protobuf state history)
include linearized

/-- A step that leaves the schedule as it is: the queue is the same, and what is
no longer in the worker's hands is delivered or dropped on the way out. -/
theorem Linearized.silent {next : State}
    (inside : next.acceptor.inside = state.acceptor.inside)
    (queue : next.control.queue next.acceptorBuffer =
      state.control.queue state.acceptorBuffer)
    (pending : next.control.pending next.acceptorBuffer =
      state.control.pending state.acceptorBuffer)
    (readCallback : next.readCallback = state.readCallback)
    (processor : next.processor = state.processor)
    (before : state.control.NoFault) (after : next.control.NoFault)
    (ending : state.needExit = true → state.control.Ending →
      next.needExit = true ∧ next.control.Ending)
    (handed : ∃ more,
      next.delivered ++ next.control.inHand protobuf ++ more =
          state.delivered ++ state.control.inHand protobuf ∧
        (more = [] ∨ next.needExit = true ∧ next.control.Ending)) :
    Linearized crc protobuf next history := by
  refine ⟨by rw [inside, linearized.accepted], by rw [pending, linearized.pending], ?_, ?_⟩
  · intro fault control
    exact absurd control (after fault)
  · intro _
    obtain ⟨dropped, ran, gone⟩ := linearized.running before
    obtain ⟨more, same, left⟩ := handed
    refine ⟨more ++ dropped, ?_, ?_⟩
    · rw [queue, readCallback, processor, ← List.append_assoc, same]
      exact ran
    · rcases gone with rfl | ⟨exiting, atEnd⟩
      · rw [List.append_nil]
        exact left
      · exact .inr (ending exiting atEnd)

/-- A step that is one event of the schedule, which the processor takes the same
way whatever it has delivered. -/
theorem Linearized.scheduled {next : State} {accepted : List (List UInt8)}
    (event : CommonProcessor.Event)
    (inside : queuedChunks (history.schedule ++ [event]) ++ history.pending ++
      next.acceptor.inside = accepted)
    (pending : next.control.pending next.acceptorBuffer =
      state.control.pending state.acceptorBuffer)
    (fault : ∀ fault, next.control = .faulted fault → state.control = .faulted fault)
    (noFault : next.control.NoFault → state.control.NoFault)
    (ending : state.needExit = true → state.control.Ending →
      next.needExit = true ∧ next.control.Ending)
    (taken : ∀ delivered, CommonProcessor.step crc protobuf
        ⟨state.control.queue state.acceptorBuffer, false, state.readCallback, state.processor,
          state.delivered ++ state.control.inHand protobuf ++ delivered⟩ event =
      .ok ⟨next.control.queue next.acceptorBuffer, false, next.readCallback, next.processor,
        next.delivered ++ next.control.inHand protobuf ++ delivered⟩) :
    Linearized crc protobuf next
      { history with accepted := accepted, schedule := history.schedule ++ [event] } := by
  refine ⟨inside, by rw [pending]; exact linearized.pending, ?_, ?_⟩
  · intro reason control
    exact run_error_append crc protobuf _ _ _ _ (linearized.faulted reason (fault reason control))
  · intro alive
    obtain ⟨dropped, ran, gone⟩ := linearized.running (noFault alive)
    refine ⟨dropped, ?_, ?_⟩
    · rw [run_concat crc protobuf _ _ _ _ ran]
      exact taken dropped
    · rcases gone with nothing | ⟨exiting, atEnd⟩
      · exact .inl nothing
      · exact .inr (ending exiting atEnd)

theorem Linearized.registered :
    Linearized crc protobuf { state with readCallback := true }
      { history with
        schedule := history.schedule ++ [.registerCommonMessageIncomingCallback] } := by
  refine linearized.scheduled .registerCommonMessageIncomingCallback ?_ rfl (fun _ => id) id
    And.intro fun _ => rfl
  simpa [queuedChunks] using linearized.accepted

/-- A chunk pushed between the swap and the iteration is queued behind it. -/
theorem Linearized.pushed_behind (chunks : List (List UInt8)) (chunk : List UInt8)
    (control : state.control = .unlocked chunks)
    (acceptor : state.acceptor = .holding chunk) :
    Linearized crc protobuf
      { state with acceptorBuffer := state.acceptorBuffer ++ [chunk], acceptor := .idle }
      { history with pending := history.pending ++ [chunk] } := by
  refine ⟨?_, ?_, ?_, ?_⟩
  · have accepted := linearized.accepted
    rw [acceptor] at accepted
    simpa [Acceptor.inside] using accepted
  · rw [linearized.pending, control]
    rfl
  · exact linearized.faulted
  · rw [control]
    have running := linearized.running
    rw [control] at running
    exact running

theorem Linearized.pushed (chunk : List UInt8) (outside : state.control.Outside)
    (acceptor : state.acceptor = .holding chunk) :
    Linearized crc protobuf
      { state with acceptorBuffer := state.acceptorBuffer ++ [chunk], acceptor := .idle }
      { history with schedule := history.schedule ++ [.onReadedChunk chunk] } := by
  refine linearized.scheduled (.onReadedChunk chunk) ?_ ?_ (fun _ => id) id And.intro ?_
  · have accepted := linearized.accepted
    rw [acceptor, linearized.pending, outside.pending] at accepted
    rw [linearized.pending, outside.pending]
    simpa [queuedChunks, Acceptor.inside] using accepted
  · rw [outside.pending, outside.pending]
  · intro delivered
    rw [outside.queue, outside.queue]
    rfl

/-- The worker moves on without a change of the shared data. -/
theorem Linearized.moves {here there : Control} (control : state.control = here)
    (before : here.plain = true) (after : there.plain = true)
    (ending : state.needExit = true → here.Ending → there.Ending)
    (handed : ∃ more, there.inHand protobuf ++ more = here.inHand protobuf ∧
      (more = [] ∨ state.needExit = true ∧ there.Ending)) :
    Linearized crc protobuf { state with control := there } history := by
  subst control
  have outside := Control.outside_of_plain before
  have still := Control.outside_of_plain after
  refine linearized.silent rfl ?_ ?_ rfl rfl (Control.noFault_of_plain before)
    (Control.noFault_of_plain after) (fun exiting atEnd => ⟨exiting, ending exiting atEnd⟩) ?_
  · rw [outside.queue, still.queue]
  · rw [outside.pending, still.pending]
  · obtain ⟨more, same, left⟩ := handed
    exact ⟨more, by rw [List.append_assoc, same], left⟩

theorem Linearized.notified :
    Linearized crc protobuf { state with control := state.control.notify } history := by
  rcases notify_cases state.control with ⟨notified, waiting, woken⟩ | same
  · rw [woken]
    exact linearized.moves waiting rfl rfl
      (fun _ => False.elim) ⟨[], rfl, .inl rfl⟩
  · rw [same]
    exact linearized

/-- The iteration takes place, and the chunks pushed behind it follow. -/
theorem Linearized.iterated {result : Except Fault CommonProcessor.State}
    (chunks : List (List UInt8)) (control : state.control = .unlocked chunks)
    (iterated : bufferProcessingThreadFunc crc protobuf
      ⟨chunks, false, state.readCallback, state.processor, state.delivered⟩ = result) :
    CommonProcessor.run crc protobuf CommonProcessor.start
        (history.schedule ++ .iterate :: history.pending.map .onReadedChunk) =
      result.map fun after =>
        { after with acceptorBuffer := after.acceptorBuffer ++ state.acceptorBuffer } := by
  have alive : state.control.NoFault := control ▸ Control.noFault_unlocked chunks
  obtain ⟨dropped, ran, gone⟩ := linearized.running alive
  rw [control] at ran gone
  have nothing : dropped = [] := gone.elim id fun ⟨_, atEnd⟩ => atEnd.elim
  have pending := linearized.pending
  rw [control] at pending
  rw [run_ok_append crc protobuf _ _ _ _ ran, pending, nothing]
  simp only [Control.queue, Control.inHand, Control.pending, List.append_nil,
    CommonProcessor.run, CommonProcessor.step]
  rw [iterated]
  cases result with
  | error fault => rfl
  | ok after => exact run_chunks crc protobuf after state.acceptorBuffer

/-- What the iteration changes is what the worker's step changes. -/
theorem Linearized.processed {there : Control} {processor : Buffer}
    (chunks : List (List UInt8)) (control : state.control = .unlocked chunks)
    (plain : there.plain = true)
    (iterated : bufferProcessingThreadFunc crc protobuf
        ⟨chunks, false, state.readCallback, state.processor, state.delivered⟩ =
      .ok ⟨[], false, state.readCallback, processor,
        state.delivered ++ there.inHand protobuf⟩) :
    Linearized crc protobuf { state with processor := processor, control := there }
      (history.advance state.control) := by
  have ran := linearized.iterated chunks control iterated
  have pending := linearized.pending
  rw [control] at pending ⊢
  have outside := Control.outside_of_plain plain
  have alive := Control.noFault_of_plain plain
  refine ⟨?_, ?_, fun fault faulted => absurd faulted (alive fault), fun _ => ⟨[], ?_, .inl rfl⟩⟩
  · have accepted := linearized.accepted
    simpa [History.advance, queuedChunks] using accepted
  · rw [outside.pending]
    rfl
  · refine ran.trans ?_
    rw [outside.queue, List.append_nil]
    rfl

theorem Linearized.failed (chunks : List (List UInt8)) (fault : Fault)
    (control : state.control = .unlocked chunks) (registered : state.readCallback = true)
    (failed : (state.processor.appendBuffers chunks).messages crc = .error fault) :
    Linearized crc protobuf { state with control := .faulted fault }
      (history.advance state.control) := by
  have iterated : bufferProcessingThreadFunc crc protobuf
      ⟨chunks, false, state.readCallback, state.processor, state.delivered⟩ = .error fault := by
    simp only [bufferProcessingThreadFunc, registered, failed]
    rfl
  have ran := linearized.iterated chunks control iterated
  rw [control]
  refine ⟨?_, rfl, ?_, fun alive => absurd rfl (alive fault)⟩
  · have accepted := linearized.accepted
    simpa [History.advance, queuedChunks] using accepted
  · intro reason same
    cases same
    exact ran

theorem Linearized.timedOut (control : state.control = .relocking true) :
    Linearized crc protobuf { state with control := .testing }
      (history.advance state.control) := by
  have moved : Linearized crc protobuf { state with control := .testing } history :=
    linearized.moves control rfl rfl (fun _ _ => trivial)
      ⟨[], rfl, .inl rfl⟩
  rw [control]
  refine moved.scheduled .waitTimedOut ?_ rfl (fun _ => id) id And.intro fun _ => rfl
  simpa [queuedChunks] using moved.accepted

theorem Linearized.advanced {next : State} (taken : Advanced crc protobuf state next) :
    Linearized crc protobuf next (history.advance state.control) := by
  cases taken with
  | running control goesOn =>
      rw [control]
      exact linearized.moves control rfl rfl
        (fun exiting => by simp [goesOn] at exiting) ⟨[], rfl, .inl rfl⟩
  | leaves control exiting =>
      rw [control]
      exact linearized.moves control rfl rfl
        (fun _ _ => trivial) ⟨[], rfl, .inl rfl⟩
  | locks control free =>
      rw [control]
      exact linearized.moves control rfl rfl
        (fun _ => False.elim) ⟨[], rfl, .inl rfl⟩
  | sleeps control nothing =>
      rw [control]
      exact linearized.moves control rfl rfl
        (fun _ => False.elim) ⟨[], rfl, .inl rfl⟩
  | finds control queued =>
      rw [control]
      exact linearized.moves control rfl rfl
        (fun _ => False.elim) ⟨[], rfl, .inl rfl⟩
  | timesOut control free => exact linearized.timedOut control
  | wakes control free =>
      rw [control]
      exact linearized.moves control rfl rfl
        (fun _ => False.elim) ⟨[], rfl, .inl rfl⟩
  | swaps control =>
      rw [control]
      refine linearized.silent rfl ?_ ?_ rfl rfl (Control.noFault_of_plain (by rw [control]; rfl))
        (Control.noFault_unlocked _) ?_ ?_
      · rw [control]
        rfl
      · rw [control]
        rfl
      · rw [control]
        exact fun _ => False.elim
      · refine ⟨[], ?_, .inl rfl⟩
        rw [control]
        simp [Control.inHand]
  | discards chunks control unregistered =>
      refine linearized.processed chunks control rfl ?_
      simp [bufferProcessingThreadFunc, unregistered, Control.inHand]
  | faults chunks fault control registered failed =>
      exact linearized.failed chunks fault control registered failed
  | scans chunks messages rest control registered scanned =>
      refine linearized.processed chunks control rfl ?_
      exact bufferProcessingThreadFunc_scanned crc protobuf
        ⟨chunks, false, state.readCallback, state.processor, state.delivered⟩ rfl registered
        messages rest scanned
  | finishes control =>
      rw [control]
      exact linearized.moves control rfl rfl
        (fun _ => False.elim) ⟨[], rfl, .inl rfl⟩
  | skips message messages control opaquely =>
      rw [control]
      refine linearized.moves control rfl rfl
        (fun _ => False.elim) ⟨[], ?_, .inl rfl⟩
      simp [Control.inHand, opaquely]
  | hands message messages cmsg control unpacked goesOn =>
      rw [control]
      refine linearized.moves control rfl rfl
        (fun _ => False.elim) ⟨[], ?_, .inl rfl⟩
      simp [Control.inHand, unpacked]
  | breaks message messages cmsg control unpacked exiting =>
      rw [control]
      exact linearized.moves control rfl rfl
        (fun _ => False.elim) ⟨_, rfl, .inr ⟨exiting, trivial⟩⟩
  | calls cmsg messages control =>
      rw [control]
      refine linearized.silent rfl ?_ ?_ rfl rfl (Control.noFault_of_plain (by rw [control]; rfl))
        (Control.noFault_of_plain rfl) ?_ ?_
      · rw [control]
        rfl
      · rw [control]
        rfl
      · rw [control]
        exact fun _ => False.elim
      · refine ⟨[], ?_, .inl rfl⟩
        rw [control]
        simp [Control.inHand]

end Steps

section Runs
variable (crc : List UInt8 → UInt32) (protobuf : Codecs)

theorem Linearized.pushChunk {state : State} {history : History}
    (linearized : Linearized crc protobuf state history) (chunk : List UInt8)
    (acceptor : state.acceptor = .holding chunk) :
    Linearized crc protobuf
      { state with
        acceptorBuffer := state.acceptorBuffer ++ [chunk]
        control := state.control.notify
        acceptor := .idle }
      (history.push state.control [chunk]) := by
  by_cases outside : state.control.Outside
  · rw [outside.push]
    exact (linearized.pushed chunk outside acceptor).notified
  · obtain ⟨chunks, control⟩ : ∃ chunks, state.control = .unlocked chunks := by
      simpa [Control.Outside] using outside
    have pushed := (linearized.pushed_behind chunks chunk control acceptor).notified
    rw [control]
    rw [control] at pushed
    exact pushed

theorem machine_linearized (pair : State × History) (event : Event) (next : State × History)
    (_admitted : True) (linearized : Linearized crc protobuf pair.1 pair.2)
    (taken : machine crc protobuf pair event = some next) :
    Linearized crc protobuf next.1 next.2 := by
  obtain ⟨after, stepped, rfl⟩ := Option.map_eq_some_iff.mp taken
  have accepted := linearized.accepted
  cases step_inv crc protobuf pair.1 event after stepped with
  | registers => exact linearized.registered
  | accepts chunk idle =>
      refine ⟨?_, linearized.pending, linearized.faulted, linearized.running⟩
      rw [idle] at accepted
      simp [note, Acceptor.inside, ← accepted]
  | locks chunk acceptor free =>
      refine ⟨?_, linearized.pending, linearized.faulted, linearized.running⟩
      rw [acceptor] at accepted
      exact accepted
  | pushes chunk acceptor =>
      have pushed := linearized.pushChunk crc protobuf chunk acceptor
      have inside : pair.1.acceptor.inside = [chunk] := by
        rw [acceptor]
        rfl
      simpa only [note, inside] using pushed
  | advances _ advanced => exact linearized.advanced advanced
  | wakes cause notified control =>
      exact linearized.moves control rfl rfl
        (fun _ => False.elim) ⟨[], rfl, .inl rfl⟩
  | exits notCalled =>
      refine ⟨accepted, linearized.pending, linearized.faulted, fun alive => ?_⟩
      obtain ⟨dropped, ran, gone⟩ := linearized.running alive
      exact ⟨dropped, ran, gone.imp_right fun ⟨_, atEnd⟩ => ⟨rfl, atEnd⟩⟩
  | notifies notifying =>
      have notified := linearized.notified
      exact ⟨notified.accepted, notified.pending, notified.faulted, notified.running⟩
  | joins joining exited =>
      exact ⟨accepted, linearized.pending, linearized.faulted, linearized.running⟩

/-- Every interleaving of the threads is linearized by the schedule noted of it. -/
theorem linearized (events : List Event) :
    Throughout (machine crc protobuf) (fun pair => Linearized crc protobuf pair.1 pair.2) start
      events :=
  throughout_of_kept (machine_linearized crc protobuf) (linearized_start crc protobuf)
    fun _ _ => trivial

end Runs

end Emserver.CommonProcessor.Worker
