import Emserver.TcpSession.Sending
import Emserver.Protobuf.Wire
import Emserver.Lib.Crc32

/-!
# Serialized writes

A write has the connection to itself, and `m_streamSend` to its frame, as long
as `m_inSendMode` is found clear when it starts and no earlier operation left
more behind than its handler consumes once more.  A spurious wake-up breaks the
first, an operation that transferred less than half of its bytes the second.
-/

set_option autoImplicit false

namespace Emserver.TcpSession.Sending

open Emserver.Protobuf
open Lib.Runs

/-! ## The property and the condition -/

/-- The write that starts is the only one outstanding, and `m_streamSend` holds
exactly the frame of the call. -/
def StartsAlone (pair : State × History) (event : Event) : Prop :=
  event = .startWrite → ∃ chunk, pair.1.holder = some ⟨.leaving, chunk⟩ ∧
    (pair.1.startWrite chunk).writes = [⟨chunk, 0, .inProgress⟩] ∧
    (pair.1.startWrite chunk).streamSend = chunk

/-- No operation so far failed: each transferred all of its bytes without an error. -/
def NoWriteFailed (history : History) : Prop :=
  ∀ completion ∈ history.completions,
    completion.code = none ∧ completion.transferred = completion.size

def unsent (state : State) : List UInt8 :=
  state.writes.flatMap fun write => write.content.drop write.transferred

/-- The frames started are those whose callers passed `m_sendSyncMutex`, in that
order and but for the one that holds it; they are the bytes on the wire, up to
what is still outstanding. -/
def WireInOrder (state : State) (history : History) : Prop :=
  history.passed = history.started ++ (state.holder.map Caller.chunk).toList ∧
    state.wire ++ unsent state = history.started.flatten

def HalfTransferred (history : History) : Prop :=
  ∀ completion ∈ history.completions, completion.size ≤ 2 * completion.transferred

/-- A write starts with `m_inSendMode` clear and behind operations that each
transferred at least half of their bytes. -/
def Orderly (pair : State × History) (event : Event) : Prop :=
  event = .startWrite → pair.1.inSendMode = false ∧ HalfTransferred pair.2

instance orderlyDecidable (pair : State × History) (event : Event) :
    Decidable (Orderly pair event) := by
  unfold Orderly HalfTransferred
  infer_instance

/-! ## The invariant -/

structure Idle (state : State) (history : History) : Prop where
  writes : state.writes = []
  clear : state.inSendMode = false
  emptied : state.streamSend = [] ↔ HalfTransferred history

structure InProgress (state : State) (history : History) (write : Write) : Prop where
  writes : state.writes = [write]
  stage : write.stage = .inProgress
  set : state.inSendMode = true
  partly : write.transferred ≤ write.content.length
  stream : state.streamSend = write.content
  half : HalfTransferred history

/-- One write is completed, and its handler has not run. -/
structure Completed (state : State) (history : History) (write : Write) : Prop where
  writes : state.writes = [write]
  stage : write.stage ≠ .inProgress
  set : state.inSendMode = true
  stream : state.streamSend = write.content.drop write.transferred
  half : HalfTransferred history ↔ write.content.length ≤ 2 * write.transferred
  whole : NoWriteFailed history → write.transferred = write.content.length

def Channel (state : State) (history : History) : Prop :=
  Idle state history ∨ (∃ write, InProgress state history write) ∨
    ∃ write, Completed state history write

/-- At most one write is outstanding, and frames get to the wire as their callers
pass. -/
structure Serialized (state : State) (history : History) : Prop where
  channel : Channel state history
  passed : history.passed = history.started ++ (state.holder.map Caller.chunk).toList
  wire : NoWriteFailed history → state.wire ++ unsent state = history.started.flatten

theorem start_serialized : Serialized start.1 start.2 := by
  constructor
  · exact .inl ⟨rfl, rfl, by simp [start, connected, HalfTransferred]⟩
  · rfl
  · intro _
    rfl

theorem startsAlone_iff (state : State) (history : History) (chunk : List UInt8)
    (channel : Channel state history) (holds : state.holder = some ⟨.leaving, chunk⟩) :
    StartsAlone (state, history) .startWrite ↔ Orderly (state, history) .startWrite := by
  have alone : StartsAlone (state, history) .startWrite ↔
      state.writes ++ [⟨state.streamSend ++ chunk, 0, .inProgress⟩] =
          [⟨chunk, 0, .inProgress⟩] ∧ state.streamSend ++ chunk = chunk := by
    simp [StartsAlone, holds, State.startWrite]
  rw [alone]
  rcases channel with idle | ⟨write, busy⟩ | ⟨write, busy⟩
  · simp [Orderly, idle.writes, idle.clear, idle.emptied]
  · simp [Orderly, busy.writes, busy.set]
  · simp [Orderly, busy.writes, busy.set]

/-! ## Steps -/

theorem found_alone {writes : List Write} {only write : Write} {index : Nat}
    (alone : writes = [only]) (found : writes[index]? = some write) :
    index = 0 ∧ write = only := by
  rw [alone] at found
  cases index with
  | zero => exact ⟨rfl, (Option.some.inj found).symm⟩
  | succ index => simp at found

/-- The phase of the write that was found is that of the channel. -/
theorem Channel.inProgress {state : State} {history : History} {write : Write} {index : Nat}
    (channel : Channel state history) (found : state.writes[index]? = some write)
    (stage : write.stage = .inProgress) : index = 0 ∧ InProgress state history write := by
  rcases channel with idle | ⟨only, busy⟩ | ⟨only, busy⟩
  · simp [idle.writes] at found
  · obtain ⟨first, rfl⟩ := found_alone busy.writes found
    exact ⟨first, busy⟩
  · obtain ⟨_, rfl⟩ := found_alone busy.writes found
    exact absurd stage busy.stage

theorem Channel.completed {state : State} {history : History} {write : Write} {index : Nat}
    (channel : Channel state history) (found : state.writes[index]? = some write)
    (stage : write.stage ≠ .inProgress) : index = 0 ∧ Completed state history write := by
  rcases channel with idle | ⟨only, busy⟩ | ⟨only, busy⟩
  · simp [idle.writes] at found
  · obtain ⟨_, rfl⟩ := found_alone busy.writes found
    exact absurd busy.stage stage
  · obtain ⟨first, rfl⟩ := found_alone busy.writes found
    exact ⟨first, busy⟩

/-- `m_inSendMode` is clear only while no write is outstanding. -/
theorem Channel.idle {state : State} {history : History} (channel : Channel state history)
    (clear : state.inSendMode = false) : Idle state history := by
  rcases channel with idle | ⟨write, busy⟩ | ⟨write, busy⟩
  · exact idle
  · exact absurd (busy.set.symm.trans clear) (by decide)
  · exact absurd (busy.set.symm.trans clear) (by decide)

theorem notify_chunk (caller : Caller) : caller.notify.chunk = caller.chunk := by
  obtain ⟨phase, chunk⟩ := caller
  cases phase <;> rfl

section Steps
variable {state : State} {history : History} (serialized : Serialized state history)
include serialized

/-- What the callers do outside `startWrite` leaves the channel alone. -/
theorem Serialized.caller (isOpen : Bool) (blocked : List (List UInt8))
    (holder : Option Caller) (passed : List (List UInt8))
    (accounted : passed = history.started ++ (holder.map Caller.chunk).toList) :
    Serialized { state with isOpen := isOpen, blocked := blocked, holder := holder }
      { history with passed := passed } := by
  refine ⟨?_, accounted, serialized.wire⟩
  rcases serialized.channel with idle | ⟨write, busy⟩ | ⟨write, busy⟩
  · exact .inl ⟨idle.writes, idle.clear, idle.emptied⟩
  · exact .inr (.inl ⟨write, busy.writes, busy.stage, busy.set, busy.partly, busy.stream,
      busy.half⟩)
  · exact .inr (.inr ⟨write, busy.writes, busy.stage, busy.set, busy.stream, busy.half,
      busy.whole⟩)

theorem Serialized.move (caller moved : Caller) (holds : state.holder = some caller)
    (same : moved.chunk = caller.chunk) :
    Serialized { state with holder := some moved } history := by
  apply serialized.caller
  rw [serialized.passed, holds]
  simp [same]

theorem sendData_kept (chunk : List UInt8) : Serialized (state.sendData chunk) history := by
  unfold State.sendData
  split
  · exact serialized.caller _ _ _ _ serialized.passed
  · exact serialized

theorem acquire_kept (index : Nat) (next : State) (taken : state.acquire index = some next) :
    Serialized next
      { history with passed := history.passed ++ state.blocked[index]?.toList } := by
  unfold State.acquire at taken
  split at taken
  case h_2 => contradiction
  case h_1 chunk free waits =>
    cases taken
    apply serialized.caller
    have passed := serialized.passed
    rw [free] at passed
    simpa [waits] using passed

theorem test_kept (next : State) (taken : state.test = some next) :
    Serialized next history := by
  unfold State.test at taken
  split at taken
  case h_2 => contradiction
  case h_1 chunk holds =>
    cases taken
    exact serialized.move _ _ holds rfl

theorem enterWait_kept (next : State) (taken : state.enterWait = some next) :
    Serialized next history := by
  unfold State.enterWait at taken
  split at taken
  case h_2 => contradiction
  case h_1 chunk holds =>
    cases taken
    exact serialized.move _ _ holds rfl

theorem wake_kept (cause : Wake) (next : State) (taken : state.wake cause = some next) :
    Serialized next history := by
  unfold State.wake at taken
  split at taken
  case h_2 => contradiction
  case h_1 notified chunk holds =>
    split at taken
    case isTrue => contradiction
    case isFalse =>
      cases taken
      exact serialized.move _ _ holds rfl

/-- An orderly start finds the session idle and `m_streamSend` empty. -/
theorem startWrite_kept (chunk : List UInt8) (holds : state.holder = some ⟨.leaving, chunk⟩)
    (orderly : Orderly (state, history) .startWrite) :
    Serialized (state.startWrite chunk)
      { history with started := history.started ++ [chunk] } := by
  obtain ⟨clear, half⟩ := orderly rfl
  have idle := serialized.channel.idle clear
  have empty : state.streamSend = [] := idle.emptied.mpr half
  refine ⟨.inr (.inl ⟨⟨chunk, 0, .inProgress⟩, ?_, rfl, rfl, Nat.zero_le _, ?_, half⟩), ?_, ?_⟩
  · simp [State.startWrite, idle.writes, empty]
  · simp [State.startWrite, empty]
  · have passed := serialized.passed
    rw [holds] at passed
    simpa [State.startWrite] using passed
  · intro noneFailed
    have wire := serialized.wire noneFailed
    simp only [unsent, idle.writes, List.flatMap_nil, List.append_nil] at wire
    simp [State.startWrite, unsent, idle.writes, empty, wire]

theorem transfer_kept (index count : Nat) (write : Write)
    (found : state.writes[index]? = some write) (stage : write.stage = .inProgress)
    (room : write.transferred + count ≤ write.content.length) :
    Serialized (state.transfer index count write) history := by
  obtain ⟨rfl, busy⟩ := serialized.channel.inProgress found stage
  refine ⟨.inr (.inl ⟨{ write with transferred := write.transferred + count }, ?_, stage,
    busy.set, room, busy.stream, busy.half⟩), serialized.passed, ?_⟩
  · simp [State.transfer, busy.writes]
  · intro noneFailed
    have wire := serialized.wire noneFailed
    simp only [unsent, busy.writes, List.flatMap_cons, List.flatMap_nil,
      List.append_nil] at wire
    rw [← wire]
    simp [State.transfer, unsent, busy.writes, ← List.drop_drop]

theorem complete_kept (index : Nat) (code : Option ErrorCode) (write : Write)
    (found : state.writes[index]? = some write) (stage : write.stage = .inProgress) :
    Serialized (state.complete index write code)
      { history with
        completions := history.completions ++
          [⟨write.transferred, write.content.length, code⟩] } := by
  obtain ⟨rfl, busy⟩ := serialized.channel.inProgress found stage
  refine ⟨.inr (.inr ⟨{ write with stage := .completed code }, ?_, by simp, busy.set, ?_, ?_,
    ?_⟩), serialized.passed, ?_⟩
  · simp [State.complete, busy.writes]
  · simp [State.complete, consume, busy.stream]
  · have half := busy.half
    simp only [HalfTransferred, List.forall_mem_append, List.forall_mem_singleton] at half ⊢
    exact and_iff_right half
  · intro noneFailed
    exact (noneFailed ⟨write.transferred, write.content.length, code⟩ (by simp)).2
  · intro noneFailed
    have wire := serialized.wire fun completion member =>
      noneFailed completion (List.mem_append_left _ member)
    simpa [State.complete, unsent, busy.writes] using wire

/-- The second consume empties `m_streamSend` when half of it was transferred. -/
theorem handlerWrite_kept (index : Nat) (write : Write)
    (found : state.writes[index]? = some write) (stage : write.stage ≠ .inProgress) :
    Serialized (state.handlerWrite index write.transferred) history := by
  obtain ⟨rfl, busy⟩ := serialized.channel.completed found stage
  refine ⟨.inl ⟨?_, rfl, ?_⟩, ?_, ?_⟩
  · simp [State.handlerWrite, busy.writes]
  · rw [busy.half]
    simp only [State.handlerWrite, consume, busy.stream, List.drop_drop,
      List.drop_eq_nil_iff]
    omega
  · have same : (state.holder.map Caller.notify).map Caller.chunk =
        state.holder.map Caller.chunk := by
      rw [Option.map_map]
      congr 1
      funext caller
      exact notify_chunk caller
    simp only [State.handlerWrite, same]
    exact serialized.passed
  · intro noneFailed
    have wire := serialized.wire noneFailed
    have whole := busy.whole noneFailed
    simpa [State.handlerWrite, unsent, busy.writes, whole] using wire

end Steps

/-! ## Runs -/

section Runs
variable (crc : List UInt8 → UInt32) (protobuf : Codecs)

/-- A step that starts no write out of order keeps the invariant. -/
theorem machine_kept (pair : State × History) (event : Event) (next : State × History)
    (serialized : Serialized pair.1 pair.2) (orderly : Orderly pair event)
    (taken : machine crc protobuf pair event = some next) : Serialized next.1 next.2 := by
  obtain ⟨state, history⟩ := pair
  obtain ⟨after, effects, stepped, rfl⟩ := observed_some taken
  cases event with
  | sendData s =>
      cases stepped
      exact sendData_kept serialized _
  | acquire index =>
      obtain ⟨_, acquired, same⟩ := Option.map_eq_some_iff.mp stepped
      cases same
      exact acquire_kept serialized index after acquired
  | test =>
      obtain ⟨_, tested, same⟩ := Option.map_eq_some_iff.mp stepped
      cases same
      exact test_kept serialized after tested
  | enterWait =>
      obtain ⟨_, entered, same⟩ := Option.map_eq_some_iff.mp stepped
      cases same
      exact enterWait_kept serialized after entered
  | wake cause =>
      obtain ⟨_, woken, same⟩ := Option.map_eq_some_iff.mp stepped
      cases same
      exact wake_kept serialized cause after woken
  | startWrite =>
      simp only [step] at stepped
      split at stepped
      case h_2 => contradiction
      case h_1 chunk holds =>
        cases stepped
        have kept := startWrite_kept serialized chunk holds orderly
        simpa [note, holds] using kept
  | transfer index count =>
      simp only [step] at stepped
      split at stepped
      case h_2 => contradiction
      case h_1 write found =>
        obtain ⟨⟨stage, room⟩, same⟩ := of_guard stepped
        cases same
        exact transfer_kept serialized index count write found stage room
  | complete index code =>
      simp only [step] at stepped
      split at stepped
      case h_2 => contradiction
      case h_1 write found =>
        obtain ⟨stage, same⟩ := of_guard stepped
        cases same
        have kept := complete_kept serialized index code write found stage
        simpa [note, found] using kept
  | handlerWrite index =>
      simp only [step] at stepped
      split at stepped
      case h_2 => contradiction
      case h_1 content transferred code found =>
        cases stepped
        exact handlerWrite_kept serialized index _ found (by simp)
  | close =>
      cases stepped
      exact serialized.caller _ _ _ _ serialized.passed

/-- At a start the condition is the property; elsewhere both are vacuous. -/
theorem startsAlone_iff_orderly (pair : State × History) (event : Event)
    (next : State × History) (serialized : Serialized pair.1 pair.2)
    (taken : machine crc protobuf pair event = some next) :
    StartsAlone pair event ↔ Orderly pair event := by
  by_cases starts : event = .startWrite
  case neg =>
    exact iff_of_true (fun same => absurd same starts) fun same => absurd same starts
  subst starts
  obtain ⟨after, effects, stepped, _⟩ := observed_some taken
  simp only [step] at stepped
  split at stepped
  case h_2 => contradiction
  case h_1 chunk holds =>
    exact startsAlone_iff pair.1 pair.2 chunk serialized.channel holds

theorem wireInOrder_of_serialized (pair : State × History)
    (serialized : Serialized pair.1 pair.2) (noneFailed : NoWriteFailed pair.2) :
    WireInOrder pair.1 pair.2 :=
  ⟨serialized.passed, serialized.wire noneFailed⟩

theorem guarded_startsAlone_iff (events : List Event) :
    Guarded (machine crc protobuf) StartsAlone start events ↔
      Guarded (machine crc protobuf) Orderly start events := by
  apply guarded_congr (fun _ => True)
    (fun pair event next _ => machine_kept crc protobuf pair event next) _ start_serialized
  · intro _ _
    trivial
  · intro pair event next _ serialized taken
    exact startsAlone_iff_orderly crc protobuf pair event next serialized taken

/-- In the run every write starts alone, and as long as no write fails the wire
carries whole frames in the order of the callers. -/
def WritesSerialized (events : List Event) : Prop :=
  Guarded (machine crc protobuf) StartsAlone start events ∧
    Throughout (machine crc protobuf)
      (fun pair => NoWriteFailed pair.2 → WireInOrder pair.1 pair.2) start events

/-- Writes are serialized in a run exactly when each of them starts orderly. -/
theorem writes_serialized_iff (events : List Event) :
    WritesSerialized crc protobuf events ↔
      Guarded (machine crc protobuf) Orderly start events := by
  constructor
  · intro serialized
    exact (guarded_startsAlone_iff crc protobuf events).mp serialized.1
  · intro orderly
    have throughout := throughout_of_guarded (fun _ => True)
      (fun pair event next _ => machine_kept crc protobuf pair event next) start_serialized
      (fun _ _ => trivial) orderly
    exact ⟨(guarded_startsAlone_iff crc protobuf events).mpr orderly,
      throughout.mono wireInOrder_of_serialized⟩

end Runs

/-- Two callers; the wait of the second ends spuriously while the first write is
in progress. -/
def spuriousWake : List Event :=
  [.sendData [0x41], .sendData [0x42], .acquire 0, .test, .startWrite, .acquire 0, .test,
    .enterWait, .wake .spurious, .startWrite]

theorem spuriousWake_overlaps :
    ((run (machine Lib.Crc32.crc32 wire) start spuriousWake).map fun pair =>
      pair.1.writes.length) = some 2 ∧
      ¬ WritesSerialized Lib.Crc32.crc32 wire spuriousWake := by
  refine ⟨by decide +kernel, ?_⟩
  intro serialized
  have orderly := (guarded_startsAlone_iff Lib.Crc32.crc32 wire spuriousWake).mp serialized.1
  exact absurd orderly (by decide +kernel)

end Emserver.TcpSession.Sending
