import Emserver.Lib.Runs
import Emserver.TcpSession

/-!
# Receiving

`TcpSession::waitReading` and `TcpSession::handlerRead`
(`common/src/tcpsession.cpp`) against the network, which may bring more bytes at
any moment.

The handler asks how much is unread and either reads exactly that much more or,
if there was nothing, hands the buffer over and reads one byte.  What it asked
for has already arrived, so a read never waits with something in the buffer.
-/

set_option autoImplicit false

namespace Emserver.TcpSession.Receiving

open Lib.Runs

/-- The outstanding `async_read` with what it has left to transfer, its handler
queued, or the handler past the call of `available()`. -/
inductive Phase where
  | idle
  | reading (remaining : Nat)
  | completed (code : Option ErrorCode)
  | running (avaliableBytes : Nat)
  deriving DecidableEq

/-- The bytes that arrived and were not read, and `m_buffer`. -/
structure State where
  unread : List UInt8
  buffer : List UInt8
  phase : Phase
  deriving DecidableEq

inductive Effect where
  | onReadedChunk (chunk : List UInt8)
  | onSessionError (code : ErrorCode)
  deriving DecidableEq

inductive Event where
  | arrive (bytes : List UInt8)
  | transfer (count : Nat)
  | fail (code : ErrorCode)
  | handlerRead
  | readNext
  deriving DecidableEq

def State.waitReading (state : State) : State := { state with phase := .reading 1 }

/-- Some of the bytes asked for move to the buffer; with the last of them the
handler is queued. -/
def State.transfer (state : State) (remaining count : Nat) : State where
  unread := state.unread.drop count
  buffer := state.buffer ++ state.unread.take count
  phase := if count = remaining then .completed none else .reading (remaining - count)

/-- `handlerRead` up to the call of `available()`, or to its return after an error. -/
def State.handlerRead (state : State) (code : Option ErrorCode) : State × List Effect :=
  match code with
  | some code =>
      ({ state with phase := .idle }, (forwarded code).toList.map Effect.onSessionError)
  | none => ({ state with phase := .running state.unread.length }, [])

/-- The rest of `handlerRead`. -/
def State.readNext (state : State) (avaliableBytes : Nat) : State × List Effect :=
  if avaliableBytes = 0 then
    ({ state with buffer := [], phase := .reading 1 }, [.onReadedChunk state.buffer])
  else ({ state with phase := .reading avaliableBytes }, [])

def step (state : State) : Event → Option (State × List Effect)
  | .arrive bytes => some ({ state with unread := state.unread ++ bytes }, [])
  | .transfer count =>
      match state.phase with
      | .reading remaining =>
          if 0 < count ∧ count ≤ remaining ∧ count ≤ state.unread.length then
            some (state.transfer remaining count, [])
          else none
      | _ => none
  | .fail code =>
      match state.phase with
      | .reading _ => some ({ state with phase := .completed (some code) }, [])
      | _ => none
  | .handlerRead =>
      match state.phase with
      | .completed code => some (state.handlerRead code)
      | _ => none
  | .readNext =>
      match state.phase with
      | .running avaliableBytes => some (state.readNext avaliableBytes)
      | _ => none

/-! ## What is noted of a run -/

/-- All bytes that arrived, and the chunks passed to `onReadedChunk`. -/
structure History where
  arrived : List UInt8
  chunks : List (List UInt8)
  deriving DecidableEq

def Event.bytes : Event → List UInt8
  | .arrive bytes => bytes
  | _ => []

def Effect.chunk : Effect → Option (List UInt8)
  | .onReadedChunk chunk => some chunk
  | .onSessionError _ => none

def note (_state : State) (event : Event) (effects : List Effect) (history : History) :
    History where
  arrived := history.arrived ++ event.bytes
  chunks := history.chunks ++ effects.filterMap Effect.chunk

def machine : State × History → Event → Option (State × History) :=
  observed step note

/-- `waitReading` of a session where some bytes may have arrived before. -/
def start (early : List UInt8) : State × History :=
  (State.waitReading ⟨early, [], .idle⟩, ⟨early, []⟩)

def Event.ErrorFree (event : Event) : Prop := ∀ code, event ≠ .fail code

/-! ## The property and the invariant -/

def Phase.Handling : Phase → Prop
  | .completed _ => True
  | .running _ => True
  | _ => False

structure NothingLost (state : State) (history : History) : Prop where
  order : history.chunks.flatten ++ state.buffer ++ state.unread = history.arrived
  nonempty : ∀ chunk ∈ history.chunks, chunk ≠ []
  delivered : ¬ state.phase.Handling → state.unread = [] → state.buffer = []

/-- A read behind a filled buffer is for bytes that are there, and a handler runs
behind a filled buffer only. -/
def Covered (state : State) : Prop :=
  match state.phase with
  | .idle => False
  | .reading remaining =>
      (state.buffer = [] ∧ remaining = 1) ∨
        (0 < remaining ∧ remaining ≤ state.unread.length)
  | .completed code => code = none ∧ state.buffer ≠ []
  | .running avaliableBytes => state.buffer ≠ [] ∧ avaliableBytes ≤ state.unread.length

structure Conserved (state : State) (history : History) : Prop where
  order : history.chunks.flatten ++ state.buffer ++ state.unread = history.arrived
  nonempty : ∀ chunk ∈ history.chunks, chunk ≠ []
  covered : Covered state

theorem start_conserved (early : List UInt8) : Conserved (start early).1 (start early).2 where
  order := rfl
  nonempty := nofun
  covered := .inl ⟨rfl, rfl⟩

section Phases
variable {state : State} {history : History} (conserved : Conserved state history)
include conserved

theorem Conserved.busy : state.phase ≠ .idle := by
  intro phase
  have covered := conserved.covered
  simp [Covered, phase] at covered

theorem Conserved.reading {remaining : Nat} (phase : state.phase = .reading remaining) :
    (state.buffer = [] ∧ remaining = 1) ∨
      (0 < remaining ∧ remaining ≤ state.unread.length) := by
  simpa [Covered, phase] using conserved.covered

theorem Conserved.completed {code : Option ErrorCode} (phase : state.phase = .completed code) :
    code = none ∧ state.buffer ≠ [] := by
  simpa [Covered, phase] using conserved.covered

theorem Conserved.running {avaliableBytes : Nat}
    (phase : state.phase = .running avaliableBytes) :
    state.buffer ≠ [] ∧ avaliableBytes ≤ state.unread.length := by
  simpa [Covered, phase] using conserved.covered

theorem Conserved.nothingLost : NothingLost state history := by
  refine ⟨conserved.order, conserved.nonempty, ?_⟩
  intro waiting drained
  cases phase : state.phase with
  | idle => exact absurd phase conserved.busy
  | reading remaining =>
      rcases conserved.reading phase with ⟨empty, _⟩ | ⟨positive, there⟩
      · exact empty
      · rw [drained, List.length_nil] at there
        omega
  | completed code =>
      rw [phase] at waiting
      exact absurd trivial waiting
  | running avaliableBytes =>
      rw [phase] at waiting
      exact absurd trivial waiting

end Phases

/-! ## Steps -/

section Steps
variable {state : State} {history : History} (conserved : Conserved state history)
include conserved

theorem arrive_conserved (bytes : List UInt8) :
    Conserved { state with unread := state.unread ++ bytes }
      ⟨history.arrived ++ bytes, history.chunks⟩ := by
  refine ⟨?_, conserved.nonempty, ?_⟩
  · rw [← conserved.order]
    simp
  · cases phase : state.phase with
    | idle => exact absurd phase conserved.busy
    | reading remaining =>
        simp only [Covered, List.length_append]
        rcases conserved.reading phase with initial | ⟨positive, there⟩
        · exact .inl initial
        · exact .inr ⟨positive, by omega⟩
    | completed code => exact conserved.completed phase
    | running avaliableBytes =>
        simp only [Covered, List.length_append]
        obtain ⟨filled, there⟩ := conserved.running phase
        exact ⟨filled, by omega⟩

theorem transfer_conserved (remaining count : Nat) (phase : state.phase = .reading remaining)
    (positive : 0 < count) (wanted : count ≤ remaining) (there : count ≤ state.unread.length) :
    Conserved (state.transfer remaining count) history := by
  refine ⟨?_, conserved.nonempty, ?_⟩
  · rw [← conserved.order, State.transfer]
    simp
  · have filled : state.buffer ++ state.unread.take count ≠ [] := by
      intro nothing
      have lengths := congrArg List.length nothing
      rw [List.length_append, List.length_take, List.length_nil] at lengths
      omega
    have asked := conserved.reading phase
    by_cases last : count = remaining
    · simp only [Covered, State.transfer, last, if_true]
      rw [last] at filled
      exact ⟨trivial, filled⟩
    · simp only [Covered, State.transfer, last, if_false, List.length_drop]
      right
      omega

theorem handlerRead_conserved (phase : state.phase = .completed none) :
    Conserved { state with phase := .running state.unread.length } history :=
  ⟨conserved.order, conserved.nonempty, (conserved.completed phase).2, Nat.le_refl _⟩

/-- The handler found nothing unread: the buffer is handed over. -/
theorem deliver_conserved (avaliableBytes : Nat)
    (phase : state.phase = .running avaliableBytes) :
    Conserved { state with buffer := [], phase := .reading 1 }
      ⟨history.arrived, history.chunks ++ [state.buffer]⟩ := by
  refine ⟨?_, ?_, .inl ⟨rfl, rfl⟩⟩
  · rw [← conserved.order]
    simp
  · intro chunk member
    rcases List.mem_append.mp member with before | handed
    · exact conserved.nonempty chunk before
    · rw [List.mem_singleton.mp handed]
      exact (conserved.running phase).1

theorem readMore_conserved (avaliableBytes : Nat)
    (phase : state.phase = .running avaliableBytes) (some : avaliableBytes ≠ 0) :
    Conserved { state with phase := .reading avaliableBytes } history := by
  obtain ⟨_, there⟩ := conserved.running phase
  exact ⟨conserved.order, conserved.nonempty, .inr ⟨by omega, there⟩⟩

end Steps

theorem machine_conserved (before : State × History) (event : Event)
    (after : State × History) (errorFree : event.ErrorFree)
    (conserved : Conserved before.1 before.2) (taken : machine before event = some after) :
    Conserved after.1 after.2 := by
  obtain ⟨next, effects, stepped, rfl⟩ := observed_some taken
  cases event with
  | arrive bytes =>
      cases stepped
      simpa [note, Event.bytes] using arrive_conserved conserved bytes
  | transfer count =>
      cases phase : before.1.phase <;> simp only [step, phase] at stepped
      case reading remaining =>
        obtain ⟨⟨positive, wanted, there⟩, moved⟩ := of_guard stepped
        cases moved
        simpa [note, Event.bytes] using
          transfer_conserved conserved remaining count phase positive wanted there
      all_goals contradiction
  | fail code => exact absurd rfl (errorFree code)
  | handlerRead =>
      cases phase : before.1.phase <;> simp only [step, phase] at stepped
      case completed code =>
        obtain ⟨rfl, _⟩ := conserved.completed phase
        cases stepped
        simpa [note, Event.bytes] using handlerRead_conserved conserved phase
      all_goals contradiction
  | readNext =>
      cases phase : before.1.phase <;> simp only [step, phase] at stepped
      case running avaliableBytes =>
        by_cases nothing : avaliableBytes = 0
        · simp only [State.readNext, nothing, if_true] at stepped
          cases stepped
          simpa [note, Event.bytes, Effect.chunk] using
            deliver_conserved conserved avaliableBytes phase
        · simp only [State.readNext, nothing, if_false] at stepped
          cases stepped
          simpa [note, Event.bytes] using
            readMore_conserved conserved avaliableBytes phase nothing
      all_goals contradiction

/-- No byte is lost, reordered or stranded in any run without an error. -/
theorem nothing_lost (early : List UInt8) (events : List Event)
    (errorFree : ∀ event ∈ events, event.ErrorFree) :
    Throughout machine (fun reached => NothingLost reached.1 reached.2) (start early) events := by
  have kept : Throughout machine (fun reached => Conserved reached.1 reached.2) (start early)
      events :=
    throughout_of_kept machine_conserved (start_conserved early) errorFree
  exact kept.mono fun reached conserved => conserved.nothingLost

/-- Bytes that arrive behind a completed read, and more behind `available()`. -/
def twoArrivals : List Event :=
  [.arrive [1], .transfer 1, .arrive [2, 3], .handlerRead, .arrive [4], .readNext,
    .transfer 2, .handlerRead, .readNext, .transfer 1, .handlerRead, .readNext]

theorem nothing_lost_twoArrivals :
    run machine (start []) twoArrivals =
        some (⟨[], [], .reading 1⟩, ⟨[1, 2, 3, 4], [[1, 2, 3, 4]]⟩) ∧
      NothingLost ⟨[], [], .reading 1⟩ ⟨[1, 2, 3, 4], [[1, 2, 3, 4]]⟩ := by
  have ran : run machine (start []) twoArrivals =
      some (⟨[], [], .reading 1⟩, ⟨[1, 2, 3, 4], [[1, 2, 3, 4]]⟩) := by decide
  have errorFree : ∀ event ∈ twoArrivals, event.ErrorFree := by
    intro event member code failed
    rw [failed] at member
    simp [twoArrivals] at member
  exact ⟨ran, (nothing_lost [] twoArrivals errorFree).final ran⟩

end Emserver.TcpSession.Receiving
