import Emserver.CommonProcessor.Worker
import Emserver.Lib.Crc32
import Emserver.Lib.Progress
import Emserver.Protobuf.Wire

/-!
# No chunk stranded, and the end of the worker

A chunk is pushed and notified under the mutex, so the worker never sleeps
behind it.  The destructor sets `m_needExit` without the mutex, and its
notification can fall between the worker's test and its wait; the wait then ends
with the time-out.  Either way a bound on the worker's own steps holds whatever
the io thread does.
-/

set_option autoImplicit false

namespace Emserver.CommonProcessor.Worker

open Emserver.BaseProtocol
open Emserver.BufferProcessor
open Emserver.Protobuf
open Lib.Resync
open Lib.Runs
open Lib.Progress

/-- The mutex is held once, and the worker sleeps without a notification only
behind an empty queue. -/
structure Awake (state : State) : Prop where
  exclusive : state.control.Locked → ¬ state.acceptor.Locked
  asleep : state.control = .waiting false → state.acceptorBuffer = []
  exited : state.control = .exited → state.needExit = true

theorem awake_constructed : Awake constructed where
  exclusive locked := locked.elim
  asleep _ := rfl
  exited := nofun

theorem notify_locked (control : Control) : control.notify.Locked ↔ control.Locked := by
  cases control <;> exact Iff.rfl

theorem notify_awake (control : Control) : control.notify ≠ .waiting false := by
  cases control <;> simp [Control.notify]

theorem notify_exited (control : Control) : control.notify = .exited ↔ control = .exited := by
  cases control <;> simp [Control.notify]

section Awake
variable (crc : List UInt8 → UInt32) (protobuf : Codecs)

theorem Awake.advanced {state next : State} (awake : Awake state)
    (taken : Advanced crc protobuf state next) : Awake next := by
  cases taken with
  | locks control free => exact ⟨fun _ => free.2, nofun, nofun⟩
  | sleeps control nothing => exact ⟨False.elim, fun _ => nothing, nofun⟩
  | finds control queued =>
      refine ⟨fun _ => awake.exclusive ?_, nofun, nofun⟩
      rw [control]
      trivial
  | wakes control free => exact ⟨fun _ => free.2, nofun, nofun⟩
  | leaves control exiting => exact ⟨False.elim, nofun, fun _ => exiting⟩
  | _ => exact ⟨False.elim, nofun, nofun⟩

theorem step_awake (state : State) (event : Event) (next : State) (_admitted : True)
    (awake : Awake state) (taken : step crc protobuf state event = some next) : Awake next := by
  cases step_inv crc protobuf state event next taken with
  | registers => exact ⟨awake.exclusive, awake.asleep, awake.exited⟩
  | accepts chunk idle => exact ⟨fun _ => False.elim, awake.asleep, awake.exited⟩
  | locks chunk acceptor free =>
      exact ⟨fun locked => absurd locked free.1, awake.asleep, awake.exited⟩
  | pushes chunk acceptor =>
      exact ⟨fun _ => False.elim, fun sleeping => absurd sleeping (notify_awake _),
        fun ended => awake.exited ((notify_exited _).mp ended)⟩
  | advances _ advanced => exact awake.advanced crc protobuf advanced
  | wakes cause notified control => exact ⟨False.elim, nofun, nofun⟩
  | exits notCalled => exact ⟨awake.exclusive, awake.asleep, fun _ => rfl⟩
  | notifies notifying =>
      exact ⟨fun locked => awake.exclusive ((notify_locked _).mp locked),
        fun sleeping => absurd sleeping (notify_awake _),
        fun ended => awake.exited ((notify_exited _).mp ended)⟩
  | joins joining exited => exact ⟨awake.exclusive, awake.asleep, awake.exited⟩

theorem awake_throughout (events : List Event) :
    Throughout (step crc protobuf) Awake constructed events :=
  throughout_of_kept (step_awake crc protobuf) awake_constructed fun _ _ => trivial

end Awake

/-! ## The worker's own steps -/

def Event.own : Event → Nat
  | .advance => 1
  | .wake _ => 1
  | _ => 0

def Event.arriving : Event → Nat
  | .onReadedChunk chunk => chunk.length
  | _ => 0

def Acceptor.length : Acceptor → Nat
  | .idle => 0
  | .locking dataChunk => dataChunk.length
  | .holding dataChunk => dataChunk.length

/-- The bytes that have arrived and were not swapped out. -/
def State.unswapped (state : State) : Nat :=
  state.acceptorBuffer.flatten.length + state.acceptor.length

theorem messages_length (crc : List UInt8 → UInt32) (processor rest : Buffer)
    (chunks : List (List UInt8)) (messages : List Message)
    (scanned : (processor.appendBuffers chunks).messages crc = .ok (messages, rest)) :
    messages.length ≤ processor.processingBuffer.length + chunks.flatten.length := by
  rw [appendBuffers_eq, messages_ok_iff] at scanned
  obtain ⟨consumed, split, accounted, _⟩ :=
    drain_consumed (decodeFrame_canonical crc) _ messages _ scanned
  have few := accounted.length_le (decodeFrame_canonical crc).nonempty
  have lengths := congrArg List.length split
  simp only [List.length_append] at lengths
  omega

/-! ## A queued chunk is taken -/

/-- How many of its own steps the worker is away from the next swap. -/
def Control.stepsToSwap (control : Control) (buffered : Nat) : Nat :=
  match control with
  | .swapping => 1
  | .examining => 2
  | .relocking false => 2
  | .locking => 3
  | .testing => 4
  | .relocking true => 5
  | .waiting _ => 6
  | .handing messages => 5 + 2 * messages.length
  | .calling _ messages => 6 + 2 * messages.length
  | .unlocked chunks => 6 + 2 * (buffered + chunks.flatten.length)
  | .faulted _ => 0
  | .exited => 0

def State.stepsToSwap (state : State) : Nat :=
  state.control.stepsToSwap state.processor.processingBuffer.length

theorem notify_stepsToSwap (control : Control) (buffered : Nat) :
    control.notify.stepsToSwap buffered = control.stepsToSwap buffered := by
  cases control <;> rfl

/-- A chunk is queued and the worker goes on. -/
structure Queued (state : State) : Prop where
  awake : Awake state
  queued : state.acceptorBuffer ≠ []
  goesOn : state.needExit = false

/-- Neither the swap nor the end of the worker. -/
def Untaken (state : State) (event : Event) : Prop :=
  event ≠ .setNeedExit ∧ (event = .advance → state.control ≠ .swapping)

instance (state : State) (event : Event) : Decidable (Untaken state event) := by
  unfold Untaken
  infer_instance

section Swap
variable (crc : List UInt8 → UInt32) (protobuf : Codecs)

theorem Queued.advanced {state next : State} (queued : Queued state)
    (unswapped : state.control ≠ .swapping) (taken : Advanced crc protobuf state next) :
    next.acceptorBuffer ≠ [] ∧ next.needExit = false ∧
      1 + next.stepsToSwap ≤ state.stepsToSwap := by
  have there := queued.queued
  have goesOn := queued.goesOn
  cases taken
  case leaves control exiting => exact absurd (exiting.symm.trans goesOn) (by decide)
  case breaks message messages cmsg control unpacked exiting =>
    exact absurd (exiting.symm.trans goesOn) (by decide)
  case sleeps control nothing => exact absurd nothing there
  case swaps control => exact absurd control unswapped
  case scans chunks messages rest control registered scanned =>
    have few := messages_length crc state.processor rest chunks messages scanned
    refine ⟨there, goesOn, ?_⟩
    simp only [State.stepsToSwap, Control.stepsToSwap, control]
    omega
  all_goals
    refine ⟨there, goesOn, ?_⟩
    simp only [State.stepsToSwap, Control.stepsToSwap, List.length_cons, *]
    omega

theorem queued_bounded :
    Bounded (step crc protobuf) Queued Untaken Event.own (fun _ => 0) State.stepsToSwap := by
  have both : ∀ state event next, Queued state → Untaken state event →
      step crc protobuf state event = some next →
        next.acceptorBuffer ≠ [] ∧ next.needExit = false ∧
          event.own + next.stepsToSwap ≤ state.stepsToSwap := by
    intro state event next queued untaken taken
    have there := queued.queued
    have goesOn := queued.goesOn
    cases step_inv crc protobuf state event next taken with
    | registers => exact ⟨there, goesOn, by simp [Event.own, State.stepsToSwap]⟩
    | accepts chunk idle => exact ⟨there, goesOn, by simp [Event.own, State.stepsToSwap]⟩
    | locks chunk acceptor free => exact ⟨there, goesOn, by simp [Event.own, State.stepsToSwap]⟩
    | pushes chunk acceptor =>
        refine ⟨by simp, goesOn, ?_⟩
        simp [Event.own, State.stepsToSwap, notify_stepsToSwap]
    | advances _ advanced =>
        exact queued.advanced crc protobuf (untaken.2 rfl) advanced
    | wakes cause notified control =>
        refine ⟨there, goesOn, ?_⟩
        cases cause <;> simp [Event.own, State.stepsToSwap, Control.stepsToSwap, control]
    | exits notCalled => exact absurd rfl untaken.1
    | notifies notifying =>
        exact ⟨there, goesOn, by simp [Event.own, State.stepsToSwap, notify_stepsToSwap]⟩
    | joins joining exited => exact ⟨there, goesOn, by simp [Event.own, State.stepsToSwap]⟩
  constructor
  · intro state event next queued untaken taken
    obtain ⟨there, goesOn, _⟩ := both state event next queued untaken taken
    exact ⟨step_awake crc protobuf state event next trivial queued.awake taken, there, goesOn⟩
  · intro state event next queued untaken taken
    obtain ⟨_, _, paid⟩ := both state event next queued untaken taken
    exact paid

/-- The worker can take a step, or the io thread the one that frees the mutex. -/
def State.CanMove (state : State) (wake : Wake) : Prop :=
  (step crc protobuf state .advance).isSome ∨ (step crc protobuf state .pushChunk).isSome ∨
    (step crc protobuf state (.wake wake)).isSome

/-- Only the io thread keeps the worker from the mutex. -/
theorem canMove_of_lock (state : State) (wake : Wake) (unlocked : ¬ state.control.Locked)
    (advances : state.MutexFree → (step crc protobuf state .advance).isSome) :
    state.CanMove crc protobuf wake := by
  by_cases free : state.MutexFree
  · exact .inl (advances free)
  · right
    left
    have locked : state.acceptor.Locked := by
      by_contra unheld
      exact free ⟨unlocked, unheld⟩
    cases acceptor : state.acceptor with
    | idle => simp [acceptor, Acceptor.Locked] at locked
    | locking chunk => simp [acceptor, Acceptor.Locked] at locked
    | holding chunk => simp [step, State.pushChunk, acceptor]

theorem canMove (state : State) (wake : Wake)
    (wakes : ∀ notified, state.control = .waiting notified → wake = .notified → notified = true)
    (alive : ∀ fault, state.control ≠ .faulted fault) (goesOn : state.control ≠ .exited) :
    state.CanMove crc protobuf wake := by
  cases control : state.control with
  | locking =>
      refine canMove_of_lock crc protobuf state wake (by rw [control]; exact id) fun free => ?_
      simp [step, State.advance, control, free]
  | relocking timedOut =>
      refine canMove_of_lock crc protobuf state wake (by rw [control]; exact id) fun free => ?_
      simp [step, State.advance, control, free]
  | waiting notified =>
      right
      right
      have possible : ¬ (wake = .notified ∧ notified = false) := by
        rintro ⟨same, silent⟩
        exact absurd (wakes notified control same) (by simp [silent])
      simp [step, State.wake, control, possible]
  | faulted fault => exact absurd control (alive fault)
  | exited => exact absurd control goesOn
  | _ =>
      left
      simp [step, State.advance, control]

/-- While a chunk is queued the worker is not left asleep, and it swaps within a bounded
number of its own steps unless a scan of the bytes faults. -/
theorem chunk_taken (past future : List Event) (before after : State)
    (reached : Lib.Runs.run (step crc protobuf) constructed past = some before)
    (queued : before.acceptorBuffer ≠ []) (goesOn : before.needExit = false)
    (untaken : Guarded (step crc protobuf) Untaken before future)
    (ran : Lib.Runs.run (step crc protobuf) before future = some after) :
    total Event.own future + after.stepsToSwap ≤ before.stepsToSwap ∧
      ((∀ fault, after.control ≠ .faulted fault) → after.CanMove crc protobuf .notified) := by
  have awake := (awake_throughout crc protobuf past).final reached
  obtain ⟨kept, paid⟩ :=
    (queued_bounded crc protobuf).run_paid ⟨awake, queued, goesOn⟩ untaken ran
  constructor
  · simpa using paid
  · intro alive
    refine canMove crc protobuf after .notified ?_ alive ?_
    · intro notified waiting _
      by_contra silent
      rw [Bool.not_eq_true] at silent
      rw [silent] at waiting
      exact kept.queued (kept.awake.asleep waiting)
    · intro exited
      exact absurd (kept.awake.exited exited) (by simp [kept.goesOn])

/-- The chunk is pushed while the worker sleeps. -/
theorem chunk_taken_asleep :
    total Event.own [.wake .notified, .advance] + 1 ≤ 6 ∧
      ((∀ fault, (Control.swapping) ≠ .faulted fault) →
        State.CanMove Lib.Crc32.crc32 wire
          ⟨⟨[[7]], false, false, empty, []⟩, .swapping, .idle, .notCalled⟩ .notified) :=
  chunk_taken Lib.Crc32.crc32 wire
    [.advance, .advance, .advance, .onReadedChunk [7], .lockAcceptor, .pushChunk]
    [.wake .notified, .advance]
    ⟨⟨[[7]], false, false, empty, []⟩, .waiting true, .idle, .notCalled⟩
    ⟨⟨[[7]], false, false, empty, []⟩, .swapping, .idle, .notCalled⟩
    rfl (by decide) rfl (by decide) rfl

end Swap

/-! ## The end -/

/-- How many of its own steps the worker can take once `m_needExit` is set. -/
def Control.stepsToExit (control : Control) (buffered unswapped : Nat) : Nat :=
  match control with
  | .exited => 0
  | .faulted _ => 0
  | .testing => 1
  | .handing messages => 2 + messages.length
  | .calling _ messages => 3 + messages.length
  | .unlocked chunks => 3 + buffered + chunks.flatten.length
  | .swapping => 4 + buffered + unswapped
  | .relocking _ => 5 + buffered + unswapped
  | .waiting _ => 6 + buffered + unswapped
  | .examining => 7 + buffered + unswapped
  | .locking => 8 + buffered + unswapped

def State.stepsToExit (state : State) : Nat :=
  state.control.stepsToExit state.processor.processingBuffer.length state.unswapped

theorem notify_stepsToExit (control : Control) (buffered unswapped : Nat) :
    control.notify.stepsToExit buffered unswapped = control.stepsToExit buffered unswapped := by
  cases control <;> rfl

theorem stepsToExit_add (control : Control) (buffered unswapped more : Nat) :
    control.stepsToExit buffered (unswapped + more) ≤
      control.stepsToExit buffered unswapped + more := by
  cases control <;> simp only [Control.stepsToExit] <;> omega

/-- The message of the callback that is about to be called. -/
def Control.next : Control → List CommonMessage
  | .calling cmsg _ => [cmsg]
  | _ => []

theorem notify_next (control : Control) : control.notify.next = control.next := by
  cases control <;> rfl

section Exit
variable (crc : List UInt8 → UInt32) (protobuf : Codecs)

/-- Once `m_needExit` is set, every step of the worker is one step nearer to its end. -/
theorem advanced_exit {state next : State} (exiting : state.needExit = true)
    (taken : Advanced crc protobuf state next) :
    next.needExit = true ∧
      next.delivered ++ next.control.next = state.delivered ++ state.control.next ∧
      1 + next.stepsToExit ≤ state.stepsToExit := by
  cases taken
  case running control goesOn => exact absurd (exiting.symm.trans goesOn) (by decide)
  case hands message messages cmsg control unpacked goesOn =>
    exact absurd (exiting.symm.trans goesOn) (by decide)
  case scans chunks messages rest control registered scanned =>
    have few := messages_length crc state.processor rest chunks messages scanned
    refine ⟨exiting, by simp [Control.next, control], ?_⟩
    simp only [State.stepsToExit, Control.stepsToExit, control]
    omega
  all_goals
    refine ⟨exiting, by simp [Control.next, *], ?_⟩
    simp only [State.stepsToExit, Control.stepsToExit, State.unswapped, List.length_cons, *]
    omega

/-- `m_needExit` is set, and the callback has been called with `called` or is about
to be. -/
structure Exiting (called : List CommonMessage) (state : State) : Prop where
  awake : Awake state
  exiting : state.needExit = true
  called : state.delivered ++ state.control.next = called

theorem exiting_bounded (called : List CommonMessage) :
    Bounded (step crc protobuf) (Exiting called) (fun _ _ => True) Event.own Event.arriving
      State.stepsToExit := by
  have both : ∀ state event next, Exiting called state →
      step crc protobuf state event = some next →
        next.needExit = true ∧ next.delivered ++ next.control.next = called ∧
          event.own + next.stepsToExit ≤ state.stepsToExit + event.arriving := by
    intro state event next exiting taken
    have same := exiting.called
    have set := exiting.exiting
    cases step_inv crc protobuf state event next taken with
    | registers => exact ⟨set, same, by simp [Event.own, State.stepsToExit, State.unswapped]⟩
    | accepts chunk idle =>
        refine ⟨set, same, ?_⟩
        have more := stepsToExit_add state.control state.processor.processingBuffer.length
          state.unswapped chunk.length
        simpa [Event.own, Event.arriving, State.stepsToExit, State.unswapped, Acceptor.length,
          idle] using more
    | locks chunk acceptor free =>
        refine ⟨set, same, ?_⟩
        simp [Event.own, State.stepsToExit, State.unswapped, Acceptor.length, acceptor]
    | pushes chunk acceptor =>
        refine ⟨set, by rw [notify_next]; exact same, ?_⟩
        simp [Event.own, State.stepsToExit, State.unswapped, Acceptor.length, acceptor,
          notify_stepsToExit]
    | advances _ advanced =>
        obtain ⟨still, kept, paid⟩ := advanced_exit crc protobuf set advanced
        exact ⟨still, kept.trans same, paid⟩
    | wakes cause notified control =>
        refine ⟨set, ?_, ?_⟩
        · rw [control] at same
          exact same
        · simp only [Event.own, State.stepsToExit, Control.stepsToExit, State.unswapped, control]
          omega
    | exits notCalled =>
        exact ⟨rfl, same, by simp [Event.own, State.stepsToExit, State.unswapped]⟩
    | notifies notifying =>
        refine ⟨set, by rw [notify_next]; exact same, ?_⟩
        simp [Event.own, State.stepsToExit, State.unswapped, notify_stepsToExit]
    | joins joining exited =>
        exact ⟨set, same, by simp [Event.own, State.stepsToExit, State.unswapped]⟩
  constructor
  · intro state event next exiting _ taken
    obtain ⟨still, kept, _⟩ := both state event next exiting taken
    exact ⟨step_awake crc protobuf state event next trivial exiting.awake taken, still, kept⟩
  · intro state event next exiting _ taken
    exact (both state event next exiting taken).2.2

/-- Once `m_needExit` is set at most the callback that is about to be called is still
called, and the worker ends within a bounded number of its own steps unless a scan of
the bytes faults. -/
theorem shutdown (past future : List Event) (before after : State)
    (reached : Lib.Runs.run (step crc protobuf) constructed past = some before)
    (exiting : before.needExit = true)
    (ran : Lib.Runs.run (step crc protobuf) before future = some after) :
    total Event.own future + after.stepsToExit ≤
        before.stepsToExit + total Event.arriving future ∧
      after.delivered ++ after.control.next = before.delivered ++ before.control.next ∧
      ((∀ fault, after.control ≠ .faulted fault) →
        after.control = .exited ∨ after.CanMove crc protobuf .timedOut) := by
  have awake := (awake_throughout crc protobuf past).final reached
  obtain ⟨kept, paid⟩ := (exiting_bounded crc protobuf
    (before.delivered ++ before.control.next)).run_paid ⟨awake, exiting, rfl⟩
      (unguarded before future) ran
  refine ⟨paid, kept.called, fun alive => ?_⟩
  by_cases ended : after.control = .exited
  · exact .inl ended
  · exact .inr (canMove crc protobuf after .timedOut nofun alive ended)

/-- The destructor's notification falls between the worker's test and its wait. -/
def lostNotification : List Event := [.advance, .setNeedExit, .notifyExit, .advance, .advance]

example :
    (Lib.Runs.run (step Lib.Crc32.crc32 wire) constructed lostNotification).map
      State.control = some (.waiting false) := rfl

theorem shutdown_lostNotification :
    total Event.own [.wake .timedOut, .advance, .advance] + 0 ≤ 6 + 0 ∧
      ([] : List CommonMessage) ++ Control.exited.next = [] ++ (Control.waiting false).next ∧
      ((∀ fault, Control.exited ≠ .faulted fault) →
        Control.exited = .exited ∨
          State.CanMove Lib.Crc32.crc32 wire
            ⟨⟨[], true, false, empty, []⟩, .exited, .idle, .joining⟩ .timedOut) :=
  shutdown Lib.Crc32.crc32 wire lostNotification [.wake .timedOut, .advance, .advance]
    ⟨⟨[], true, false, empty, []⟩, .waiting false, .idle, .joining⟩
    ⟨⟨[], true, false, empty, []⟩, .exited, .idle, .joining⟩ rfl rfl rfl

end Exit

end Emserver.CommonProcessor.Worker
