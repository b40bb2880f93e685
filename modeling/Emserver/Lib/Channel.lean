import Emserver.Lib.Runs

/-!
# Channels

A channel hands out what was put into it, in the same order and each message
once.  A machine with a list of what went in and a list of what came out runs as
a channel does if the lists only grow and the one is at all times a prefix of
the other.
-/

set_option autoImplicit false

namespace Lib.Channel

open Lib.Runs

universe u v w
variable {M : Type w} [DecidableEq M]

structure State (M : Type w) where
  sent : List M
  taken : Nat

inductive Event (M : Type w) where
  | send (message : M)
  | take (message : M)

def step (state : State M) : Event M → Option (State M)
  | .send message => some { state with sent := state.sent ++ [message] }
  | .take message =>
      if state.sent[state.taken]? = some message then
        some { state with taken := state.taken + 1 }
      else none

theorem run_sends (state : State M) (messages : List M) :
    run step state (messages.map .send) =
      some { state with sent := state.sent ++ messages } := by
  induction messages generalizing state with
  | nil => simp [run]
  | cons message rest ih =>
      rw [List.map_cons, run_cons step state _ _ _ rfl, ih, List.append_assoc]
      rfl

theorem run_takes (state : State M) (messages : List M)
    (inOrder : state.sent.take state.taken ++ messages <+: state.sent)
    (bound : state.taken ≤ state.sent.length) :
    run step state (messages.map .take) =
      some { state with taken := state.taken + messages.length } := by
  induction messages generalizing state with
  | nil => simp [run]
  | cons message rest ih =>
      have here : state.sent[state.taken]? = some message := by
        obtain ⟨left, whole⟩ := inOrder
        have position : (state.sent.take state.taken).length = state.taken := by
          rw [List.length_take, Nat.min_eq_left bound]
        rw [← whole, List.append_assoc, List.getElem?_append_right (Nat.le_of_eq position),
          position, Nat.sub_self]
        rfl
      have taken : step state (.take message) = some { state with taken := state.taken + 1 } :=
        if_pos here
      obtain ⟨less, _⟩ := List.getElem?_eq_some_iff.mp here
      have next : state.sent.take (state.taken + 1) ++ rest <+: state.sent := by
        rw [List.take_add_one, here, List.append_assoc]
        exact inOrder
      rw [List.map_cons, run_cons step state _ _ _ taken, ih { state with taken := state.taken + 1 } next less]
      simp [Nat.add_comm, Nat.add_left_comm]

section Machine
variable {S : Type u} {E : Type v}
variable (machine : S → E → Option S) (invariant : S → Prop) (sent got : S → List M)

/-- What a step puts in and takes out. -/
def between (state next : S) : List (Event M) :=
  ((sent next).drop (sent state).length).map .send ++
    ((got next).drop (got state).length).map .take

def trace : S → List E → List (Event M)
  | _, [] => []
  | state, event :: rest =>
      match machine state event with
      | none => []
      | some next => between sent got state next ++ trace next rest

/-- A step only adds to the two lists. -/
structure Logs : Prop where
  sent : ∀ state event next, invariant state → machine state event = some next →
    sent state <+: sent next
  got : ∀ state event next, invariant state → machine state event = some next →
    got state <+: got next

variable {machine invariant sent got} (logs : Logs machine invariant sent got)
include logs

theorem run_between (state next : S) (event : E) (holds : invariant state)
    (taken : machine state event = some next) (before : got state <+: sent state) (after : got next <+: sent next) :
    run step ⟨sent state, (got state).length⟩ (between sent got state next) =
      some ⟨sent next, (got next).length⟩ := by
  obtain ⟨put, sentNext⟩ := logs.sent state event next holds taken
  obtain ⟨out, gotNext⟩ := logs.got state event next holds taken
  rw [← sentNext] at after
  rw [between, ← sentNext, ← gotNext, List.drop_left, List.drop_left, run_append, run_sends,
    Option.bind_some]
  have shorter := before.length_le
  have past : (sent state ++ put).take (got state).length = got state := by
    rw [List.take_append_of_le_length shorter]
    exact (List.prefix_iff_eq_take.mp before).symm
  rw [run_takes]
  · simp
  · simp only [past]
    rwa [gotNext]
  · simp only [List.length_append]
    omega

/-- The machine runs as a channel. -/
theorem run_trace (start final : S) (events : List E)
    (inOrder : Throughout machine (fun state => invariant state ∧ got state <+: sent state)
      start events)
    (ran : run machine start events = some final) :
    run step ⟨sent start, (got start).length⟩ (trace machine sent got start events) =
      some ⟨sent final, (got final).length⟩ := by
  induction events generalizing start with
  | nil =>
      cases ran
      rfl
  | cons event rest ih =>
      rw [run] at ran
      obtain ⟨next, taken, ran⟩ := Option.bind_eq_some_iff.mp ran
      have later := inOrder.2 next taken
      have here := run_between logs start next event inOrder.1.1 taken inOrder.1.2
        later.start.2
      rw [trace, taken]
      simp only
      rw [run_append, here, Option.bind_some]
      exact ih next later ran

end Machine
end Lib.Channel
