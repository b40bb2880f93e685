import Emserver.Lib.Runs

/-!
# Machines that are closed

A machine with effects that can be closed and opened again.  A watcher notes
whether it is closed and which effects it has had since that a closed machine
must not have.  `quiescent` states keep still until the machine is opened, so a
close is final when it returns in one; when every other state breaks the
property in some future, it is final only then.
-/

set_option autoImplicit false

namespace Lib.Closing

open Lib.Runs

universe u v w

/-- `reopens` are the events that open the machine, `returns` those with which a
close returns, and `loud` the effects that a closed machine must not have. -/
structure Machine (S : Type u) (E : Type v) (O : Type w) where
  step : S → E → Option (S × List O)
  reopens : E → Bool
  returns : E → Bool
  loud : O → Bool

structure Watch (O : Type w) where
  closed : Bool
  late : List O
  deriving DecidableEq

section Watching
variable {S : Type u} {E : Type v} {O : Type w} (machine : Machine S E O)

def Machine.watch (_before : S) (event : E) (effects : List O) (watch : Watch O) : Watch O :=
  if machine.reopens event then ⟨false, []⟩
  else if machine.returns event then { watch with closed := true }
  else if watch.closed then
    { watch with late := watch.late ++ effects.filter machine.loud }
  else watch

def Machine.watched : S × Watch O → E → Option (S × Watch O) :=
  observed machine.step machine.watch

/-- The close returned: none of the events opens the machine. -/
def Machine.Unopened (events : List E) : Prop := ∀ event ∈ events, machine.reopens event = false

instance (events : List E) : Decidable (machine.Unopened events) := by
  unfold Machine.Unopened
  infer_instance

/-- A state from which only opening leads away, and silently. -/
def Machine.Absorbing (quiescent : S → Prop) : Prop :=
  ∀ state event next effects, quiescent state → machine.step state event = some (next, effects) →
    machine.reopens event = false → quiescent next ∧ effects.filter machine.loud = []

/-- While the machine is closed it is quiescent and has had no loud effect. -/
def Settled (quiescent : S → Prop) (pair : S × Watch O) : Prop :=
  pair.2.late = [] ∧ (pair.2.closed = true → quiescent pair.1)

variable {machine} {quiescent : S → Prop} (absorbing : machine.Absorbing quiescent)
include absorbing

theorem settled_step (pair : S × Watch O) (event : E) (after : S × Watch O)
    (settled : Settled quiescent pair) (guard : machine.returns event = true → quiescent pair.1)
    (taken : machine.watched pair event = some after) : Settled quiescent after := by
  obtain ⟨next, effects, stepped, rfl⟩ := observed_some taken
  obtain ⟨nothing, closed⟩ := settled
  unfold Settled Machine.watch
  split
  · exact ⟨rfl, fun impossible => Bool.noConfusion impossible⟩
  rename_i opens
  have unopened : machine.reopens event = false := by simpa using opens
  split
  · rename_i returns
    exact ⟨nothing, fun _ =>
      (absorbing pair.1 event next effects (guard returns) stepped unopened).1⟩
  split
  · rename_i isClosed
    obtain ⟨still, silent⟩ :=
      absorbing pair.1 event next effects (closed isClosed) stepped unopened
    exact ⟨by simp [nothing, silent], fun _ => still⟩
  · exact ⟨nothing, fun isClosed => absurd isClosed ‹_›⟩

omit absorbing in
theorem closed_step (pair : S × Watch O) (event : E) (after : S × Watch O)
    (closed : pair.2.closed = true) (unopened : machine.reopens event = false)
    (taken : machine.watched pair event = some after) : after.2.closed = true := by
  obtain ⟨next, effects, _, rfl⟩ := observed_some taken
  simp only [Machine.watch, unopened, closed, Bool.false_eq_true, if_false, if_true]
  split <;> rfl

theorem settled_future (pair final : S × Watch O) (events : List E)
    (settled : Settled quiescent pair) (closed : pair.2.closed = true)
    (unopened : machine.Unopened events)
    (ran : run machine.watched pair events = some final) :
    Settled quiescent final ∧ final.2.closed = true := by
  induction events generalizing pair with
  | nil =>
      cases ran
      exact ⟨settled, closed⟩
  | cons event rest ih =>
      rw [run] at ran
      obtain ⟨next, taken, ran⟩ := Option.bind_eq_some_iff.mp ran
      have kept := settled_step absorbing pair event next settled (fun _ => settled.2 closed) taken
      have shut := unopened event List.mem_cons_self
      have stillClosed := closed_step pair event next closed shut taken
      exact ih next kept stillClosed
        (fun other member => unopened other (List.mem_cons_of_mem event member)) ran

theorem settled_throughout (start : S) (events : List E)
    (guarded : Guarded machine.watched
      (fun pair event => machine.returns event = true → quiescent pair.1)
      (start, ⟨false, []⟩) events) :
    Throughout machine.watched (Settled quiescent) (start, ⟨false, []⟩) events :=
  throughout_of_guarded (fun _ => True)
    (fun pair event after _ => settled_step absorbing pair event after)
    ⟨rfl, fun impossible => Bool.noConfusion impossible⟩ (fun _ _ => trivial) guarded

end Watching

/-! ## Futures that break a property -/

section Breaking
variable {S : Type u} {E : Type v} {O : Type w} {machine : Machine S E O}
variable {property : S × Watch O → Prop}

/-- Some future of the closed machine breaks the property. -/
def Breaks (machine : Machine S E O) (property : S × Watch O → Prop) (state : S) : Prop :=
  ∃ future final, machine.Unopened future ∧
    run machine.watched (state, ⟨true, []⟩) future = some final ∧ ¬ property final

theorem Breaks.already {state : S} (broken : ¬ property (state, ⟨true, []⟩)) :
    Breaks machine property state :=
  ⟨[], (state, ⟨true, []⟩), by simp [Machine.Unopened], rfl, broken⟩

theorem Breaks.now {state : S} (event : E) {outcome : S × List O}
    (stepped : machine.step state event = some outcome)
    (unopened : machine.reopens event = false) (notReturn : machine.returns event = false)
    (broken : ¬ property (outcome.1, ⟨true, outcome.2.filter machine.loud⟩)) :
    Breaks machine property state := by
  refine ⟨[event], (outcome.1, ⟨true, outcome.2.filter machine.loud⟩), ?_, ?_, broken⟩
  · intro other member
    rw [List.mem_singleton.mp member]
    exact unopened
  · simp [run, Machine.watched, observed, stepped, Machine.watch, unopened, notReturn]

theorem Breaks.later {state : S} (event : E) {outcome : S × List O}
    (stepped : machine.step state event = some outcome)
    (unopened : machine.reopens event = false) (notReturn : machine.returns event = false)
    (silent : outcome.2.filter machine.loud = []) (breaks : Breaks machine property outcome.1) :
    Breaks machine property state := by
  obtain ⟨future, final, unopenedFuture, ran, broken⟩ := breaks
  refine ⟨event :: future, final, ?_, ?_, broken⟩
  · intro other member
    rcases List.mem_cons.mp member with same | inside
    · rw [same]
      exact unopened
    · exact unopenedFuture other inside
  · rw [run_cons machine.watched _ (outcome.1, ⟨true, []⟩), ran]
    simp [Machine.watched, observed, stepped, Machine.watch, unopened, notReturn, silent]

/-- When quiescent states are absorbing and every other state breaks the
property, a close of a settled machine is final exactly when it returns in a
quiescent state. -/
theorem final_iff {quiescent : S → Prop} (absorbing : machine.Absorbing quiescent)
    (implied : ∀ state, quiescent state → property (state, ⟨true, []⟩))
    (breaks : ∀ state, ¬ quiescent state → Breaks machine property state)
    (start : S) (events : List E) (event : E)
    (returns : machine.returns event = true) (unopened : machine.reopens event = false)
    (settled : Throughout machine.watched (Settled quiescent) (start, ⟨false, []⟩) events)
    (closed : S × Watch O)
    (ran : run machine.watched (start, ⟨false, []⟩) (events ++ [event]) = some closed) :
    (∀ future final, machine.Unopened future →
      run machine.watched closed future = some final → property final) ↔ quiescent closed.1 := by
  rw [run_append] at ran
  obtain ⟨pair, before, last⟩ := Option.bind_eq_some_iff.mp ran
  rw [run] at last
  obtain ⟨after, taken, same⟩ := Option.bind_eq_some_iff.mp last
  cases same
  obtain ⟨next, effects, _, rfl⟩ := observed_some taken
  have nothing : pair.2.late = [] := (settled.final before).1
  have watching : machine.watch pair.1 event effects pair.2 = ⟨true, []⟩ := by
    simp [Machine.watch, unopened, returns, nothing]
  rw [watching]
  constructor
  · intro final
    by_contra active
    obtain ⟨future, reached, stays, ranOn, broken⟩ := breaks next active
    exact broken (final future reached stays ranOn)
  · rintro quiet future ⟨state, note⟩ stays ranOn
    obtain ⟨⟨silent, still⟩, isClosed⟩ := settled_future absorbing (next, ⟨true, []⟩)
      (state, note) future ⟨rfl, fun _ => quiet⟩ rfl stays ranOn
    obtain ⟨closed, late⟩ := note
    cases isClosed
    cases silent
    exact implied state (still rfl)

end Breaking
end Lib.Closing
