import Emserver.Lib.Runs

/-!
# Bounded progress

A potential bounds the work of a run: every event has a cost that the potential
pays, and may raise it by a gain.
-/

set_option autoImplicit false

namespace Lib.Progress

open Lib.Runs

universe u v
variable {S : Type u} {E : Type v}

def total (amount : E → Nat) : List E → Nat
  | [] => 0
  | event :: rest => amount event + total amount rest

@[simp] theorem total_nil (amount : E → Nat) : total amount [] = 0 := rfl

@[simp] theorem total_cons (amount : E → Nat) (event : E) (rest : List E) :
    total amount (event :: rest) = amount event + total amount rest := rfl

@[simp] theorem total_zero (events : List E) : total (fun _ => 0) events = 0 := by
  induction events with
  | nil => rfl
  | cons event rest ih => rw [total_cons, ih]

/-- Where the invariant and the guard hold, a step keeps the invariant and its cost
is paid by the potential and the gain. -/
structure Bounded (step : S → E → Option S) (invariant : S → Prop) (guard : S → E → Prop)
    (cost gain : E → Nat) (potential : S → Nat) : Prop where
  kept : ∀ state event next, invariant state → guard state event →
    step state event = some next → invariant next
  paid : ∀ state event next, invariant state → guard state event →
    step state event = some next → cost event + potential next ≤ potential state + gain event

section Bound
variable {step : S → E → Option S} {invariant : S → Prop} {guard : S → E → Prop}
variable {cost gain : E → Nat} {potential : S → Nat}

/-- The cost of a guarded run is paid by the potential it starts with and its gains. -/
theorem Bounded.run_paid (bounded : Bounded step invariant guard cost gain potential)
    {state final : S} {events : List E} (start : invariant state)
    (guarded : Guarded step guard state events) (ran : run step state events = some final) :
    invariant final ∧
      total cost events + potential final ≤ potential state + total gain events := by
  induction events generalizing state with
  | nil =>
      cases ran
      exact ⟨start, by simp⟩
  | cons event rest ih =>
      rw [run] at ran
      obtain ⟨next, taken, ran⟩ := Option.bind_eq_some_iff.mp ran
      obtain ⟨here, later⟩ := guarded next taken
      obtain ⟨kept, paid⟩ := ih (bounded.kept state event next start here taken) later ran
      have first := bounded.paid state event next start here taken
      refine ⟨kept, ?_⟩
      rw [total_cons, total_cons]
      omega

end Bound

end Lib.Progress
