import Emserver.Lib.Runs

/-!
# Refinement

A machine refines another one under a view of its states if each of its steps is a
step of the other one or leaves the view as it is.  The run of the other machine is
that of the events the steps stand for.
-/

set_option autoImplicit false

namespace Lib.Refinement

open Lib.Runs

universe u v w x
variable {S : Type u} {E : Type v} {A : Type w} {F : Type x}

/-- What a step is to the abstract machine. -/
def Matched (abstract : A → F → Option A) (before after : A) : Option F → Prop
  | none => after = before
  | some event => abstract before event = some after

theorem run_matched {step : S → E → Option S} {abstract : A → F → Option A} {view : S → A}
    {label : E → Option F} {property : S → Prop}
    (matched : ∀ state event next, property state → property next →
      step state event = some next → Matched abstract (view state) (view next) (label event))
    {start final : S} {events : List E} (throughout : Throughout step property start events)
    (ran : run step start events = some final) :
    run abstract (view start) (events.filterMap label) = some (view final) := by
  induction events generalizing start with
  | nil =>
      cases ran
      rfl
  | cons event rest ih =>
      rw [run] at ran
      obtain ⟨next, taken, ran⟩ := Option.bind_eq_some_iff.mp ran
      have later := throughout.2 next taken
      have here := matched start event next throughout.1 later.start taken
      have tail := ih later ran
      cases labelled : label event with
      | none =>
          rw [labelled] at here
          rw [List.filterMap_cons_none labelled, ← tail]
          exact congrArg (fun seen => run abstract seen (rest.filterMap label)) here.symm
      | some move =>
          rw [labelled] at here
          rw [List.filterMap_cons_some labelled, run_cons abstract _ _ _ _ here]
          exact tail

/-- A machine that notes a history takes the steps of the machine without. -/
theorem run_noted {H : Type w} {step : S → E → Option S} {noted : S × H → E → Option (S × H)}
    (notes : ∀ pair event next, step pair.1 event = some next →
      ∃ history, noted pair event = some (next, history))
    (start : S × H) {final : S} {events : List E} (ran : run step start.1 events = some final) :
    ∃ history, run noted start events = some (final, history) := by
  induction events generalizing start with
  | nil =>
      cases ran
      exact ⟨start.2, rfl⟩
  | cons event rest ih =>
      rw [run] at ran
      obtain ⟨next, taken, ran⟩ := Option.bind_eq_some_iff.mp ran
      obtain ⟨history, same⟩ := notes start event next taken
      rw [run_cons noted _ _ _ _ same]
      exact ih (next, history) ran

end Lib.Refinement
