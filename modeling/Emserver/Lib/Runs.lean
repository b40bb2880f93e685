import Mathlib.Data.List.Basic

/-!
# Runs of a guarded machine

A machine is a partial step function: `step state event = none` when the event
cannot happen.  `Throughout` says that a property holds in every state a run
visits, `Guarded` that every step of the run is taken where a condition on the
state and the event holds.  The rules reduce both to single steps.
-/

set_option autoImplicit false

namespace Lib.Runs

universe u v w
variable {S : Type u} {E : Type v}

/-- What a step that has a condition says when it is taken. -/
theorem of_guard {α : Type w} {condition : Prop} [Decidable condition] {outcome result : α}
    (taken : (if condition then some outcome else none) = some result) :
    condition ∧ outcome = result := by
  obtain ⟨holds, same⟩ := Option.ite_none_right_eq_some.mp taken
  exact ⟨holds, Option.some.inj same⟩

section Run
variable (step : S → E → Option S)

def run : S → List E → Option S
  | state, [] => some state
  | state, event :: rest => (step state event).bind fun next => run next rest

def Throughout (property : S → Prop) : S → List E → Prop
  | state, [] => property state
  | state, event :: rest =>
      property state ∧ ∀ next, step state event = some next → Throughout property next rest

def Guarded (guard : S → E → Prop) : S → List E → Prop
  | _, [] => True
  | state, event :: rest =>
      ∀ next, step state event = some next → guard state event ∧ Guarded guard next rest

theorem run_cons (state next : S) (event : E) (rest : List E)
    (taken : step state event = some next) :
    run step state (event :: rest) = run step next rest := by
  rw [run, taken, Option.bind_some]

theorem run_append (state : S) (past future : List E) :
    run step state (past ++ future) =
      (run step state past).bind fun reached => run step reached future := by
  induction past generalizing state with
  | nil => rfl
  | cons event rest ih =>
      rw [List.cons_append, run, run]
      cases step state event with
      | none => rfl
      | some next => exact ih next

variable {step}

/-- What every step does to a state, a run does, if it composes. -/
theorem run_related {related : S → S → Prop} (refl : ∀ state, related state state)
    (trans : ∀ {first second third}, related first second → related second third →
      related first third)
    (stepped : ∀ state event next, step state event = some next → related state next)
    {state final : S} {events : List E} (ran : run step state events = some final) :
    related state final := by
  induction events generalizing state with
  | nil =>
      cases ran
      exact refl _
  | cons event rest ih =>
      rw [run] at ran
      obtain ⟨next, taken, ran⟩ := Option.bind_eq_some_iff.mp ran
      exact trans (stepped state event next taken) (ih ran)

/-- `Throughout` speaks of the states behind every prefix of the run. -/
theorem throughout_iff (property : S → Prop) (state : S) (events : List E) :
    Throughout step property state events ↔
      ∀ past future reached, events = past ++ future → run step state past = some reached →
        property reached := by
  induction events generalizing state with
  | nil =>
      constructor
      · intro here past future reached split ran
        obtain ⟨rfl, rfl⟩ := List.append_eq_nil_iff.mp split.symm
        cases ran
        exact here
      · intro all
        exact all [] [] state rfl rfl
  | cons event rest ih =>
      constructor
      · rintro ⟨here, later⟩ past future reached split ran
        cases past with
        | nil =>
            cases ran
            exact here
        | cons first past =>
            obtain ⟨rfl, tail⟩ := List.cons.inj split
            rw [run] at ran
            obtain ⟨next, taken, ran⟩ := Option.bind_eq_some_iff.mp ran
            exact (ih next).mp (later next taken) past future reached tail ran
      · intro all
        refine ⟨all [] (event :: rest) state rfl rfl, fun next taken => (ih next).mpr ?_⟩
        intro past future reached split ran
        refine all (event :: past) future reached (by rw [split, List.cons_append]) ?_
        rw [run_cons step state next event past taken, ran]

theorem Throughout.start {property : S → Prop} {state : S} {events : List E}
    (throughout : Throughout step property state events) : property state := by
  cases events with
  | nil => exact throughout
  | cons event rest => exact throughout.1

theorem Throughout.mono {property weaker : S → Prop} {state : S} {events : List E}
    (throughout : Throughout step property state events)
    (weakens : ∀ reached, property reached → weaker reached) :
    Throughout step weaker state events := by
  rw [throughout_iff] at throughout ⊢
  intro past future reached split ran
  exact weakens reached (throughout past future reached split ran)

theorem Throughout.final {property : S → Prop} {state final : S} {events : List E}
    (throughout : Throughout step property state events)
    (ran : run step state events = some final) : property final :=
  (throughout_iff property state events).mp throughout events [] final
    (List.append_nil events).symm ran

theorem guarded_of_always {guard : S → E → Prop} (state : S) {events : List E}
    (always : ∀ event ∈ events, ∀ state, guard state event) :
    Guarded step guard state events := by
  induction events generalizing state with
  | nil => trivial
  | cons event rest ih =>
      intro next taken
      exact ⟨always event List.mem_cons_self state,
        ih next fun other member => always other (List.mem_cons_of_mem event member)⟩

theorem unguarded (state : S) (events : List E) :
    Guarded step (fun _ _ => True) state events :=
  guarded_of_always state fun _ _ _ => trivial

/-- The invariant rule: what every guarded step keeps holds throughout a guarded run. -/
theorem throughout_of_guarded (admitted : E → Prop) {guard : S → E → Prop}
    {invariant : S → Prop}
    (kept : ∀ state event next, admitted event → invariant state → guard state event →
      step state event = some next → invariant next)
    {state : S} {events : List E} (start : invariant state)
    (inside : ∀ event ∈ events, admitted event)
    (guarded : Guarded step guard state events) : Throughout step invariant state events := by
  induction events generalizing state with
  | nil => exact start
  | cons event rest ih =>
      refine ⟨start, fun next taken => ?_⟩
      obtain ⟨here, later⟩ := guarded next taken
      exact ih (kept state event next (inside event List.mem_cons_self) start here taken)
        (fun other member => inside other (List.mem_cons_of_mem event member)) later

theorem throughout_of_kept {invariant : S → Prop} {admitted : E → Prop}
    (kept : ∀ state event next, admitted event → invariant state →
      step state event = some next → invariant next)
    {state : S} {events : List E} (start : invariant state)
    (inside : ∀ event ∈ events, admitted event) : Throughout step invariant state events := by
  induction events generalizing state with
  | nil => exact start
  | cons event rest ih =>
      refine ⟨start, fun next taken => ?_⟩
      exact ih (kept state event next (inside event List.mem_cons_self) start taken)
        fun other member => inside other (List.mem_cons_of_mem event member)

/-- Where guarded steps keep an invariant and no other step leads to the
property, the property holds throughout a run exactly when the run is guarded. -/
theorem throughout_iff_guarded (admitted : E → Prop) {guard : S → E → Prop}
    {invariant property : S → Prop}
    (kept : ∀ state event next, admitted event → invariant state → guard state event →
      step state event = some next → invariant next)
    (implies : ∀ state, invariant state → property state)
    (needed : ∀ state event next, admitted event → invariant state →
      step state event = some next → property next → guard state event)
    {state : S} {events : List E} (start : invariant state)
    (inside : ∀ event ∈ events, admitted event) :
    Throughout step property state events ↔ Guarded step guard state events := by
  induction events generalizing state with
  | nil => exact ⟨fun _ => trivial, fun _ => implies state start⟩
  | cons event rest ih =>
      have here := inside event List.mem_cons_self
      have later : ∀ other ∈ rest, admitted other :=
        fun other member => inside other (List.mem_cons_of_mem event member)
      constructor
      · rintro ⟨_, throughout⟩ next taken
        have allowed := needed state event next here start taken (throughout next taken).start
        have after := kept state event next here start allowed taken
        exact ⟨allowed, (ih after later).mp (throughout next taken)⟩
      · intro guarded
        refine ⟨implies state start, fun next taken => ?_⟩
        obtain ⟨allowed, tail⟩ := guarded next taken
        exact (ih (kept state event next here start allowed taken) later).mpr tail

/-- Two conditions that agree where an invariant holds guard the same runs, if
steps that meet the one keep the invariant. -/
theorem guarded_congr (admitted : E → Prop) {guard other : S → E → Prop}
    {invariant : S → Prop}
    (kept : ∀ state event next, admitted event → invariant state → guard state event →
      step state event = some next → invariant next)
    (same : ∀ state event next, admitted event → invariant state →
      step state event = some next → (other state event ↔ guard state event))
    {state : S} {events : List E} (start : invariant state)
    (inside : ∀ event ∈ events, admitted event) :
    Guarded step other state events ↔ Guarded step guard state events := by
  induction events generalizing state with
  | nil => exact Iff.rfl
  | cons event rest ih =>
      have here := inside event List.mem_cons_self
      have later : ∀ next ∈ rest, admitted next :=
        fun next member => inside next (List.mem_cons_of_mem event member)
      constructor
      · intro guarded next taken
        obtain ⟨allowed, tail⟩ := guarded next taken
        have met := (same state event next here start taken).mp allowed
        exact ⟨met, (ih (kept state event next here start met taken) later).mp tail⟩
      · intro guarded next taken
        obtain ⟨met, tail⟩ := guarded next taken
        have allowed := (same state event next here start taken).mpr met
        exact ⟨allowed, (ih (kept state event next here start met taken) later).mpr tail⟩

theorem guarded_append {guard : S → E → Prop} {state reached : S} {past future : List E}
    (earlier : Guarded step guard state past) (ran : run step state past = some reached)
    (later : Guarded step guard reached future) :
    Guarded step guard state (past ++ future) := by
  induction past generalizing state with
  | nil =>
      cases ran
      exact later
  | cons event rest ih =>
      intro next taken
      obtain ⟨here, tail⟩ := earlier next taken
      rw [run_cons step state next event rest taken] at ran
      exact ⟨here, ih tail ran⟩

theorem Guarded.ahead {guard : S → E → Prop} {state : S} {past future : List E}
    (guarded : Guarded step guard state (past ++ future)) : Guarded step guard state past := by
  induction past generalizing state with
  | nil => trivial
  | cons event rest ih =>
      intro next taken
      obtain ⟨here, later⟩ := guarded next taken
      exact ⟨here, ih later⟩

theorem Guarded.behind {guard : S → E → Prop} {state reached : S} {past future : List E}
    (guarded : Guarded step guard state (past ++ future))
    (ran : run step state past = some reached) : Guarded step guard reached future := by
  induction past generalizing state with
  | nil =>
      cases ran
      exact guarded
  | cons event rest ih =>
      rw [run] at ran
      obtain ⟨next, taken, ran⟩ := Option.bind_eq_some_iff.mp ran
      exact ih (guarded next taken).2 ran

instance guardedDecidable (step : S → E → Option S) (guard : S → E → Prop)
    [∀ state event, Decidable (guard state event)] :
    (state : S) → (events : List E) → Decidable (Guarded step guard state events)
  | _, [] => .isTrue trivial
  | state, event :: rest =>
      match taken : step state event with
      | none => .isTrue (by simp [Guarded, taken])
      | some next =>
          let _ := guardedDecidable step guard next rest
          decidable_of_iff (guard state event ∧ Guarded step guard next rest) (by
            simp [Guarded, taken])

end Run

/-! ## Effects forgotten -/

section Effects
variable {O : Type w}

def stateStep (step : S → E → Option (S × List O)) (state : S) (event : E) : Option S :=
  (step state event).map Prod.fst

theorem stateStep_some {step : S → E → Option (S × List O)} {state next : S} {event : E}
    (taken : stateStep step state event = some next) :
    ∃ effects, step state event = some (next, effects) := by
  obtain ⟨⟨reached, effects⟩, stepped, rfl⟩ := Option.map_eq_some_iff.mp taken
  exact ⟨effects, stepped⟩

end Effects

/-! ## Observers

A machine whose steps have effects, run beside an observer that keeps notes. -/

section Observer
variable {O : Type w} {H : Type w}

def observed (step : S → E → Option (S × List O)) (note : S → E → List O → H → H)
    (pair : S × H) (event : E) : Option (S × H) :=
  (step pair.1 event).map fun (next, effects) => (next, note pair.1 event effects pair.2)

theorem observed_some {step : S → E → Option (S × List O)}
    {note : S → E → List O → H → H} {pair after : S × H} {event : E}
    (taken : observed step note pair event = some after) :
    ∃ next effects, step pair.1 event = some (next, effects) ∧
      after = (next, note pair.1 event effects pair.2) := by
  obtain ⟨⟨next, effects⟩, found, image⟩ := Option.map_eq_some_iff.mp taken
  exact ⟨next, effects, found, image.symm⟩

end Observer
end Lib.Runs
