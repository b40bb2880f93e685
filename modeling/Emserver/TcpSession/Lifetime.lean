import Emserver.Lib.Runs
import Emserver.TcpSession

/-!
# The lifetime of a session

`TcpSession` (`common/src/tcpsession.cpp`) hands its own buffers and a plain `this`
to `async_read` and `async_write`, and the owner of the session has the only
reference to it.  An owner that drops the reference while an operation is
outstanding, or its handler still to run, destroys the session under the
operation.  Since a read is always in flight, that is every owner that drops a
session whose own read has not failed.

An owner is a machine with at most one session.  It drops one, takes up another or
does neither in a step; the errors of its session are among its steps.  Between
taking a session up and its `waitReading` an owner may call user code.
-/

set_option autoImplicit false

namespace Emserver.TcpSession.Lifetime

open Lib.Runs

universe u v w
variable {S : Type u} {E : Type v} {O : Type w} {K : Type} [DecidableEq K]

/-! ## Operations -/

/-- Under way, or completed with the handler still to run. -/
inductive Operation where
  | outstanding
  | completed (code : Option ErrorCode)
  deriving DecidableEq

@[ext] structure Operations where
  reading : Option Operation
  writing : List Operation
  deriving DecidableEq

def Operations.none : Operations := ⟨Option.none, []⟩

def Operations.waitReading (operations : Operations) : Operations :=
  { operations with reading := some .outstanding }

/-! ## Owners -/

/-- `held` is the session in `m_session`, `isOpen` whether the socket of a session is,
and `onSessionError` the event of an error that its session reports.  `handles` are
the events of the io thread.  With `atOnce` a session is taken up and read from
with no user code in between. -/
structure Owner (S : Type u) (E : Type v) (O : Type w) (K : Type) where
  step : S → E → Option (S × List O)
  held : S → Option K
  isOpen : K → Bool
  onSessionError : ErrorCode → E
  ofSession : E → Bool
  handles : E → Bool
  atOnce : Bool

/-- `awaiting` means the io thread is about to call `waitReading`. -/
structure State (S : Type u) where
  owner : S
  operations : Operations
  awaiting : Bool
  dangling : Bool
  deriving DecidableEq

def begin (start : S) : State S := ⟨start, .none, false, false⟩

/-- `owner` is a step of the owner that no error of its session causes. -/
inductive Event (E : Type v) where
  | owner (event : E)
  | waitReading
  | sendData
  | readCompletes (code : Option ErrorCode)
  | writeCompletes (index : Nat) (code : Option ErrorCode)
  | handlerRead
  | handlerWrite (index : Nat)

section Machine
variable (owner : Owner S E O K)

/-- The owner has moved on: a session it no longer holds is destroyed with what is
left of its operations. -/
def State.settle (state : State S) (next : S) : State S :=
  if owner.held next = owner.held state.owner then { state with owner := next }
  else
    { owner := next
      operations := if (owner.held next).isSome ∧ owner.atOnce then Operations.none.waitReading
        else .none
      awaiting := (owner.held next).isSome && !owner.atOnce
      dangling := state.dangling || decide (state.operations ≠ .none) }

def State.move (state : State S) (event : E) : Option (State S) :=
  (owner.step state.owner event).map fun outcome => state.settle owner outcome.1

def sendData (operations : Operations) : Operations :=
  { operations with writing := operations.writing ++ [.outstanding] }

/-- `operation_aborted` comes of closing a socket only. -/
def step (state : State S) : Event E → Option (State S)
  | .owner event =>
      if owner.ofSession event = false ∧ (state.awaiting = true → owner.handles event = false) then
        state.move owner event
      else none
  | .waitReading =>
      if state.awaiting then
        some { state with operations := state.operations.waitReading, awaiting := false }
      else none
  | .sendData =>
      (owner.held state.owner).map fun session =>
        if owner.isOpen session then { state with operations := sendData state.operations }
        else state
  | .readCompletes code =>
      if state.operations.reading = some .outstanding ∧ code ≠ some .operationAborted then
        some { state with operations :=
          { state.operations with reading := some (.completed code) } }
      else none
  | .writeCompletes index code =>
      if state.operations.writing[index]? = some .outstanding ∧
          code ≠ some .operationAborted then
        some { state with operations :=
          { state.operations with
            writing := state.operations.writing.set index (.completed code) } }
      else none
  | .handlerRead =>
      match state.operations.reading with
      | some (.completed none) => some { state with operations := state.operations.waitReading }
      | some (.completed (some code)) =>
          State.move owner { state with operations := { state.operations with reading := none } }
            (owner.onSessionError code)
      | _ => none
  | .handlerWrite index =>
      if state.awaiting then none
      else match state.operations.writing[index]? with
      | some (.completed code) =>
          let left := { state with operations :=
            { state.operations with writing := state.operations.writing.eraseIdx index } }
          match code with
          | none => some left
          | some code => State.move owner left (owner.onSessionError code)
      | _ => none

/-- The condition on a step: an error is that of the read, with no write left.  For a
step of the owner it is `allowed`. -/
def Clean (allowed : State S → E → Prop) (state : State S) : Event E → Prop
  | .owner event => allowed state event
  | .handlerRead => ∀ code, state.operations.reading = some (.completed (some code)) →
      state.operations.writing = []
  | .handlerWrite index => ∀ code,
      state.operations.writing[index]? ≠ some (.completed (some code))
  | _ => True

/-- There is no session, or it is not read from yet and has no write. -/
def Unused (state : State S) : Prop :=
  owner.held state.owner = none ∨ (state.awaiting = true ∧ state.operations.writing = [])

/-- The owner keeps a session that is in use. -/
def Keeps (state : State S) (event : E) : Prop :=
  ∀ next effects, owner.step state.owner event = some (next, effects) →
    owner.held next = owner.held state.owner ∨ Unused owner state

/-- The events in `takes` find no session in use. -/
def Spares (takes : E → Bool) (state : State S) (event : E) : Prop :=
  takes event = true → Unused owner state

/-- An error of its session, other than `operation_aborted`, makes the owner drop it. -/
def Owner.Drops : Prop :=
  ∀ state code next effects, code ≠ .operationAborted →
    owner.step state (owner.onSessionError code) = some (next, effects) →
      (owner.held state).isSome ∧ owner.held next = none

/-! ## The read in flight -/

/-- A session that is held has a read in flight as soon as it is read from, and none
of its operations was aborted; without a session there are no operations. -/
structure Reading (state : State S) : Prop where
  free : owner.held state.owner = none → state.operations = .none ∧ state.awaiting = false
  reads : (owner.held state.owner).isSome → state.awaiting = false →
    state.operations.reading.isSome
  pending : state.awaiting = true → state.operations.reading = none
  atOnce : owner.atOnce = true → state.awaiting = false
  read : state.operations.reading ≠ some (.completed (some .operationAborted))
  written : ∀ operation ∈ state.operations.writing,
    operation ≠ .completed (some .operationAborted)

section Settle
variable (state : State S) (next : S)

theorem settle_keeps (same : owner.held next = owner.held state.owner) :
    state.settle owner next = { state with owner := next } := if_pos same

theorem settle_drops (other : owner.held next ≠ owner.held state.owner) :
    state.settle owner next =
      { owner := next
        operations := if (owner.held next).isSome ∧ owner.atOnce then Operations.none.waitReading
          else .none
        awaiting := (owner.held next).isSome && !owner.atOnce
        dangling := state.dangling || decide (state.operations ≠ .none) } := if_neg other

theorem settle_owner : (state.settle owner next).owner = next := by
  by_cases same : owner.held next = owner.held state.owner
  · rw [settle_keeps owner state next same]
  · rw [settle_drops owner state next same]

omit [DecidableEq K] in
theorem reading_dropped (nobody : owner.held state.owner = none)
    (nothing : state.operations = .none) (reads : state.awaiting = false) :
    Reading owner state := by
  refine ⟨fun _ => ⟨nothing, reads⟩, fun held => ?_, fun _ => congrArg Operations.reading nothing,
    fun _ => reads, ?_, ?_⟩
  · rw [nobody] at held
    contradiction
  · rw [nothing]
    nofun
  · rw [nothing]
    nofun

theorem reading_settle (reading : Reading owner state) :
    Reading owner (state.settle owner next) := by
  by_cases same : owner.held next = owner.held state.owner
  · rw [settle_keeps owner state next same]
    exact ⟨fun nobody => reading.free (same.symm.trans nobody),
      fun held => reading.reads (by rwa [same] at held), reading.pending, reading.atOnce,
      reading.read, reading.written⟩
  · rw [settle_drops owner state next same]
    cases held : owner.held next with
    | none =>
        refine reading_dropped owner _ held ?_ rfl
        simp
    | some session =>
        cases atOnce : owner.atOnce with
        | false =>
            exact ⟨fun nobody => (nomatch held.symm.trans nobody),
              fun _ impossible => Bool.noConfusion impossible, fun _ => rfl,
              fun impossible => Bool.noConfusion (atOnce.symm.trans impossible), nofun, nofun⟩
        | true =>
            exact ⟨fun nobody => (nomatch held.symm.trans nobody), fun _ _ => rfl,
              fun impossible => Bool.noConfusion impossible, fun _ => rfl, nofun, nofun⟩

end Settle

variable {owner}

omit [DecidableEq K] in
theorem Reading.nothing_iff {state : State S} (reading : Reading owner state) :
    state.operations = .none ↔ Unused owner state := by
  constructor
  · intro nothing
    cases held : owner.held state.owner with
    | none => exact .inl held
    | some session =>
        cases awaiting : state.awaiting with
        | true => exact .inr ⟨awaiting, congrArg Operations.writing nothing⟩
        | false =>
            have reads := reading.reads (by rw [held]; rfl) awaiting
            rw [nothing] at reads
            contradiction
  · rintro (nobody | ⟨awaiting, nothing⟩)
    · exact (reading.free nobody).1
    · exact Operations.ext (reading.pending awaiting) nothing

theorem move_owner {state next : State S} {event : E}
    (moved : state.move owner event = some next) :
    ∃ effects, owner.step state.owner event = some (next.owner, effects) := by
  obtain ⟨⟨after, effects⟩, stepped, rfl⟩ := Option.map_eq_some_iff.mp moved
  exact ⟨effects, by rw [settle_owner, stepped]⟩

/-- What an error of the session leads to. -/
theorem move_error (drops : owner.Drops) {state next : State S} {code : ErrorCode}
    (error : code ≠ .operationAborted)
    (moved : state.move owner (owner.onSessionError code) = some next) :
    (owner.held state.owner).isSome ∧ Reading owner next ∧
      next.dangling = (state.dangling || decide (state.operations ≠ .none)) := by
  obtain ⟨⟨after, effects⟩, stepped, rfl⟩ := Option.map_eq_some_iff.mp moved
  obtain ⟨held, dropped⟩ := drops state.owner code after effects error stepped
  have other : owner.held after ≠ owner.held state.owner := by
    rw [dropped]
    intro nobody
    rw [← nobody] at held
    contradiction
  rw [settle_drops owner state after other]
  exact ⟨held, reading_dropped owner _ dropped (by simp [dropped]) (by simp [dropped]), rfl⟩

/-! ## What a handler does -/

section Handlers
variable (state : State S) (next : State S)

theorem handlerRead_cases (taken : step owner state .handlerRead = some next) :
    (state.operations.reading = some (.completed none) ∧
      next = { state with operations := state.operations.waitReading }) ∨
    ∃ code, state.operations.reading = some (.completed (some code)) ∧
      State.move owner { state with operations := { state.operations with reading := none } }
        (owner.onSessionError code) = some next := by
  simp only [step] at taken
  split at taken
  case h_1 completed => exact .inl ⟨completed, (Option.some.inj taken).symm⟩
  case h_2 code completed => exact .inr ⟨code, completed, taken⟩
  case h_3 => contradiction

/-- The operations when the handler of a write is done. -/
def written (state : State S) (index : Nat) : State S :=
  { state with operations :=
    { state.operations with writing := state.operations.writing.eraseIdx index } }

theorem handlerWrite_cases (index : Nat)
    (taken : step owner state (.handlerWrite index) = some next) :
    state.awaiting = false ∧
    ((state.operations.writing[index]? = some (.completed none) ∧ next = written state index) ∨
    ∃ code, state.operations.writing[index]? = some (.completed (some code)) ∧
      State.move owner (written state index) (owner.onSessionError code) = some next) := by
  simp only [step] at taken
  split at taken
  case isTrue => contradiction
  case isFalse reads =>
    refine ⟨Bool.eq_false_iff.mpr reads, ?_⟩
    split at taken
    case h_2 => contradiction
    case h_1 code completed =>
      cases code with
      | none => exact .inl ⟨completed, (Option.some.inj taken).symm⟩
      | some code => exact .inr ⟨code, completed, taken⟩

end Handlers

/-- The owner takes part in a step with one of its own, or not at all. -/
theorem step_owner {state next : State S} {event : Event E}
    (taken : step owner state event = some next) :
    next.owner = state.owner ∨
      ∃ moved effects, owner.step state.owner moved = some (next.owner, effects) := by
  cases event with
  | owner event =>
      obtain ⟨_, moved⟩ := Option.ite_none_right_eq_some.mp taken
      exact .inr ⟨event, move_owner moved⟩
  | waitReading =>
      obtain ⟨_, rfl⟩ := of_guard taken
      exact .inl rfl
  | sendData =>
      obtain ⟨session, _, rfl⟩ := Option.map_eq_some_iff.mp taken
      split <;> exact .inl rfl
  | readCompletes code =>
      obtain ⟨_, rfl⟩ := of_guard taken
      exact .inl rfl
  | writeCompletes index code =>
      obtain ⟨_, rfl⟩ := of_guard taken
      exact .inl rfl
  | handlerRead =>
      rcases handlerRead_cases state next taken with ⟨_, rfl⟩ | ⟨code, _, moved⟩
      · exact .inl rfl
      · have stepped := move_owner moved
        exact .inr ⟨owner.onSessionError code, stepped⟩
  | handlerWrite index =>
      rcases (handlerWrite_cases state next index taken).2 with ⟨_, rfl⟩ | ⟨code, _, moved⟩
      · exact .inl rfl
      · have stepped := move_owner moved
        exact .inr ⟨owner.onSessionError code, stepped⟩

theorem reading_step (drops : owner.Drops) (state : State S) (event : Event E)
    (next : State S) (reading : Reading owner state)
    (taken : step owner state event = some next) : Reading owner next := by
  cases event with
  | owner event =>
      obtain ⟨_, moved⟩ := Option.ite_none_right_eq_some.mp taken
      obtain ⟨⟨after, effects⟩, _, rfl⟩ := Option.map_eq_some_iff.mp moved
      exact reading_settle owner state after reading
  | waitReading =>
      obtain ⟨awaiting, rfl⟩ := of_guard taken
      refine ⟨fun nobody => ?_, fun _ _ => rfl, nofun, fun _ => rfl, nofun, reading.written⟩
      rw [(reading.free nobody).2] at awaiting
      contradiction
  | sendData =>
      obtain ⟨session, held, rfl⟩ := Option.map_eq_some_iff.mp taken
      split
      case isFalse => exact reading
      case isTrue =>
        refine ⟨fun nobody => ?_, reading.reads, reading.pending, reading.atOnce, reading.read,
          fun operation member => ?_⟩
        · rw [held] at nobody
          contradiction
        · rcases List.mem_append.mp member with earlier | now
          · exact reading.written operation earlier
          · rw [List.mem_singleton.mp now]
            nofun
  | readCompletes code =>
      obtain ⟨⟨flying, error⟩, rfl⟩ := of_guard taken
      refine ⟨fun nobody => ?_, fun _ _ => rfl, fun awaiting => ?_, reading.atOnce, ?_,
        reading.written⟩
      · rw [(reading.free nobody).1] at flying
        contradiction
      · rw [reading.pending awaiting] at flying
        contradiction
      · intro aborted
        simp only [Option.some.injEq, Operation.completed.injEq] at aborted
        exact error aborted
  | writeCompletes index code =>
      obtain ⟨⟨flying, error⟩, rfl⟩ := of_guard taken
      refine ⟨fun nobody => ?_, reading.reads, reading.pending, reading.atOnce, reading.read,
        fun operation member => ?_⟩
      · rw [(reading.free nobody).1] at flying
        simp [Operations.none] at flying
      · rcases List.mem_or_eq_of_mem_set member with earlier | rfl
        · exact reading.written operation earlier
        · intro aborted
          simp only [Operation.completed.injEq] at aborted
          exact error aborted
  | handlerRead =>
      rcases handlerRead_cases state next taken with ⟨completed, rfl⟩ | ⟨code, completed, moved⟩
      · refine ⟨fun nobody => ?_, fun _ _ => rfl, fun awaiting => ?_, reading.atOnce, nofun,
          reading.written⟩
        · rw [(reading.free nobody).1] at completed
          contradiction
        · rw [reading.pending awaiting] at completed
          contradiction
      · have error : code ≠ .operationAborted := by
          rintro rfl
          exact reading.read completed
        exact (move_error drops error moved).2.1
  | handlerWrite index =>
      obtain ⟨reads, ⟨completed, rfl⟩ | ⟨code, completed, moved⟩⟩ :=
        handlerWrite_cases state next index taken
      · refine ⟨fun nobody => ?_, reading.reads, reading.pending, reading.atOnce, reading.read,
          fun operation left => reading.written operation (List.mem_of_mem_eraseIdx left)⟩
        rw [(reading.free nobody).1] at completed
        simp [Operations.none] at completed
      · have error : code ≠ .operationAborted := by
          rintro rfl
          exact reading.written _ (List.mem_of_getElem? completed) rfl
        exact (move_error drops error moved).2.1

/-- A step leaves no operation behind exactly when it is clean. -/
theorem dangling_step (drops : owner.Drops) (state : State S) (event : Event E)
    (next : State S) (reading : Reading owner state) (sound : state.dangling = false)
    (taken : step owner state event = some next) :
    next.dangling = false ↔ Clean (Keeps owner) state event := by
  cases event with
  | owner event =>
      obtain ⟨_, moved⟩ := Option.ite_none_right_eq_some.mp taken
      obtain ⟨⟨after, effects⟩, stepped, rfl⟩ := Option.map_eq_some_iff.mp moved
      have clean : Clean (Keeps owner) state (.owner event) ↔
          owner.held after = owner.held state.owner ∨ Unused owner state := by
        constructor
        · intro keeps
          exact keeps after effects stepped
        · intro keeps other others same
          rw [stepped] at same
          cases same
          exact keeps
      rw [clean]
      by_cases same : owner.held after = owner.held state.owner
      · rw [settle_keeps owner state after same]
        exact iff_of_true sound (.inl same)
      · simp only [settle_drops owner state after same, sound, Bool.false_or,
          decide_eq_false_iff_not, not_not, same, false_or]
        exact reading.nothing_iff
  | waitReading =>
      obtain ⟨_, rfl⟩ := of_guard taken
      exact iff_of_true sound trivial
  | sendData =>
      obtain ⟨session, _, rfl⟩ := Option.map_eq_some_iff.mp taken
      refine iff_of_true ?_ trivial
      split <;> exact sound
  | readCompletes code =>
      obtain ⟨_, rfl⟩ := of_guard taken
      exact iff_of_true sound trivial
  | writeCompletes index code =>
      obtain ⟨_, rfl⟩ := of_guard taken
      exact iff_of_true sound trivial
  | handlerRead =>
      rcases handlerRead_cases state next taken with ⟨completed, rfl⟩ | ⟨code, completed, moved⟩
      · refine iff_of_true sound fun code failed => ?_
        rw [completed] at failed
        cases failed
      · have error : code ≠ .operationAborted := by
          rintro rfl
          exact reading.read completed
        obtain ⟨_, _, dangling⟩ := move_error drops error moved
        rw [dangling, sound, Bool.false_or, decide_eq_false_iff_not, not_not]
        constructor
        · intro nothing other _
          exact congrArg Operations.writing nothing
        · intro clean
          exact Operations.ext rfl (clean code completed)
  | handlerWrite index =>
      obtain ⟨reads, ⟨completed, rfl⟩ | ⟨code, completed, moved⟩⟩ :=
        handlerWrite_cases state next index taken
      · refine iff_of_true sound fun code failed => ?_
        rw [completed] at failed
        cases failed
      · have error : code ≠ .operationAborted := by
          rintro rfl
          exact reading.written _ (List.mem_of_getElem? completed) rfl
        obtain ⟨held, _, dangling⟩ := move_error drops error moved
        refine iff_of_false ?_ fun clean => clean code completed
        have flying := reading.reads held reads
        intro none
        rw [dangling, written, sound, Bool.false_or, decide_eq_false_iff_not, not_not] at none
        have nothing : state.operations.reading = Option.none := congrArg Operations.reading none
        rw [nothing] at flying
        contradiction

/-- Where an owner begins without a session, no operation is ever left with a
destroyed session exactly when every step is clean. -/
theorem notDangling_iff (drops : owner.Drops) (start : S) (nobody : owner.held start = none)
    (events : List (Event E)) :
    Throughout (step owner) (fun state => state.dangling = false) (begin start) events ↔
      Guarded (step owner) (Clean (Keeps owner)) (begin start) events := by
  have kept : ∀ state event next, True →
      (Reading owner state ∧ state.dangling = false) → Clean (Keeps owner) state event →
      step owner state event = some next → Reading owner next ∧ next.dangling = false := by
    rintro state event next _ ⟨reading, sound⟩ clean taken
    exact ⟨reading_step drops state event next reading taken,
      (dangling_step drops state event next reading sound taken).mpr clean⟩
  have needed : ∀ state event next, True →
      (Reading owner state ∧ state.dangling = false) → step owner state event = some next →
      next.dangling = false → Clean (Keeps owner) state event := by
    rintro state event next _ ⟨reading, sound⟩ taken still
    exact (dangling_step drops state event next reading sound taken).mp still
  exact throughout_iff_guarded (fun _ => True) kept (fun state both => both.2) needed
    ⟨reading_dropped owner (begin start) nobody rfl rfl, rfl⟩ fun _ _ => trivial

/-! ## The events that take a session away -/

section Taking
variable (owner) in
/-- Where `invariant` holds, the events in `takes` are those that take a session away. -/
def Takes (takes : E → Bool) (invariant : S → Prop) : Prop :=
  ∀ state event next effects, invariant state → owner.ofSession event = false →
    owner.step state event = some (next, effects) →
      ((owner.held next = owner.held state ∨ owner.held state = none) ↔
        (takes event = true → owner.held state = none))

/-- What `Takes` asks of an event that is not in `takes`. -/
theorem taking_of_kept {takesIt : Bool} {kept free : Prop} (other : takesIt = false)
    (holds : kept) : kept ↔ (takesIt = true → free) := by
  refine iff_of_true holds fun impossible => ?_
  rw [other] at impossible
  contradiction

variable {takes : E → Bool} {invariant : S → Prop} (taking : Takes owner takes invariant)
include taking

theorem spares_iff_keeps (state : State S) (event : Event E) (next : State S)
    (holds : invariant state.owner) (taken : step owner state event = some next) :
    Clean (Spares owner takes) state event ↔ Clean (Keeps owner) state event := by
  cases event with
  | owner event =>
      obtain ⟨⟨own, _⟩, moved⟩ := Option.ite_none_right_eq_some.mp taken
      obtain ⟨⟨after, effects⟩, stepped, _⟩ := Option.map_eq_some_iff.mp moved
      have takesAway := taking state.owner event after effects holds own stepped
      constructor
      · intro spares other others same
        rw [stepped] at same
        cases same
        by_cases unused : Unused owner state
        · exact .inr unused
        · have free : takes event = true → owner.held state.owner = none :=
            fun takesIt => absurd (spares takesIt) unused
          exact (takesAway.mpr free).imp_right .inl
      · intro keeps takesIt
        rcases keeps after effects stepped with same | unused
        · exact .inl (takesAway.mp (.inl same) takesIt)
        · exact unused
  | _ => exact Iff.rfl

theorem notDangling_iff_spares (drops : owner.Drops)
    (kept : ∀ state event next effects, invariant state →
      owner.step state event = some (next, effects) → invariant next)
    (start : S) (nobody : owner.held start = none) (begins : invariant start)
    (events : List (Event E)) :
    Throughout (step owner) (fun state => state.dangling = false) (begin start) events ↔
      Guarded (step owner) (Clean (Spares owner takes)) (begin start) events := by
  rw [notDangling_iff drops start nobody events]
  have invariantKept : ∀ state event next, True → invariant state.owner →
      Clean (Keeps owner) state event → step owner state event = some next →
      invariant next.owner := by
    intro state event next _ holds _ taken
    rcases step_owner taken with unchanged | ⟨moved, effects, stepped⟩
    · rw [unchanged]
      exact holds
    · exact kept state.owner moved next.owner effects holds stepped
  exact (guarded_congr (fun _ => True) invariantKept
    (fun state event next _ holds taken => spares_iff_keeps taking state event next holds taken)
    begins fun _ _ => trivial).symm

end Taking
end Machine
end Emserver.TcpSession.Lifetime
