import Mathlib.Data.List.Infix

/-!
# One connection after another

What is passed over one connection after another is taken from each connection in
order and from its beginning.  What is left when a connection ends is never taken, so
that all that was taken is part of all that was passed, in the same order and each
message once.
-/

set_option autoImplicit false

namespace Lib.Connections

universe u
variable {M : Type u}

/-- The connections that have ended, with what was passed over each and how much of
that was taken, and the current one. -/
structure Log (M : Type u) where
  ended : List (List M × Nat)
  current : List M
  count : Nat
  inside : count ≤ current.length

def Log.empty : Log M := ⟨[], [], 0, Nat.le_refl 0⟩

def Log.passed (log : Log M) : List M := log.ended.flatMap Prod.fst ++ log.current

def Log.taken (log : Log M) : List M :=
  (log.ended.flatMap fun connection => connection.1.take connection.2) ++
    log.current.take log.count

/-- The message to be taken next, and its position in all that was passed. -/
def Log.next (log : Log M) : Option M := log.current[log.count]?

def Log.position (log : Log M) : Nat := (log.ended.flatMap Prod.fst).length + log.count

def Log.pass (log : Log M) (messages : List M) : Log M where
  ended := log.ended
  current := log.current ++ messages
  count := log.count
  inside := by
    rw [List.length_append]
    exact Nat.le_add_right_of_le log.inside

def Log.take (log : Log M) : Log M :=
  if more : log.count < log.current.length then
    { log with count := log.count + 1, inside := more }
  else log

def Log.reconnect (log : Log M) : Log M :=
  ⟨log.ended ++ [(log.current, log.count)], [], 0, Nat.le_refl 0⟩

variable (log : Log M)

theorem taken_sublist : log.taken.Sublist log.passed := by
  refine List.Sublist.append ?_ (List.take_sublist log.count log.current)
  induction log.ended with
  | nil => exact List.Sublist.refl []
  | cons connection rest ih =>
      rw [List.flatMap_cons, List.flatMap_cons]
      exact (List.take_sublist connection.2 connection.1).append ih

theorem position_le : log.position ≤ log.passed.length := by
  rw [Log.position, Log.passed, List.length_append]
  exact Nat.add_le_add_left log.inside _

theorem passed_position : log.passed[log.position]? = log.next := by
  rw [Log.passed, Log.position, List.getElem?_append_right (Nat.le_add_right _ _),
    Nat.add_sub_cancel_left]
  rfl

/-! ## What the operations do -/

@[simp] theorem passed_pass (messages : List M) :
    (log.pass messages).passed = log.passed ++ messages :=
  (List.append_assoc _ _ _).symm

@[simp] theorem taken_pass (messages : List M) : (log.pass messages).taken = log.taken := by
  rw [Log.taken, Log.pass, List.take_append_of_le_length log.inside]
  rfl

@[simp] theorem position_pass (messages : List M) :
    (log.pass messages).position = log.position := rfl

section Take
variable {message : M} (next : log.next = some message)
include next

theorem take_next : log.take.ended = log.ended ∧ log.take.current = log.current ∧
    log.take.count = log.count + 1 := by
  obtain ⟨more, _⟩ := List.getElem?_eq_some_iff.mp next
  rw [Log.take, dif_pos more]
  exact ⟨rfl, rfl, rfl⟩

theorem passed_take : log.take.passed = log.passed := by
  obtain ⟨ended, current, _⟩ := take_next log next
  rw [Log.passed, ended, current]
  rfl

theorem taken_take : log.take.taken = log.taken ++ [message] := by
  obtain ⟨ended, current, count⟩ := take_next log next
  have here : log.current[log.count]? = some message := next
  rw [Log.taken, ended, current, count, List.take_add_one, here, Option.toList_some,
    ← List.append_assoc]
  rfl

theorem position_take : log.take.position = log.position + 1 := by
  obtain ⟨ended, _, count⟩ := take_next log next
  rw [Log.position, ended, count]
  rfl

end Take

theorem ended_reconnect : log.reconnect.ended.flatMap Prod.fst = log.passed := by
  simp [Log.reconnect, Log.passed]

@[simp] theorem passed_reconnect : log.reconnect.passed = log.passed := by
  simp [Log.passed, Log.reconnect]

@[simp] theorem taken_reconnect : log.reconnect.taken = log.taken := by
  simp [Log.taken, Log.reconnect]

@[simp] theorem position_reconnect : log.reconnect.position = log.passed.length := by
  simp [Log.position, Log.reconnect, Log.passed]

end Lib.Connections
