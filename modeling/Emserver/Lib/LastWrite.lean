import Mathlib.Data.List.Induction

/-!
# Keyed records under writes

A write goes to the first record of its key.  Where a write keeps the key of a
record and nothing of an earlier write survives it, the records after a sequence
of writes are known from the last write to each key.
-/

set_option autoImplicit false

namespace Lib.LastWrite

universe u v w
variable {R : Type u} {U : Type v} {K : Type w} [DecidableEq K]
variable (key : R → K) (target : U → K) (apply : R → U → R)

/-- The index of the first record under `name`, behind the records if there is none. -/
def find (records : List R) (name : K) : Nat := records.findIdx fun record => key record = name

def write (records : List R) (update : U) : List R :=
  records.modify (find key records (target update)) fun record => apply record update

/-- A record under which no update is found, or after the last one that is. -/
def settle (updates : List U) (record : R) : R :=
  ((updates.reverse.find? fun update => target update = key record).map (apply record)).getD
    record

/-- The records under the last write to each: only the first one of a key is written. -/
def settled (records : List R) (updates : List U) : List R :=
  records.mapIdx fun index record =>
    if find key records (key record) = index then settle key target apply updates record
    else record

/-- A write keeps the key and overwrites. -/
structure Overwrites : Prop where
  kept : ∀ record update, key (apply record update) = key record
  last : ∀ record first second, apply (apply record first) second = apply record second

variable {key target apply}

theorem find_key {records : List R} {name : K} {index : Nat} {record : R}
    (here : records[index]? = some record) (found : find key records name = index) :
    key record = name := by
  subst found
  obtain ⟨bound, rfl⟩ := List.getElem?_eq_some_iff.mp here
  have holds := List.findIdx_getElem (w := bound)
  exact of_decide_eq_true holds

theorem settle_append (updates : List U) (update : U) (record : R) :
    settle key target apply (updates ++ [update]) record =
      if target update = key record then apply record update
      else settle key target apply updates record := by
  rw [settle, List.reverse_append, List.reverse_singleton, List.singleton_append]
  by_cases same : target update = key record
  · rw [if_pos same, List.find?_cons_of_pos (by simpa using same)]
    rfl
  · rw [if_neg same, List.find?_cons_of_neg (by simpa using same)]
    rfl

section Laws
variable (overwrites : Overwrites key apply)
include overwrites

theorem settle_key (updates : List U) (record : R) :
    key (settle key target apply updates record) = key record := by
  rw [settle]
  cases updates.reverse.find? fun update => target update = key record with
  | none => rfl
  | some update => exact overwrites.kept record update

theorem apply_settle (updates : List U) (record : R) (update : U) :
    apply (settle key target apply updates record) update = apply record update := by
  rw [settle]
  cases updates.reverse.find? fun earlier => target earlier = key record with
  | none => rfl
  | some earlier => exact overwrites.last record earlier update

theorem settled_keys (records : List R) (updates : List U) :
    (settled key target apply records updates).map key = records.map key := by
  apply List.ext_getElem?
  intro index
  rw [List.getElem?_map, List.getElem?_map, settled, List.getElem?_mapIdx]
  cases records[index]? with
  | none => rfl
  | some record =>
      simp only [Option.map_some]
      congr 1
      split
      · exact settle_key overwrites updates record
      · rfl

theorem find_settled (records : List R) (updates : List U) (name : K) :
    find key (settled key target apply records updates) name = find key records name := by
  have same : (settled key target apply records updates).map key = records.map key :=
    settled_keys overwrites records updates
  have keys := congrArg (List.findIdx fun other => decide (other = name)) same
  rw [List.findIdx_map, List.findIdx_map] at keys
  exact keys

/-- One more write is one more update. -/
theorem write_settled (records : List R) (updates : List U) (update : U) :
    write key target apply (settled key target apply records updates) update =
      settled key target apply records (updates ++ [update]) := by
  rw [write, find_settled overwrites]
  apply List.ext_getElem?
  intro index
  rw [List.getElem?_modify, settled, settled, List.getElem?_mapIdx, List.getElem?_mapIdx]
  cases here : records[index]? with
  | none => simp
  | some record =>
      simp only [Option.map_some, Option.map_eq_map, Option.some.injEq]
      by_cases written : find key records (target update) = index
      · have name := find_key here written
        have first : find key records (key record) = index := by rw [name, written]
        rw [if_pos written, if_pos first, if_pos first, settle_append, if_pos name.symm,
          apply_settle overwrites]
      · rw [if_neg written]
        by_cases first : find key records (key record) = index
        · have other : target update ≠ key record := by
            intro same
            rw [same] at written
            exact written first
          rw [if_pos first, if_pos first, settle_append, if_neg other]
        · rw [if_neg first, if_neg first]

/-- After a sequence of writes, each key holds its last one. -/
theorem foldl_write (records : List R) (updates : List U) :
    updates.foldl (write key target apply) records = settled key target apply records updates := by
  induction updates using List.reverseRecOn with
  | nil =>
      have same : settled key target apply records [] = records := by
        apply List.ext_getElem?
        intro index
        rw [settled, List.getElem?_mapIdx]
        cases records[index]? with
        | none => rfl
        | some record => simp [settle]
      exact same.symm
  | append_singleton updates update ih =>
      rw [List.foldl_append, ih]
      exact write_settled overwrites records updates update

end Laws
end Lib.LastWrite
