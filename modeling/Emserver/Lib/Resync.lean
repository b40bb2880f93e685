import Mathlib.Data.List.Basic

/-!
# Resynchronising scans

A stream of self-delimiting records mixed with junk is read by a decoder that
is tried at every offset.  `seek` returns the record at the first offset where
the decoder succeeds, with what follows it; `drain` repeats `seek` until no
offset is left.  A decoder may also fault, and a fault at any offset that is
tried ends the scan.

The laws are stated for a decoder that is `Canonical` for an encoder: what it
accepts is what the encoder writes.
-/

set_option autoImplicit false

namespace Lib.Resync

universe u v w
variable {α : Type u} {M : Type v} {ε : Type w}

section Scan
variable (decode : List α → Except ε (Option M)) (size : M → Nat)

def seek : List α → Except ε (Option (M × List α))
  | [] => .ok none
  | first :: rest =>
      match decode (first :: rest) with
      | .error fault => .error fault
      | .ok (some record) => .ok (some (record, (first :: rest).drop (size record)))
      | .ok none => seek rest

/-- One fuel unit is spent per record; `drainWithin_enough` shows that the
length of the input suffices. -/
def drainWithin : Nat → List α → Except ε (List M × List α)
  | 0, data => .ok ([], data)
  | fuel + 1, data =>
      match seek decode size data with
      | .error fault => .error fault
      | .ok none => .ok ([], data)
      | .ok (some (record, rest)) =>
          match drainWithin fuel rest with
          | .error fault => .error fault
          | .ok (records, left) => .ok (record :: records, left)

def drain (data : List α) : Except ε (List M × List α) :=
  drainWithin decode size data.length data

/-- The decoder rejects every offset of `junk` when `after` follows it. -/
def Rejects (junk after : List α) : Prop :=
  ∀ offset, offset <:+ junk → offset ≠ [] → decode (offset ++ after) = .ok none

/-- The decoder rejects every offset of `data`. -/
def Quiet (data : List α) : Prop :=
  ∀ offset, offset <:+ data → offset ≠ [] → decode offset = .ok none

theorem rejects_nil_iff (data : List α) :
    Rejects decode data [] ↔ Quiet decode data := by
  simp [Rejects, Quiet]

theorem quiet_nil : Quiet decode [] := by
  intro offset suffix nonempty
  exact absurd (List.suffix_nil.mp suffix) nonempty

theorem rejects_cons_iff (first : α) (rest after : List α) :
    Rejects decode (first :: rest) after ↔
      decode (first :: rest ++ after) = .ok none ∧ Rejects decode rest after := by
  constructor
  · intro rejected
    refine ⟨rejected _ List.suffix_rfl (by simp), ?_⟩
    intro offset suffix nonempty
    exact rejected offset (suffix.trans (List.suffix_cons first rest)) nonempty
  · rintro ⟨head, tail⟩ offset suffix nonempty
    rcases List.suffix_cons_iff.mp suffix with same | inner
    · rw [same]
      exact head
    · exact tail offset inner nonempty

theorem seek_rejected (junk after : List α) (rejected : Rejects decode junk after) :
    seek decode size (junk ++ after) = seek decode size after := by
  induction junk with
  | nil => rfl
  | cons first rest ih =>
      obtain ⟨head, tail⟩ := (rejects_cons_iff decode first rest after).mp rejected
      rw [List.cons_append] at head ⊢
      rw [seek, head]
      exact ih tail

theorem seek_none_iff (data : List α) :
    seek decode size data = .ok none ↔ Quiet decode data := by
  induction data with
  | nil => exact ⟨fun _ => quiet_nil decode, fun _ => rfl⟩
  | cons first rest ih =>
      rw [← rejects_nil_iff, rejects_cons_iff, rejects_nil_iff, ← ih, List.append_nil, seek]
      cases run : decode (first :: rest) with
      | error fault => simp
      | ok found =>
          cases found with
          | none => simp
          | some record => simp

/-- A found record stands behind rejected junk. -/
theorem seek_some (data : List α) (record : M) (left : List α)
    (found : seek decode size data = .ok (some (record, left))) :
    ∃ junk after, data = junk ++ after ∧ after ≠ [] ∧ Rejects decode junk after ∧
      decode after = .ok (some record) ∧ left = after.drop (size record) := by
  induction data with
  | nil => simp [seek] at found
  | cons first rest ih =>
      rw [seek] at found
      cases run : decode (first :: rest) with
      | error fault =>
          rw [run] at found
          contradiction
      | ok result =>
          rw [run] at found
          cases result with
          | some head =>
              have same : head = record ∧ (first :: rest).drop (size head) = left := by
                simpa using found
              obtain ⟨rfl, tail⟩ := same
              refine ⟨[], first :: rest, rfl, by simp, ?_, run, tail.symm⟩
              intro offset suffix nonempty
              exact absurd (List.suffix_nil.mp suffix) nonempty
          | none =>
              obtain ⟨junk, after, split, nonempty, rejected, decoded, tail⟩ := ih found
              refine ⟨first :: junk, after, by rw [split, List.cons_append], nonempty, ?_,
                decoded, tail⟩
              refine (rejects_cons_iff decode first junk after).mpr ⟨?_, rejected⟩
              rw [List.cons_append, ← split]
              exact run

end Scan

/-! ## Canonical decoders -/

/-- What the decoder accepts is an encoding, of the size it reports. -/
structure Canonical (decode : List α → Except ε (Option M)) (size : M → Nat)
    (encode : M → List α) : Prop where
  encoded : ∀ data record, data ≠ [] → decode data = .ok (some record) →
    ∃ rest, data = encode record ++ rest
  sized : ∀ data record, data ≠ [] → decode data = .ok (some record) →
    size record = (encode record).length
  nonempty : ∀ record, encode record ≠ []

section Laws
variable {decode : List α → Except ε (Option M)} {size : M → Nat} {encode : M → List α}
variable (canonical : Canonical decode size encode)
include canonical

theorem seek_encoded (data : List α) (record : M) (left : List α)
    (found : seek decode size data = .ok (some (record, left))) :
    ∃ junk, data = junk ++ encode record ++ left ∧
      Rejects decode junk (encode record ++ left) := by
  obtain ⟨junk, after, split, nonempty, rejected, decoded, tail⟩ :=
    seek_some decode size data record left found
  obtain ⟨rest, image⟩ := canonical.encoded after record nonempty decoded
  have leftEq : left = rest := by
    rw [tail, image, canonical.sized after record nonempty decoded, List.drop_left]
  subst leftEq
  exact ⟨junk, by rw [split, image, List.append_assoc], image ▸ rejected⟩

theorem seek_shrinks (data : List α) (record : M) (left : List α)
    (found : seek decode size data = .ok (some (record, left))) :
    left.length < data.length := by
  obtain ⟨junk, split, _⟩ := seek_encoded canonical data record left found
  have positive := List.length_pos_iff.mpr (canonical.nonempty record)
  rw [split]
  simp only [List.length_append]
  omega

theorem drainWithin_enough (fuel : Nat) (data : List α) (enough : data.length ≤ fuel) :
    drainWithin decode size fuel data = drain decode size data := by
  unfold drain
  induction fuel using Nat.strongRecOn generalizing data with
  | ind fuel ih =>
    cases fuel with
    | zero =>
        have empty : data.length = 0 := by omega
        rw [empty]
    | succ fuel =>
        cases lengthEq : data.length with
        | zero =>
            have empty : data = [] := List.length_eq_zero_iff.mp lengthEq
            subst empty
            rfl
        | succ bound =>
            simp only [drainWithin]
            cases found : seek decode size data with
            | error fault => rfl
            | ok result =>
                cases result with
                | none => rfl
                | some pair =>
                    obtain ⟨record, left⟩ := pair
                    have shrinks := seek_shrinks canonical data record left found
                    simp only [ih fuel (by omega) left (by omega),
                      ih bound (by omega) left (by omega)]

theorem drain_eq (data : List α) :
    drain decode size data =
      match seek decode size data with
      | .error fault => .error fault
      | .ok none => .ok ([], data)
      | .ok (some (record, left)) =>
          match drain decode size left with
          | .error fault => .error fault
          | .ok (records, rest) => .ok (record :: records, rest) := by
  rw [← drainWithin_enough canonical (data.length + 1) data (by omega), drainWithin]
  cases found : seek decode size data with
  | error fault => rfl
  | ok result =>
      cases result with
      | none => rfl
      | some pair =>
          obtain ⟨record, left⟩ := pair
          have shrinks := seek_shrinks canonical data record left found
          simp only [drainWithin_enough canonical data.length left (by omega)]

theorem drain_quiet (data : List α) (quiet : Quiet decode data) :
    drain decode size data = .ok ([], data) := by
  rw [drain_eq canonical, (seek_none_iff decode size data).mpr quiet]

end Laws

/-! ## Accounting -/

/-- `consumed` is the encodings of `records` in order, each behind some junk. -/
inductive Consumed (encode : M → List α) : List α → List M → Prop where
  | nil : Consumed encode [] []
  | cons (junk : List α) (record : M) {consumed : List α} {records : List M}
      (tail : Consumed encode consumed records) :
      Consumed encode (junk ++ encode record ++ consumed) (record :: records)

theorem Consumed.append {encode : M → List α} {first second : List α}
    {earlier later : List M} (head : Consumed encode first earlier)
    (tail : Consumed encode second later) :
    Consumed encode (first ++ second) (earlier ++ later) := by
  induction head with
  | nil => exact tail
  | cons junk record _ ih =>
      rw [List.append_assoc, List.cons_append]
      exact .cons junk record ih

theorem Consumed.length_le {encode : M → List α} {consumed : List α} {records : List M}
    (nonempty : ∀ record, encode record ≠ []) (accounted : Consumed encode consumed records) :
    records.length ≤ consumed.length := by
  induction accounted with
  | nil => exact Nat.le_refl 0
  | cons junk record _ ih =>
      have positive := List.length_pos_of_ne_nil (nonempty record)
      simp only [List.length_cons, List.length_append]
      omega

section Accounting
variable {decode : List α → Except ε (Option M)} {size : M → Nat} {encode : M → List α}
variable (canonical : Canonical decode size encode)
include canonical

/-- Every symbol is junk, part of one returned record, or left over, and
nothing decodes in what is left over. -/
theorem drain_consumed (data : List α) (records : List M) (left : List α)
    (run : drain decode size data = .ok (records, left)) :
    ∃ consumed, data = consumed ++ left ∧ Consumed encode consumed records ∧
      Quiet decode left := by
  induction lengthEq : data.length using Nat.strongRecOn
    generalizing data records with
  | ind bound ih =>
    rw [drain_eq canonical] at run
    cases found : seek decode size data with
    | error fault =>
        rw [found] at run
        contradiction
    | ok result =>
        rw [found] at run
        cases result with
        | none =>
            have same : [] = records ∧ data = left := by simpa using run
            obtain ⟨rfl, rfl⟩ := same
            exact ⟨[], rfl, .nil, (seek_none_iff decode size data).mp found⟩
        | some pair =>
            obtain ⟨record, after⟩ := pair
            have shrinks := seek_shrinks canonical data record after found
            obtain ⟨junk, split, _⟩ := seek_encoded canonical data record after found
            cases rest : drain decode size after with
            | error fault =>
                simp only [rest] at run
                contradiction
            | ok tail =>
                obtain ⟨others, final⟩ := tail
                have same : record :: others = records ∧ final = left := by
                  simpa [rest] using run
                obtain ⟨rfl, rfl⟩ := same
                obtain ⟨consumed, tailSplit, tailConsumed, quiet⟩ :=
                  ih after.length (by omega) after others rest rfl
                refine ⟨junk ++ encode record ++ consumed, ?_,
                  .cons junk record tailConsumed, quiet⟩
                rw [split]
                conv => lhs; rw [tailSplit]
                simp only [List.append_assoc]

/-- A scan returns when no offset of its input faults. -/
theorem drain_returns (data : List α)
    (returns : ∀ offset, offset <:+ data → offset ≠ [] → ∃ result, decode offset = .ok result) :
    ∃ result, drain decode size data = .ok result := by
  induction lengthEq : data.length using Nat.strongRecOn generalizing data with
  | ind bound ih =>
    rw [drain_eq canonical]
    have settled : ∃ result, seek decode size data = .ok result := by
      clear ih lengthEq
      induction data with
      | nil => exact ⟨none, rfl⟩
      | cons first rest ihRest =>
          obtain ⟨result, run⟩ := returns (first :: rest) List.suffix_rfl (by simp)
          rw [seek, run]
          cases result with
          | some record => exact ⟨_, rfl⟩
          | none =>
              exact ihRest fun offset suffix nonempty =>
                returns offset (suffix.trans (List.suffix_cons first rest)) nonempty
    obtain ⟨result, found⟩ := settled
    rw [found]
    cases result with
    | none => exact ⟨_, rfl⟩
    | some pair =>
        obtain ⟨record, left⟩ := pair
        have shrinks := seek_shrinks canonical data record left found
        obtain ⟨junk, split, _⟩ := seek_encoded canonical data record left found
        have suffix : left <:+ data := ⟨junk ++ encode record, split.symm⟩
        obtain ⟨tail, run⟩ := ih left.length (by omega) left
          (fun offset inner nonempty => returns offset (inner.trans suffix) nonempty) rfl
        exact ⟨(record :: tail.1, tail.2), by simp only [run]⟩

theorem drain_nothing (data left : List α)
    (run : drain decode size data = .ok ([], left)) : left = data := by
  obtain ⟨consumed, split, nothing, _⟩ := drain_consumed canonical data [] left run
  cases nothing
  rw [split, List.nil_append]

end Accounting

/-! ## Streams -/

/-- Encodings each behind its own junk, then a tail. -/
def stream (encode : M → List α) : List (List α × M) → List α → List α
  | [], tail => tail
  | (junk, record) :: rest, tail =>
      junk ++ (encode record ++ stream encode rest tail)

/-- The decoder accepts each record of the stream where it stands and rejects
every offset of the junk before it and of the tail. -/
def Readable (decode : List α → Except ε (Option M)) (size : M → Nat)
    (encode : M → List α) : List (List α × M) → List α → Prop
  | [], tail => Quiet decode tail
  | (junk, record) :: rest, tail =>
      Rejects decode junk (encode record ++ stream encode rest tail) ∧
        decode (encode record ++ stream encode rest tail) = .ok (some record) ∧
          Readable decode size encode rest tail

/-- A readable stream is drained record by record, and its tail is left. -/
theorem drain_stream {decode : List α → Except ε (Option M)} {size : M → Nat}
    {encode : M → List α} (canonical : Canonical decode size encode)
    (segments : List (List α × M)) (tail : List α)
    (readable : Readable decode size encode segments tail) :
    drain decode size (stream encode segments tail) =
      .ok (segments.map Prod.snd, tail) := by
  induction segments with
  | nil => exact drain_quiet canonical tail readable
  | cons segment rest ih =>
      obtain ⟨junk, record⟩ := segment
      obtain ⟨rejected, decoded, readableRest⟩ := readable
      have nonempty : encode record ++ stream encode rest tail ≠ [] := by
        simp [canonical.nonempty record]
      have found : seek decode size (encode record ++ stream encode rest tail) =
          .ok (some (record, stream encode rest tail)) := by
        cases shape : encode record ++ stream encode rest tail with
        | nil => exact absurd shape nonempty
        | cons first others =>
            have sized := canonical.sized _ record nonempty decoded
            rw [seek, ← shape, decoded]
            simp only [sized, List.drop_left]
      rw [stream, drain_eq canonical, seek_rejected decode size _ _ rejected, found]
      simp only [ih readableRest, List.map_cons]

/-- What follows back-to-back records is left exactly when nothing in it decodes. -/
theorem drain_records_iff {decode : List α → Except ε (Option M)} {size : M → Nat}
    {encode : M → List α} (canonical : Canonical decode size encode)
    (records : List M) (tail : List α)
    (accepted : ∀ record ∈ records, ∀ rest,
      decode (encode record ++ rest) = .ok (some record)) :
    drain decode size (records.flatMap encode ++ tail) = .ok (records, tail) ↔
      Quiet decode tail := by
  constructor
  · intro run
    obtain ⟨_, _, _, quiet⟩ := drain_consumed canonical _ records tail run
    exact quiet
  · intro quiet
    have readable : Readable decode size encode (records.map fun record => ([], record)) tail := by
      induction records with
      | nil => exact quiet
      | cons record rest ih =>
          refine ⟨?_, accepted record (by simp) _, ih fun other member =>
            accepted other (by simp [member])⟩
          intro offset suffix nonempty
          exact absurd (List.suffix_nil.mp suffix) nonempty
    have image : stream encode (records.map fun record => ([], record)) tail =
        records.flatMap encode ++ tail := by
      clear accepted readable
      induction records with
      | nil => rfl
      | cons record rest ih => simp [stream, ih]
    have run := drain_stream canonical _ tail readable
    rw [image] at run
    simpa [Function.comp_def] using run

/-! ## Cutting a concatenation of records -/

section Cut
variable (encode : M → List α)

/-- The records whose encodings fit into the first `length` symbols, and the
symbols that then remain, which begin the next record. -/
def cut : List M → Nat → List M × List α
  | [], _ => ([], [])
  | record :: rest, length =>
      if (encode record).length ≤ length then
        let (whole, part) := cut rest (length - (encode record).length)
        (record :: whole, part)
      else ([], (encode record).take length)

theorem cut_initial (records : List M) (length : Nat) :
    (cut encode records length).1 <+: records := by
  induction records generalizing length with
  | nil => exact List.prefix_rfl
  | cons record rest ih =>
      rw [cut]
      split
      · exact (List.prefix_cons_inj record).mpr (ih _)
      · exact List.nil_prefix

theorem cut_take (records : List M) (length : Nat) :
    (records.flatMap encode).take length =
      (cut encode records length).1.flatMap encode ++ (cut encode records length).2 := by
  induction records generalizing length with
  | nil => simp [cut]
  | cons record rest ih =>
      rw [List.flatMap_cons, List.take_append, cut]
      split
      · rename_i fits
        rw [List.take_of_length_le fits, ih]
        simp
      · rename_i short
        have nothing : length - (encode record).length = 0 := by omega
        simp [nothing]

theorem cut_part (records : List M) (length : Nat) :
    (cut encode records length).2 = [] ∨
      ∃ record ∈ records, ∃ missing, missing ≠ [] ∧
        encode record = (cut encode records length).2 ++ missing := by
  induction records generalizing length with
  | nil => exact .inl rfl
  | cons record rest ih =>
      rw [cut]
      split
      · rcases ih (length - (encode record).length) with nothing | ⟨next, member, missing, tail⟩
        · exact .inl nothing
        · exact .inr ⟨next, List.mem_cons_of_mem record member, missing, tail⟩
      · rename_i short
        refine .inr ⟨record, List.mem_cons_self, (encode record).drop length, ?_, ?_⟩
        · simpa using Nat.lt_of_not_le short
        · exact (List.take_append_drop length _).symm

theorem cut_all (records : List M) (length : Nat)
    (enough : (records.flatMap encode).length ≤ length) :
    cut encode records length = (records, []) := by
  induction records generalizing length with
  | nil => rfl
  | cons record rest ih =>
      rw [List.flatMap_cons, List.length_append] at enough
      rw [cut, if_pos (by omega), ih _ (by omega)]

theorem cut_mono (records : List M) (first second : Nat) (ordered : first ≤ second) :
    (cut encode records first).1 <+: (cut encode records second).1 := by
  induction records generalizing first second with
  | nil => exact List.prefix_rfl
  | cons record rest ih =>
      rw [cut, cut]
      split
      · rw [if_pos (by omega)]
        exact (List.prefix_cons_inj record).mpr (ih _ _ (by omega))
      · exact List.nil_prefix

/-- Reading on from a cut: the kept part and the new symbols are the next whole
records and the part that is kept then. -/
theorem cut_append (records : List M) (before fresh : List α)
    (arrived : before ++ fresh <+: records.flatMap encode) :
    ∃ more, (cut encode records (before ++ fresh).length).1 =
        (cut encode records before.length).1 ++ more ∧
      (cut encode records before.length).2 ++ fresh =
        more.flatMap encode ++ (cut encode records (before ++ fresh).length).2 := by
  obtain ⟨more, grown⟩ := cut_mono encode records before.length (before ++ fresh).length
    (by simp)
  refine ⟨more, grown.symm, ?_⟩
  have earlier := cut_take encode records before.length
  have later := cut_take encode records (before ++ fresh).length
  have beforeTake : (records.flatMap encode).take before.length = before :=
    (List.prefix_iff_eq_take.mp ((List.prefix_append before fresh).trans arrived)).symm
  have bothTake : (records.flatMap encode).take (before ++ fresh).length = before ++ fresh :=
    (List.prefix_iff_eq_take.mp arrived).symm
  rw [beforeTake] at earlier
  rw [bothTake, ← grown] at later
  conv at later => lhs; rw [earlier]
  simp only [List.flatMap_append, List.append_assoc] at later
  exact List.append_cancel_left later

/-- More records behind the cut leave the part before it alone. -/
theorem cut_part_append (records more : List M) (length : Nat)
    (inside : length ≤ (records.flatMap encode).length) :
    (cut encode (records ++ more) length).2 = (cut encode records length).2 := by
  induction records generalizing length with
  | nil =>
      obtain rfl := Nat.le_zero.mp inside
      have nothing := cut_take encode more 0
      rw [List.take_zero] at nothing
      exact (List.append_eq_nil_iff.mp nothing.symm).2
  | cons record rest ih =>
      rw [List.cons_append, cut, cut]
      split
      case isTrue =>
        rw [List.flatMap_cons, List.length_append] at inside
        exact ih _ (by omega)
      case isFalse => rfl

end Cut

end Lib.Resync
