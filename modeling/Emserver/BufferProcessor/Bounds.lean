import Emserver.BufferProcessor
import Emserver.Lib.Crc32

/-!
# Memory safety of the scan

Every marker the loop of `messages` reaches stands on a `$`, and the call it
makes there stays inside the bytes up to the end of the buffer exactly when
the header is not a `LengthOverflow`.
-/

set_option autoImplicit false

namespace Emserver.BufferProcessor

open Emserver.BaseProtocol
open Lib.LittleEndian

section Bounds
variable (crc : List UInt8 → UInt32)

/-- The buffers and markers of the `while` loop of `messages`. -/
inductive ScanReaches (initial : List UInt8) : List UInt8 → Nat → Prop where
  | start : ScanReaches initial initial (findMagic initial 0)
  | erase {buffer : List UInt8} {markerPos : Nat} {result : Extraction} {item : Message}
      (earlier : ScanReaches initial buffer markerPos)
      (inside : markerPos < buffer.length)
      (run : extractFromRawData crc (some (buffer.drop markerPos)) = .ok result)
      (found : result.message = some item) :
      ScanReaches initial (buffer.drop (markerPos + item.fullSize))
        (findMagic (buffer.drop (markerPos + item.fullSize)) 0)
  | advance {buffer : List UInt8} {markerPos : Nat} {result : Extraction}
      (earlier : ScanReaches initial buffer markerPos)
      (inside : markerPos < buffer.length)
      (run : extractFromRawData crc (some (buffer.drop markerPos)) = .ok result)
      (missing : result.message = none) :
      ScanReaches initial buffer (findMagic buffer (markerPos + 1))

theorem findMagic_lands (buffer : List UInt8) (start : Nat)
    (inside : findMagic buffer start < buffer.length) :
    (buffer.drop (findMagic buffer start)).head? = some magic := by
  have found : (buffer.drop start).findIdx (· == magic) < (buffer.drop start).length := by
    unfold findMagic at inside
    simp only [List.length_drop]
    omega
  have value := List.findIdx_getElem (w := found)
  rw [List.head?_drop]
  unfold findMagic at inside ⊢
  rw [List.getElem?_eq_getElem inside]
  simpa using value

theorem reached_magic (initial buffer : List UInt8) (markerPos : Nat)
    (reached : ScanReaches crc initial buffer markerPos)
    (inside : markerPos < buffer.length) :
    (buffer.drop markerPos).head? = some magic := by
  cases reached with
  | start => exact findMagic_lands _ _ inside
  | erase => exact findMagic_lands _ _ inside
  | advance => exact findMagic_lands _ _ inside

/-- One call on the bytes `data`: no access leaves them, the vector is never
asked for an impossible size, and the payload of a returned message is the
range behind the header, with its checksum still inside. -/
structure CallInBounds (data : List UInt8) : Prop where
  reads : ∀ offset size,
    extractFromRawData crc (some data) ≠ .error (.outOfBounds offset size)
  resize : ∀ size, extractFromRawData crc (some data) ≠ .error (.lengthError size)
  payload : ∀ reason message,
    extractFromRawData crc (some data) = .ok ⟨reason, some message⟩ →
      5 + message.payload.length + 4 ≤ data.length ∧
        (data.drop 5).take message.payload.length = message.payload

theorem payload_range (data : List UInt8) (nonempty : data ≠ [])
    (reason : ExtractionFailure) (message : Message)
    (run : extractFromRawData crc (some data) = .ok ⟨reason, some message⟩) :
    5 + message.payload.length + 4 ≤ data.length ∧
      (data.drop 5).take message.payload.length = message.payload := by
  obtain ⟨_, _, rest, split⟩ := extract_message_inv crc data nonempty reason message run
  have header : 5 = (frameHeader message.payload).length := by simp
  constructor
  · rw [split]
    simp
    omega
  · rw [split, header, frame, List.append_assoc, List.append_assoc, List.drop_left,
      List.take_left]

theorem callInBounds_iff (data : List UInt8) (nonempty : data ≠ []) :
    CallInBounds crc data ↔ ¬ LengthOverflow crc data := by
  constructor
  · intro bounds overflow
    obtain ⟨fault, failed⟩ := extract_error_of_overflow crc data overflow
    cases fault with
    | outOfBounds offset size => exact bounds.reads offset size failed
    | lengthError size => exact bounds.resize size failed
  · intro sound
    have returns : ∀ fault, extractFromRawData crc (some data) ≠ .error fault :=
      fun fault failed => sound ((extract_error_iff crc data nonempty).mp ⟨fault, failed⟩)
    exact ⟨fun _ _ => returns _, fun _ => returns _,
      fun reason message => payload_range crc data nonempty reason message⟩

/-- At every marker the scan reaches, the call stays in bounds exactly when
the header there does not overflow. -/
theorem reached_call_in_bounds_iff (initial buffer : List UInt8) (markerPos : Nat)
    (reached : ScanReaches crc initial buffer markerPos)
    (inside : markerPos < buffer.length) :
    (buffer.drop markerPos).head? = some magic ∧
      (CallInBounds crc (buffer.drop markerPos) ↔
        ¬ LengthOverflow crc (buffer.drop markerPos)) := by
  refine ⟨reached_magic crc initial buffer markerPos reached inside, ?_⟩
  apply callInBounds_iff
  simp
  omega

/-! ## The whole scan -/

theorem messagesLoop_of_reached (initial buffer : List UInt8) (markerPos : Nat)
    (reached : ScanReaches crc initial buffer markerPos) :
    ∃ ret, messagesLoop crc initial (findMagic initial 0) [] =
      messagesLoop crc buffer markerPos ret := by
  induction reached with
  | start => exact ⟨[], rfl⟩
  | @erase buffer markerPos result item earlier inside run found ih =>
      obtain ⟨ret, same⟩ := ih
      refine ⟨ret ++ [item], ?_⟩
      rw [same]
      exact messagesLoop_found crc buffer markerPos ret inside result item run found
  | @advance buffer markerPos result earlier inside run missing ih =>
      obtain ⟨ret, same⟩ := ih
      refine ⟨ret, ?_⟩
      rw [same]
      exact messagesLoop_missing crc buffer markerPos ret inside result run missing

theorem reached_of_messagesLoop_error (initial buffer : List UInt8) (markerPos : Nat)
    (ret : List Message) (fault : Fault)
    (reached : ScanReaches crc initial buffer markerPos)
    (failed : messagesLoop crc buffer markerPos ret = .error fault) :
    ∃ later position, ScanReaches crc initial later position ∧
      position < later.length ∧ LengthOverflow crc (later.drop position) := by
  fun_induction messagesLoop crc buffer markerPos ret with
  | case1 buffer markerPos ret inside other run =>
      refine ⟨buffer, markerPos, reached, inside, ?_⟩
      exact (extract_error_iff crc _ (by simp; omega)).mp ⟨other, run⟩
  | case2 buffer markerPos ret inside result run item found rest ih =>
      exact ih (.erase reached inside run found) failed
  | case3 buffer markerPos ret inside result run missing ih =>
      exact ih (.advance reached inside run missing) failed
  | case4 buffer markerPos ret outside => contradiction

/-- `messages` returns exactly when no reached header overflows. -/
theorem messages_returns_iff (processor : Buffer) :
    (∃ result, processor.messages crc = .ok result) ↔
      ∀ buffer markerPos,
        ScanReaches crc processor.processingBuffer buffer markerPos →
          markerPos < buffer.length → ¬ LengthOverflow crc (buffer.drop markerPos) := by
  constructor
  · rintro ⟨result, run⟩ buffer markerPos reached inside overflow
    obtain ⟨ret, same⟩ := messagesLoop_of_reached crc _ _ _ reached
    obtain ⟨fault, failed⟩ := extract_error_of_overflow crc _ overflow
    have stops := messagesLoop_fault crc buffer markerPos ret inside fault failed
    simp only [Buffer.messages, same, stops, bind, Except.bind] at run
    contradiction
  · intro sound
    cases run : processor.messages crc with
    | ok result => exact ⟨result, rfl⟩
    | error fault =>
        exfalso
        have failed : messagesLoop crc processor.processingBuffer
            (findMagic processor.processingBuffer 0) [] = .error fault := by
          simp only [Buffer.messages, bind, Except.bind] at run
          split at run
          · rename_i other stopped
            rw [stopped, Except.error.inj run]
          · contradiction
        obtain ⟨later, position, reached, inside, overflow⟩ :=
          reached_of_messagesLoop_error crc _ _ _ _ fault .start failed
        exact sound later position reached inside overflow

end Bounds

/-! ## The program's own checksum -/

theorem leNat_mod (first : UInt8) (rest : List UInt8) :
    leNat (first :: rest) % 256 = first.toNat := by
  have bound := first.toNat_lt
  simp only [leNat]
  omega

/-- The low byte of the CRC-32 of a header cut short is not the next byte. -/
theorem crc32_cut_header : ∀ count < 5,
    (Lib.Crc32.crc32 ((magic :: leBytes 4 (count + 4294967291)).take count)).toNat % 256 ≠
      ((magic :: leBytes 4 (count + 4294967291)).getD count 0).toNat := by
  decide +kernel

/-- When the total wraps to four through eight, the checksum of the bytes
before the stored one never matches it. -/
theorem crc32_short_mismatch (data : List UInt8) (isMagic : data.head? = some magic)
    (long : 5 < data.length) (large : 4 ≤ totalSize data) (small : totalSize data < 9) :
    computedChecksum Lib.Crc32.crc32 data ≠ storedChecksum data := by
  intro same
  have header := take_five data isMagic (by omega)
  have wrapped : lengthField data = (totalSize data - 4) + 4294967291 := by
    have bound := lengthField_lt data
    unfold totalSize uint32 at large small ⊢
    omega
  obtain ⟨count, countEq⟩ : ∃ count, totalSize data - 4 = count := ⟨_, rfl⟩
  rw [countEq] at wrapped
  rw [wrapped] at header
  have cut : data.take count =
      (magic :: leBytes 4 (count + 4294967291)).take count := by
    rw [← header, List.take_take, Nat.min_eq_left (by omega)]
  have next : data.drop count =
      (magic :: leBytes 4 (count + 4294967291)).getD count 0 :: data.drop (count + 1) := by
    have inside : count < data.length := by omega
    rw [← header, List.drop_eq_getElem_cons inside]
    simp [List.getD_eq_getElem?_getD, show count < 5 by omega, inside]
  have low := congrArg (· % 256) same
  simp only [computedChecksum, storedChecksum, countEq, cut, next, List.take_succ_cons,
    leNat_mod] at low
  exact crc32_cut_header count (by omega) low

/-- With CRC-32 the length arithmetic goes wrong in two ranges: length fields
from `2^32 - 9` to `2^32 - 6`, and complete frames of `2^31` payload bytes or
more. -/
theorem lengthOverflow_crc32_iff (data : List UInt8) :
    LengthOverflow Lib.Crc32.crc32 data ↔
      data.head? = some magic ∧ 5 < data.length ∧ totalSize data ≤ data.length ∧
        (4294967287 ≤ lengthField data ∧ lengthField data ≤ 4294967290 ∨
          2147483657 ≤ totalSize data ∧
            computedChecksum Lib.Crc32.crc32 data = storedChecksum data) := by
  have bound := lengthField_lt data
  have wraps : totalSize data < 4 ↔
      4294967287 ≤ lengthField data ∧ lengthField data ≤ 4294967290 := by
    unfold totalSize uint32
    omega
  constructor
  · rintro ⟨isMagic, long, complete, cause⟩
    refine ⟨isMagic, long, complete, ?_⟩
    rcases cause with before | ⟨bad, same⟩
    · exact .inl (wraps.mp before)
    · rcases bad with small | large
      · by_cases before : totalSize data < 4
        · exact .inl (wraps.mp before)
        · exact absurd same (crc32_short_mismatch data isMagic long (by omega) small)
      · exact .inr ⟨large, same⟩
  · rintro ⟨isMagic, long, complete, cause⟩
    refine ⟨isMagic, long, complete, ?_⟩
    rcases cause with range | ⟨large, same⟩
    · exact .inl (wraps.mpr range)
    · exact .inr ⟨.inr large, same⟩

/-- A header whose length field is `2^32 - 9`: its total wraps to zero. -/
def wrappedHeader : List UInt8 := [0x24, 0xF7, 0xFF, 0xFF, 0xFF, 0x00]

theorem wrappedHeader_out_of_bounds :
    extractFromRawData Lib.Crc32.crc32 (some wrappedHeader) =
      .error (.outOfBounds (-4) 4) :=
  extract_before_start Lib.Crc32.crc32 wrappedHeader rfl (by decide) (by decide)

theorem reached_call_reads_before_buffer :
    ScanReaches Lib.Crc32.crc32 wrappedHeader wrappedHeader 0 ∧
      0 < wrappedHeader.length ∧
      ¬ CallInBounds Lib.Crc32.crc32 (wrappedHeader.drop 0) :=
  ⟨.start, by decide, fun bounds => bounds.reads (-4) 4 wrappedHeader_out_of_bounds⟩

theorem reached_call_in_bounds_iff_empty_frame :
    CallInBounds Lib.Crc32.crc32 (frame Lib.Crc32.crc32 []) :=
  (reached_call_in_bounds_iff Lib.Crc32.crc32 (frame Lib.Crc32.crc32 [])
    (frame Lib.Crc32.crc32 []) 0 .start (by decide +kernel)).2.mpr (by decide +kernel)

end Emserver.BufferProcessor
