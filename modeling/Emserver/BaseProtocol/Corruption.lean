import Emserver.BaseProtocol.Frame
import Emserver.Lib.Crc32

/-!
# Short corruptions

The frame's checksum is stored where the CRC-32 register would take it in, so a
frame is accepted exactly when the register ends in the residue behind all of
its bytes.  A change of up to four consecutive bytes behind the header, in the
payload, the checksum or across the border, leaves the register elsewhere.
-/

set_option autoImplicit false

namespace Emserver.BaseProtocol

open Lib.LittleEndian
open Lib.Crc32

/-- Bytes of the same number as `original`, all differences in a window of four
behind the header. -/
structure ShortCorruption (original data : List UInt8) : Prop where
  sameLength : data.length = original.length
  differs : data ≠ original
  window : ∃ start, 5 ≤ start ∧
    ∀ i, data[i]? ≠ original[i]? → start ≤ i ∧ i < start + 4

theorem shortCorruption_set (original : List UInt8) (place : Nat) (byte : UInt8)
    (behind : 5 ≤ place) (differs : original.set place byte ≠ original) :
    ShortCorruption original (original.set place byte) := by
  refine ⟨List.length_set, differs, place, behind, ?_⟩
  intro i different
  rw [List.getElem?_set] at different
  split at different
  · omega
  · exact absurd rfl different

/-- The checksum of a frame that fills the buffer matches exactly at the residue. -/
theorem checksum_matches_iff (data : List UInt8) (large : 4 ≤ totalSize data)
    (fills : data.length = totalSize data) :
    computedChecksum crc32 data = storedChecksum data ↔
      feed 0xFFFFFFFF#32 data = residue := by
  have storedLength : (data.drop (totalSize data - 4)).length = 4 := by
    rw [List.length_drop]
    omega
  have stored : (data.drop (totalSize data - 4)).take 4 = data.drop (totalSize data - 4) :=
    List.take_of_length_le (by omega)
  rw [computedChecksum, storedChecksum, stored, checksum_iff _ _ storedLength,
    List.take_append_drop]

/-- What differs in a window only is the same before and behind it. -/
theorem window_split (original data : List UInt8) (start : Nat)
    (window : ∀ i, data[i]? ≠ original[i]? → start ≤ i ∧ i < start + 4) :
    data.take start = original.take start ∧
      data.drop (start + 4) = original.drop (start + 4) := by
  constructor
  · apply List.ext_getElem?
    intro i
    rw [List.getElem?_take, List.getElem?_take]
    split
    · by_contra different
      have inside := window i different
      omega
    · rfl
  · apply List.ext_getElem?
    intro i
    rw [List.getElem?_drop, List.getElem?_drop]
    by_contra different
    have inside := window (start + 4 + i) different
    omega

theorem three_parts (data : List UInt8) (start : Nat) :
    data = data.take start ++ (data.drop start).take 4 ++ data.drop (start + 4) := by
  rw [List.append_assoc, ← List.drop_drop, List.take_append_drop, List.take_append_drop]

theorem register_of_corruption (original data : List UInt8)
    (corruption : ShortCorruption original data) (register : BitVec 32) :
    feed register data ≠ feed register original := by
  intro same
  obtain ⟨start, _, window⟩ := corruption.window
  obtain ⟨front, back⟩ := window_split original data start window
  have split := three_parts data start
  rw [front, back] at split
  have sizes : ((data.drop start).take 4).length = ((original.drop start).take 4).length := by
    simp [corruption.sameLength]
  have windows : (data.drop start).take 4 = (original.drop start).take 4 := by
    apply burst_detected (original.take start) _ _ (original.drop (start + 4)) (by simp)
      sizes register
    rw [← split, ← three_parts original start]
    exact same
  rw [windows, ← three_parts original start] at split
  exact corruption.differs split

/-- The header is in front of the window. -/
theorem header_of_corruption (original data : List UInt8) (long : 5 ≤ original.length)
    (corruption : ShortCorruption original data) :
    data.head? = original.head? ∧ totalSize data = totalSize original := by
  obtain ⟨start, behind, window⟩ := corruption.window
  have front := (window_split original data start window).1
  have five : data.take 5 = original.take 5 := by
    have cut := congrArg (List.take 5) front
    rwa [List.take_take, List.take_take, Nat.min_eq_left behind] at cut
  have total : ∀ bytes : List UInt8, 5 ≤ bytes.length →
      totalSize bytes = totalSize (bytes.take 5) := by
    intro bytes enough
    have whole := totalSize_append (bytes.take 5) (bytes.drop 5) (by simp; omega)
    rwa [List.take_append_drop] at whole
  constructor
  · have heads := congrArg List.head? five
    simpa [List.head?_take] using heads
  · have sameLength := corruption.sameLength
    rw [total data (by omega), total original long, five]

/-- No short corruption of a frame is taken for a frame. -/
theorem short_corruption_detected (payload : List UInt8) (small : payload.length < 2147483648)
    (data : List UInt8)
    (corruption : ShortCorruption ((create payload).makeProtocolMessage crc32) data) :
    extractFromRawData crc32 (some data) = .ok ⟨.invalidChecksum, none⟩ := by
  rw [makeProtocolMessage_eq crc32 payload (by omega)] at corruption
  have frameLength : (frame crc32 payload).length = payload.length + 9 := by simp
  have sameLength := corruption.sameLength
  obtain ⟨head, total⟩ :=
    header_of_corruption (frame crc32 payload) data (by omega) corruption
  have frameTotal : totalSize (frame crc32 payload) = payload.length + 9 := by
    have whole := totalSize_frame crc32 payload [] (by omega)
    rwa [List.append_nil] at whole
  have isMagic : data.head? = some magic := by
    have frameHead := frame_head crc32 payload []
    rw [List.append_nil] at frameHead
    exact head.trans frameHead
  have frameMatches : feed 0xFFFFFFFF#32 (frame crc32 payload) = residue := by
    have checksum := checksum_frame crc32 payload [] (by omega)
    rw [List.append_nil] at checksum
    exact (checksum_matches_iff _ (by omega) (by omega)).mp checksum
  apply extract_invalidChecksum crc32 data isMagic (by omega) (by omega) (by omega)
  intro accepted
  have register := (checksum_matches_iff data (by omega) (by omega)).mp accepted
  exact register_of_corruption (frame crc32 payload) data corruption _
    (register.trans frameMatches.symm)

theorem short_corruption_detected_oneByte :
    extractFromRawData crc32
        (some (((create [0x41]).makeProtocolMessage crc32).set 5 0x42)) =
      .ok ⟨.invalidChecksum, none⟩ :=
  short_corruption_detected [0x41] (by decide) _
    (shortCorruption_set _ 5 0x42 (by decide) (by decide +kernel))

end Emserver.BaseProtocol
