import Emserver.BaseProtocol.Frame
import Emserver.Lib.Crc32

/-!
# Decisions on a growing buffer

The header fixes which bytes `extractFromRawData` looks at, and it decides only
once they are there.  A part of a frame is therefore never decided, and what was
decided, a fault included, stays when more bytes arrive.
-/

set_option autoImplicit false

namespace Emserver.BaseProtocol

/-- The payload of a complete frame is copied, or its size is impossible, alike. -/
theorem fromRange_append (data more : List UInt8) (complete : totalSize data ≤ data.length) :
    fromRange (data ++ more) 5 (sizeT (int32 (sizeT (totalSize data - 4 * 2 - 1)))) =
      fromRange data 5 (sizeT (int32 (sizeT (totalSize data - 4 * 2 - 1)))) := by
  by_cases bad : totalSize data < 9 ∨ 2147483657 ≤ totalSize data
  · have tooLarge := payloadSz_too_large _ (totalSize_lt data) bad
    rw [fromRange, fromRange, if_pos tooLarge, if_pos tooLarge]
  · have size := payloadSz_eq (totalSize data) (by omega) (by omega)
    have here : readAt data 5 (totalSize data - 9) =
        .ok ((data.drop 5).take (totalSize data - 9)) :=
      readAt_inside data 5 _ (by omega)
    have there : readAt (data ++ more) 5 (totalSize data - 9) =
        .ok (((data ++ more).drop 5).take (totalSize data - 9)) :=
      readAt_inside (data ++ more) 5 _ (by simp; omega)
    rw [size, fromRange, fromRange, here, there, slice_append data more 5 _ (by omega)]

section Stability
variable (crc : List UInt8 → UInt32)

section Append
variable (data more : List UInt8) (long : 5 < data.length)
variable (complete : totalSize data ≤ data.length)
include long complete

theorem computedChecksum_append :
    computedChecksum crc (data ++ more) = computedChecksum crc data := by
  have total := totalSize_append data more (by omega)
  rw [computedChecksum, computedChecksum, total, List.take_append_of_le_length (by omega)]

theorem storedChecksum_append (large : 4 ≤ totalSize data) :
    storedChecksum (data ++ more) = storedChecksum data := by
  have total := totalSize_append data more (by omega)
  rw [storedChecksum, storedChecksum, total, slice_append data more _ 4 (by omega)]

end Append

/-- Only `NeedMoreData` can change. -/
theorem extract_append (data more : List UInt8) (nonempty : data ≠ [])
    (decided : extractFromRawData crc (some data) ≠ .ok ⟨.needMoreData, none⟩) :
    extractFromRawData crc (some (data ++ more)) = extractFromRawData crc (some data) := by
  have head : (data ++ more).head? = data.head? := List.head?_append_of_ne_nil data nonempty
  by_cases isMagic : data.head? = some magic
  case neg =>
    rw [extract_invalidFirstByte crc data nonempty isMagic]
    exact extract_invalidFirstByte crc (data ++ more) (by simp [nonempty]) (by rwa [head])
  by_cases long : 5 < data.length
  case neg => exact absurd (extract_short crc data isMagic (by omega)) decided
  by_cases complete : totalSize data ≤ data.length
  case neg => exact absurd (extract_incomplete crc data isMagic long (by omega)) decided
  have total := totalSize_append data more (by omega)
  have moreMagic : (data ++ more).head? = some magic := head.trans isMagic
  have moreLong : 5 < (data ++ more).length := by
    simp
    omega
  by_cases large : 4 ≤ totalSize data
  case neg =>
    rw [extract_before_start crc data isMagic long (by omega),
      extract_before_start crc (data ++ more) moreMagic moreLong (by omega), total]
  have moreComplete : totalSize (data ++ more) ≤ (data ++ more).length := by
    rw [total, List.length_append]
    omega
  rw [extract_complete crc data isMagic long complete large,
    extract_complete crc (data ++ more) moreMagic moreLong moreComplete (by omega), total,
    computedChecksum_append crc data more long complete,
    storedChecksum_append data more long complete large,
    fromRange_append data more complete]

/-- Every proper part of the frame of `payload` waits for more data. -/
def NeverPremature (payload : List UInt8) : Prop :=
  ∀ part missing, part ≠ [] → missing ≠ [] →
    (create payload).makeProtocolMessage crc = part ++ missing →
      extractFromRawData crc (some part) = .ok ⟨.needMoreData, none⟩

/-- What the call returns on `data`, unless it needs more, it returns on every
extension. -/
def StaysDecided (data : List UInt8) : Prop :=
  ∀ extraction, extractFromRawData crc (some data) = .ok extraction →
    extraction.reason ≠ .needMoreData →
      ∀ more, extractFromRawData crc (some (data ++ more)) = .ok extraction

/-- No decision is made on a part of a frame, and none is revised. -/
theorem decisions_stable :
    (∀ payload, payload.length < 2147483648 → NeverPremature crc payload) ∧
      ∀ data, data ≠ [] → StaysDecided crc data := by
  constructor
  · intro payload small part missing started cutShort split
    rw [makeProtocolMessage_eq crc payload (by omega)] at split
    exact extract_cut_frame crc payload part missing (by omega) split started cutShort
  · intro data nonempty extraction run decisive more
    have decided : extractFromRawData crc (some data) ≠ .ok ⟨.needMoreData, none⟩ := by
      intro undecided
      rw [run] at undecided
      cases undecided
      contradiction
    rw [extract_append crc data more nonempty decided, run]

end Stability

/-- The halves of a frame of one byte, and the frame with another behind it. -/
theorem decisions_stable_oneByte :
    extractFromRawData Lib.Crc32.crc32 (some ((frame Lib.Crc32.crc32 [0x24]).take 5)) =
        .ok ⟨.needMoreData, none⟩ ∧
      extractFromRawData Lib.Crc32.crc32
          (some (frame Lib.Crc32.crc32 [0x24] ++ frame Lib.Crc32.crc32 [0x41])) =
        .ok ⟨.none, some ⟨[0x24]⟩⟩ := by
  obtain ⟨premature, stays⟩ := decisions_stable Lib.Crc32.crc32
  exact ⟨premature [0x24] (by decide) _ ((frame Lib.Crc32.crc32 [0x24]).drop 5) (by decide)
      (by decide +kernel) (by decide +kernel),
    stays (frame Lib.Crc32.crc32 [0x24]) (by decide) ⟨.none, some ⟨[0x24]⟩⟩
      (by decide +kernel) (by decide) _⟩

end Emserver.BaseProtocol
