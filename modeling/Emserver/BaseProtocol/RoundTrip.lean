import Emserver.BaseProtocol.Frame
import Emserver.Lib.Crc32

/-!
# Round trip and canonicity

The encoder writes a frame for every payload the 32-bit length field can
express.  The decoder keeps the payload size in an `int32_t`, so it reads the
frame back below `2^31` bytes only; in the other direction, what it accepts is
always the encoding of the message it returns.
-/

set_option autoImplicit false

namespace Emserver.BaseProtocol
open Lib.LittleEndian

section RoundTrip
variable (crc : List UInt8 → UInt32)

/-- The frame of `payload` has the size `fullSize` announces and is read back
from in front of `rest`, which is what erasing `fullSize` bytes leaves. -/
def RoundTrips (payload rest : List UInt8) : Prop :=
  ((create payload).makeProtocolMessage crc).length = (create payload).fullSize ∧
    (create payload).fullSize = payload.length + 9 ∧
    ∃ message,
      extractFromRawData crc (some ((create payload).makeProtocolMessage crc ++ rest)) =
        .ok ⟨.none, some message⟩ ∧
      message.payload = payload ∧
      message.fullSize = ((create payload).makeProtocolMessage crc).length ∧
      ((create payload).makeProtocolMessage crc ++ rest).drop message.fullSize = rest

theorem roundTrips_of_small (payload rest : List UInt8)
    (small : payload.length < 2147483648) : RoundTrips crc payload rest := by
  have bound : payload.length + 9 < 4294967296 := by omega
  have sized : ((create payload).makeProtocolMessage crc).length =
      (create payload).fullSize := by
    rw [makeProtocolMessage_size, fullSize_create payload bound]
    rfl
  refine ⟨sized, fullSize_create payload bound, create payload, ?_, rfl, sized.symm, ?_⟩
  · rw [makeProtocolMessage_eq crc payload bound]
    exact extract_frame crc payload rest small
  · rw [← sized, List.drop_left]

/-- From `2^31` payload bytes on the decoder throws `std::length_error`. -/
theorem extract_large_frame (payload rest : List UInt8)
    (bound : payload.length + 9 < 4294967296) (large : 2147483648 ≤ payload.length) :
    ∃ size, extractFromRawData crc
      (some ((create payload).makeProtocolMessage crc ++ rest)) =
        .error (.lengthError size) := by
  have total := totalSize_frame crc payload rest bound
  have lengthExact : (frame crc payload ++ rest).length =
      payload.length + 9 + rest.length := by simp
  rw [makeProtocolMessage_eq crc payload bound]
  apply extract_lengthError crc (frame crc payload ++ rest) (frame_head crc payload rest)
  · omega
  · omega
  · omega
  · exact checksum_frame crc payload rest bound
  · omega

theorem not_roundTrips_of_large (payload rest : List UInt8)
    (bound : payload.length + 9 < 4294967296) (large : 2147483648 ≤ payload.length) :
    ¬ RoundTrips crc payload rest := by
  intro roundTrips
  obtain ⟨_, _, message, run, _⟩ := roundTrips
  obtain ⟨size, failed⟩ := extract_large_frame crc payload rest bound large
  rw [failed] at run
  contradiction

/-- A payload survives the trip exactly when its size fits `int32_t`. -/
theorem round_trip_iff (payload rest : List UInt8)
    (bound : payload.length + 9 < 4294967296) :
    RoundTrips crc payload rest ↔ payload.length < 2147483648 := by
  constructor
  · intro roundTrips
    by_contra large
    exact not_roundTrips_of_large crc payload rest bound (by omega) roundTrips
  · exact roundTrips_of_small crc payload rest

end RoundTrip

theorem round_trip_iff_oneByte :
    RoundTrips Lib.Crc32.crc32 [0x24] [0x24, 0x01] ↔ [(0x24 : UInt8)].length < 2147483648 :=
  round_trip_iff Lib.Crc32.crc32 [0x24] [0x24, 0x01] (by decide)

/-- The first payload size that `int32_t` cannot hold. -/
def twoGibibytes : List UInt8 := List.replicate 2147483648 0

theorem twoGibibytes_lost :
    twoGibibytes.length + 9 < 4294967296 ∧
      ¬ RoundTrips Lib.Crc32.crc32 twoGibibytes [] := by
  have size : twoGibibytes.length = 2147483648 := List.length_replicate
  have bound : twoGibibytes.length + 9 < 4294967296 := by omega
  exact ⟨bound, not_roundTrips_of_large Lib.Crc32.crc32 twoGibibytes [] bound (by omega)⟩

/-! ## Canonicity -/

section Canonical
variable (crc : List UInt8 → UInt32)

/-- `data` begins with the encoding of `message`, whose length field does not
wrap. -/
structure Encodes (data : List UInt8) (message : Message) : Prop where
  fits : message.fullSize ≤ data.length
  encoding : data.take message.fullSize = message.makeProtocolMessage crc
  unwrapped : lengthField data + 9 < 4294967296

theorem encodes_frame (payload rest : List UInt8) (bound : payload.length + 9 < 4294967296) :
    Encodes crc (frame crc payload ++ rest) ⟨payload⟩ := by
  have size : (⟨payload⟩ : Message).fullSize = (frame crc payload).length :=
    fullSize_eq crc payload bound
  have image : (⟨payload⟩ : Message).makeProtocolMessage crc = frame crc payload :=
    makeProtocolMessage_eq crc payload bound
  constructor
  · rw [size, List.length_append]
    exact Nat.le_add_right _ _
  · rw [size, image, List.take_left]
  · rw [lengthField_frame crc payload rest bound]
    exact bound

/-- A call that finishes returns a message exactly with the reason `None`, and
then the buffer begins with the encoding of that message. -/
theorem extraction_canonical (data : List UInt8) (nonempty : data ≠ [])
    (extraction : Extraction) (finishes : extractFromRawData crc (some data) = .ok extraction) :
    (extraction.message.isSome ↔ extraction.reason = .none) ∧
      ∀ message, extraction.message = some message →
        Encodes crc data message ∧
          ∀ other, other ≠ [] → extractFromRawData crc (some other) = .ok extraction →
            other.take message.fullSize = data.take message.fullSize := by
  rcases extract_cases crc data nonempty with
    ⟨_, fault, run⟩ | ⟨reason, failure, run⟩ | ⟨payload, rest, bound, split, run⟩
  · rw [run] at finishes
    contradiction
  · rw [run] at finishes
    cases finishes
    simpa using failure
  · rw [run] at finishes
    cases finishes
    refine ⟨by simp, ?_⟩
    intro message same
    cases same
    have encodes : Encodes crc data ⟨payload⟩ := by
      rw [split]
      exact encodes_frame crc payload rest (by omega)
    refine ⟨encodes, ?_⟩
    intro other otherNonempty otherRun
    obtain ⟨_, _, otherRest, otherSplit⟩ :=
      extract_message_inv crc other otherNonempty .none ⟨payload⟩ otherRun
    have otherEncodes : Encodes crc other ⟨payload⟩ := by
      rw [otherSplit]
      exact encodes_frame crc payload otherRest (by omega)
    rw [otherEncodes.encoding, encodes.encoding]

end Canonical

theorem extraction_canonical_oneByte :
    ((some (⟨[0x41]⟩ : Message)).isSome ↔ ExtractionFailure.none = .none) ∧
      ∀ message, some (⟨[0x41]⟩ : Message) = some message →
        Encodes Lib.Crc32.crc32 (frame Lib.Crc32.crc32 [0x41]) message ∧
          ∀ other, other ≠ [] → extractFromRawData Lib.Crc32.crc32 (some other) =
              .ok ⟨.none, some ⟨[0x41]⟩⟩ →
            other.take message.fullSize =
              (frame Lib.Crc32.crc32 [0x41]).take message.fullSize :=
  extraction_canonical Lib.Crc32.crc32 (frame Lib.Crc32.crc32 [0x41])
    (by simp [frame, frameHeader]) ⟨.none, some ⟨[0x41]⟩⟩ (by decide +kernel)

end Emserver.BaseProtocol
