import Emserver.BaseProtocol

/-!
# Which bytes are a frame

`extractFromRawData` decides by the header alone.  This module computes its
outcome for every input and identifies the accepted inputs: those that begin
with `frame crc payload` for a payload below `2^31` bytes, the bytes
`makeProtocolMessage` writes.
-/

set_option autoImplicit false

namespace Emserver.BaseProtocol
open Lib.LittleEndian

def lengthField (data : List UInt8) : Nat := leNat ((data.drop 1).take 4)

def totalSize (data : List UInt8) : Nat := uint32 (lengthField data + 9)

def storedChecksum (data : List UInt8) : Nat :=
  leNat ((data.drop (totalSize data - 4)).take 4)

def computedChecksum (crc : List UInt8 → UInt32) (data : List UInt8) : Nat :=
  (crc (data.take (totalSize data - 4))).toNat

theorem readAt_inside (pData : List UInt8) (offset size : Nat)
    (inside : offset + size ≤ pData.length) :
    readAt pData offset size = .ok ((pData.drop offset).take size) := by
  have bound : (offset : Int) + size ≤ pData.length := by omega
  simp [readAt, bound]

theorem readAt_negative (pData : List UInt8) (offset : Int) (size : Nat)
    (negative : offset < 0) :
    readAt pData offset size = .error (.outOfBounds offset size) := by
  have outside : ¬ (0 ≤ offset ∧ offset + size ≤ pData.length) := by omega
  simp [readAt, outside]

theorem slice_append (data more : List UInt8) (offset size : Nat)
    (inside : offset + size ≤ data.length) :
    ((data ++ more).drop offset).take size = (data.drop offset).take size := by
  rw [List.drop_append_of_le_length (by omega),
    List.take_append_of_le_length (by rw [List.length_drop]; omega)]

theorem lengthField_append (data more : List UInt8) (long : 5 ≤ data.length) :
    lengthField (data ++ more) = lengthField data := by
  rw [lengthField, lengthField, slice_append data more 1 4 (by omega)]

theorem totalSize_append (data more : List UInt8) (long : 5 ≤ data.length) :
    totalSize (data ++ more) = totalSize data := by
  rw [totalSize, totalSize, lengthField_append data more long]

theorem totalSize_lt (data : List UInt8) : totalSize data < 4294967296 := by
  unfold totalSize uint32
  omega

theorem total_is_totalSize (data : List UInt8) :
    uint32 (uint32 (4 + 1) + (lengthField data + 4)) = totalSize data := by
  unfold totalSize uint32
  omega

/-! ## Header arithmetic -/

/-- The 64-bit position of the stored checksum, when the total allows one. -/
theorem checked_eq (total : Nat) (bound : total < 4294967296) (large : 4 ≤ total) :
    sizeT (total - 4) = total - 4 := by
  unfold sizeT
  omega

theorem displacement_checked (total : Nat) (bound : total < 4294967296) :
    displacement (sizeT (total - 4)) = total - 4 := by
  unfold displacement sizeT
  split <;> omega

/-- The payload size survives its trip through `int32_t` below `2^31`. -/
theorem payloadSz_eq (total : Nat) (large : 9 ≤ total) (bound : total < 2147483657) :
    sizeT (int32 (sizeT (total - 4 * 2 - 1))) = total - 9 := by
  unfold sizeT int32
  omega

/-- Otherwise it is negative, and as a `size_t` beyond any vector. -/
theorem payloadSz_too_large (total : Nat) (bound : total < 4294967296)
    (bad : total < 9 ∨ 2147483657 ≤ total) :
    maxSize < sizeT (int32 (sizeT (total - 4 * 2 - 1))) := by
  unfold maxSize sizeT int32
  omega

/-! ## Outcomes by header -/

section Header
variable (crc : List UInt8 → UInt32) (data : List UInt8)

theorem extract_invalidFirstByte (nonempty : data ≠ []) (other : data.head? ≠ some magic) :
    extractFromRawData crc (some data) = .ok ⟨.invalidFirstByte, none⟩ := by
  cases data with
  | nil => contradiction
  | cons first rest =>
      have firstRead : readAt (first :: rest) 0 1 = .ok [first] := by
        simpa using readAt_inside (first :: rest) 0 1 (by simp)
      have different : [first] ≠ [magic] := by simpa using other
      simp [extractFromRawData, firstRead, bind, Except.bind, different]

theorem firstRead_magic (isMagic : data.head? = some magic) :
    readAt data 0 1 = .ok [magic] := by
  cases data with
  | nil => simp at isMagic
  | cons first rest =>
      have same : first = magic := by simpa using isMagic
      simpa [same] using readAt_inside (first :: rest) 0 1 (by simp)

theorem extract_short (isMagic : data.head? = some magic) (short : data.length ≤ 5) :
    extractFromRawData crc (some data) = .ok ⟨.needMoreData, none⟩ := by
  have header : data.length ≤ uint32 (4 + 1) := short
  simp only [extractFromRawData, bind, Except.bind, firstRead_magic data isMagic,
    ne_eq, not_true_eq_false, if_false, if_pos header]

/-- Past the header the outcome depends on the total size only. -/
theorem extract_long (isMagic : data.head? = some magic) (long : 5 < data.length) :
    extractFromRawData crc (some data) =
      if data.length < totalSize data then .ok ⟨.needMoreData, none⟩
      else (readAt data (totalSize data - 4) 4).bind fun stored =>
        (calculateChecksum crc data (sizeT (totalSize data - 4))).bind fun calcSum =>
          if calcSum = leNat stored then
            (fromRange data 5 (sizeT (int32 (sizeT (totalSize data - 4 * 2 - 1))))).bind
              fun message => .ok ⟨.none, some message⟩
          else .ok ⟨.invalidChecksum, none⟩ := by
  have header : ¬ data.length ≤ uint32 (4 + 1) := by
    unfold uint32
    omega
  have fieldRead : readAt data 1 4 = .ok ((data.drop 1).take 4) :=
    readAt_inside data 1 4 (by omega)
  have total := total_is_totalSize data
  simp only [lengthField] at total
  simp only [extractFromRawData, bind, Except.bind, firstRead_magic data isMagic,
    ne_eq, not_true_eq_false, if_false, if_neg header, fieldRead, total,
    displacement_checked _ (totalSize_lt data)]
  rfl

theorem extract_incomplete (isMagic : data.head? = some magic) (long : 5 < data.length)
    (incomplete : data.length < totalSize data) :
    extractFromRawData crc (some data) = .ok ⟨.needMoreData, none⟩ := by
  rw [extract_long crc data isMagic long, if_pos incomplete]

/-- A wrapped total below four puts the checksum before the buffer. -/
theorem extract_before_start (isMagic : data.head? = some magic) (long : 5 < data.length)
    (wrapped : totalSize data < 4) :
    extractFromRawData crc (some data) =
      .error (.outOfBounds (totalSize data - 4) 4) := by
  rw [extract_long crc data isMagic long, if_neg (by omega),
    readAt_negative data _ 4 (by omega)]
  rfl

theorem extract_complete (isMagic : data.head? = some magic) (long : 5 < data.length)
    (complete : totalSize data ≤ data.length) (large : 4 ≤ totalSize data) :
    extractFromRawData crc (some data) =
      if computedChecksum crc data = storedChecksum data then
        (fromRange data 5 (sizeT (int32 (sizeT (totalSize data - 4 * 2 - 1))))).bind
          fun message => .ok ⟨.none, some message⟩
      else .ok ⟨.invalidChecksum, none⟩ := by
  have position : ((totalSize data : Int) - 4) = ((totalSize data - 4 : Nat) : Int) := by
    omega
  have storedRead : readAt data (totalSize data - 4) 4 =
      .ok ((data.drop (totalSize data - 4)).take 4) := by
    rw [position]
    exact readAt_inside data _ 4 (by omega)
  have checkedRead : readAt data 0 (totalSize data - 4) =
      .ok (data.take (totalSize data - 4)) := by
    simpa using readAt_inside data 0 (totalSize data - 4) (by omega)
  rw [extract_long crc data isMagic long, if_neg (by omega), storedRead,
    checked_eq _ (totalSize_lt data) large]
  simp only [calculateChecksum, checkedRead, bind, Except.bind]
  rfl

theorem extract_invalidChecksum (isMagic : data.head? = some magic)
    (long : 5 < data.length) (complete : totalSize data ≤ data.length)
    (large : 4 ≤ totalSize data)
    (mismatch : computedChecksum crc data ≠ storedChecksum data) :
    extractFromRawData crc (some data) = .ok ⟨.invalidChecksum, none⟩ := by
  rw [extract_complete crc data isMagic long complete large, if_neg mismatch]

theorem extract_lengthError (isMagic : data.head? = some magic) (long : 5 < data.length)
    (complete : totalSize data ≤ data.length) (large : 4 ≤ totalSize data)
    (same : computedChecksum crc data = storedChecksum data)
    (bad : totalSize data < 9 ∨ 2147483657 ≤ totalSize data) :
    ∃ size, extractFromRawData crc (some data) = .error (.lengthError size) := by
  have tooLarge := payloadSz_too_large _ (totalSize_lt data) bad
  refine ⟨sizeT (int32 (sizeT (totalSize data - 4 * 2 - 1))), ?_⟩
  rw [extract_complete crc data isMagic long complete large, if_pos same, fromRange,
    if_pos tooLarge]
  rfl

theorem extract_message (isMagic : data.head? = some magic) (long : 5 < data.length)
    (complete : totalSize data ≤ data.length) (large : 9 ≤ totalSize data)
    (bound : totalSize data < 2147483657)
    (same : computedChecksum crc data = storedChecksum data) :
    extractFromRawData crc (some data) =
      .ok ⟨.none, some ⟨(data.drop 5).take (totalSize data - 9)⟩⟩ := by
  have payloadRead : readAt data 5 (totalSize data - 9) =
      .ok ((data.drop 5).take (totalSize data - 9)) :=
    readAt_inside data 5 _ (by omega)
  have small : ¬ maxSize < totalSize data - 9 := by
    unfold maxSize
    omega
  rw [extract_complete crc data isMagic long complete (by omega), if_pos same,
    payloadSz_eq _ large bound, fromRange, if_neg small, payloadRead]
  rfl

/-- The bytes on which the length arithmetic of `extractFromRawData` goes wrong:
the total wraps below the four checksum bytes, or a matching checksum hands the
constructor a negative 32-bit payload size. -/
def LengthOverflow : Prop :=
  data.head? = some magic ∧ 5 < data.length ∧ totalSize data ≤ data.length ∧
    (totalSize data < 4 ∨
      (totalSize data < 9 ∨ 2147483657 ≤ totalSize data) ∧
        computedChecksum crc data = storedChecksum data)

instance lengthOverflowDecidable : Decidable (LengthOverflow crc data) := by
  unfold LengthOverflow
  infer_instance

theorem extract_error_of_overflow (overflow : LengthOverflow crc data) :
    ∃ fault, extractFromRawData crc (some data) = .error fault := by
  obtain ⟨isMagic, long, complete, cause⟩ := overflow
  rcases cause with wrapped | ⟨bad, same⟩
  · exact ⟨_, extract_before_start crc data isMagic long wrapped⟩
  · by_cases large : 4 ≤ totalSize data
    · obtain ⟨size, run⟩ := extract_lengthError crc data isMagic long complete large same bad
      exact ⟨_, run⟩
    · exact ⟨_, extract_before_start crc data isMagic long (by omega)⟩

end Header

/-! ## Frames -/

section Frame
variable (crc : List UInt8 → UInt32)

def frameHeader (payload : List UInt8) : List UInt8 :=
  magic :: leBytes 4 payload.length

def frame (payload : List UInt8) : List UInt8 :=
  frameHeader payload ++ payload ++
    leBytes 4 (crc (frameHeader payload ++ payload)).toNat

@[simp] theorem frameHeader_length (payload : List UInt8) :
    (frameHeader payload).length = 5 := by
  simp [frameHeader]

@[simp] theorem frame_length (payload : List UInt8) :
    (frame crc payload).length = payload.length + 9 := by
  simp [frame]
  omega

theorem frame_head (payload rest : List UInt8) :
    (frame crc payload ++ rest).head? = some magic := by
  simp [frame, frameHeader]

theorem writeAt_end (front reserved bytes : List UInt8)
    (lengthExact : reserved.length = bytes.length) :
    writeAt (front ++ reserved) front.length bytes = front ++ bytes := by
  simp [writeAt, ← lengthExact]

/-- The size does not depend on the length field: a checksum position that wraps
overwrites bytes of the message. -/
theorem makeProtocolMessage_size (message : Message) :
    (message.makeProtocolMessage crc).length = message.payload.length + 9 := by
  have position : uint32 (1 + 4 + uint32 message.payload.length) ≤
      message.payload.length + 5 := by
    unfold uint32
    omega
  simp only [Message.makeProtocolMessage, writeAt, List.length_append, List.length_take,
    List.length_drop, List.length_cons, leBytes_length, List.length_replicate]
  omega

theorem makeProtocolMessage_eq (payload : List UInt8)
    (bound : payload.length + 9 < 4294967296) :
    (create payload).makeProtocolMessage crc = frame crc payload := by
  have sizeField : uint32 payload.length = payload.length := by
    unfold uint32
    omega
  have position : uint32 (1 + 4 + payload.length) =
      (frameHeader payload ++ payload).length := by
    simp only [List.length_append, frameHeader_length]
    unfold uint32
    omega
  have body : magic :: leBytes 4 payload.length ++ payload =
      frameHeader payload ++ payload := rfl
  simp only [Message.makeProtocolMessage, create, sizeField, position, body]
  rw [writeAt_end _ _ _ (by simp), frame]

theorem fullSize_create (payload : List UInt8) (bound : payload.length + 9 < 4294967296) :
    (create payload).fullSize = payload.length + 9 := by
  simp only [Message.fullSize, create, uint32]
  omega

theorem fullSize_eq (payload : List UInt8) (bound : payload.length + 9 < 4294967296) :
    (create payload).fullSize = (frame crc payload).length := by
  rw [fullSize_create payload bound, frame_length]

theorem lengthField_frame (payload rest : List UInt8)
    (bound : payload.length + 9 < 4294967296) :
    lengthField (frame crc payload ++ rest) = payload.length := by
  have field : ((frame crc payload ++ rest).drop 1).take 4 = leBytes 4 payload.length := by
    simp [frame, frameHeader]
  rw [lengthField, field, leNat_leBytes, Nat.mod_eq_of_lt (by omega)]

theorem totalSize_frame (payload rest : List UInt8)
    (bound : payload.length + 9 < 4294967296) :
    totalSize (frame crc payload ++ rest) = payload.length + 9 := by
  rw [totalSize, lengthField_frame crc payload rest bound]
  unfold uint32
  omega

theorem checksum_frame (payload rest : List UInt8)
    (bound : payload.length + 9 < 4294967296) :
    computedChecksum crc (frame crc payload ++ rest) =
      storedChecksum (frame crc payload ++ rest) := by
  have total := totalSize_frame crc payload rest bound
  have covered : totalSize (frame crc payload ++ rest) - 4 =
      (frameHeader payload ++ payload).length := by
    simp only [total, List.length_append, frameHeader_length]
    omega
  have checksumBound := (crc (frameHeader payload ++ payload)).toNat_lt
  have computed : (frame crc payload ++ rest).take (frameHeader payload ++ payload).length =
      frameHeader payload ++ payload := by
    rw [frame, List.append_assoc, List.take_left]
  have stored : ((frame crc payload ++ rest).drop
      (frameHeader payload ++ payload).length).take 4 =
      leBytes 4 (crc (frameHeader payload ++ payload)).toNat := by
    rw [frame, List.append_assoc, List.drop_left]
    simp
  rw [computedChecksum, storedChecksum, covered, computed, stored, leNat_leBytes,
    Nat.mod_eq_of_lt (by omega)]

/-- What the encoder wrote is read back, whatever follows it. -/
theorem extract_frame (payload rest : List UInt8) (bound : payload.length < 2147483648) :
    extractFromRawData crc (some (frame crc payload ++ rest)) =
      .ok ⟨.none, some ⟨payload⟩⟩ := by
  have total := totalSize_frame crc payload rest (by omega)
  have lengthExact : (frame crc payload ++ rest).length =
      payload.length + 9 + rest.length := by simp
  have run := extract_message crc (frame crc payload ++ rest)
    (frame_head crc payload rest) (by omega) (by omega) (by omega) (by omega)
    (checksum_frame crc payload rest (by omega))
  have range : ((frame crc payload ++ rest).drop 5).take
      (totalSize (frame crc payload ++ rest) - 9) = payload := by
    have tail : (frame crc payload ++ rest).drop 5 = payload ++
        (leBytes 4 (crc (frameHeader payload ++ payload)).toNat ++ rest) := by
      have header : 5 = (frameHeader payload).length := by simp
      rw [header, frame, List.append_assoc, List.append_assoc, List.drop_left]
    rw [tail, total, Nat.add_sub_cancel, List.take_left]
  rw [run, range]

theorem extract_cut_frame (payload part missing : List UInt8)
    (bound : payload.length + 9 < 4294967296) (split : frame crc payload = part ++ missing)
    (started : part ≠ []) (cutShort : missing ≠ []) :
    extractFromRawData crc (some part) = .ok ⟨.needMoreData, none⟩ := by
  have shorter : part.length < payload.length + 9 := by
    have lengths := congrArg List.length split
    have positive := List.length_pos_iff.mpr cutShort
    simp only [frame_length, List.length_append] at lengths
    omega
  have isMagic : part.head? = some magic := by
    have head := frame_head crc payload []
    rw [split] at head
    cases part with
    | nil => contradiction
    | cons first rest => simpa using head
  by_cases long : 5 < part.length
  case neg => exact extract_short crc part isMagic (by omega)
  have total : totalSize part = payload.length + 9 := by
    have whole := totalSize_frame crc payload [] bound
    rwa [List.append_nil, split, totalSize_append part missing (by omega)] at whole
  exact extract_incomplete crc part isMagic long (by omega)

/-- `data` begins with a complete frame: the magic byte, a length, that many
payload bytes and the matching checksum. -/
def StartsFrame (data : List UInt8) : Prop :=
  ∃ payload rest, payload.length + 9 < 4294967296 ∧ data = frame crc payload ++ rest

theorem lengthField_lt (data : List UInt8) : lengthField data < 4294967296 := by
  have bound := leNat_lt_width ((data.drop 1).take 4) 4 (by simp)
  unfold lengthField
  omega

theorem lengthField_of_totalSize (data : List UInt8) (large : 9 ≤ totalSize data) :
    lengthField data + 9 = totalSize data := by
  have bound := lengthField_lt data
  unfold totalSize uint32 at large ⊢
  omega

theorem take_five (data : List UInt8) (isMagic : data.head? = some magic)
    (long : 5 ≤ data.length) :
    data.take 5 = magic :: leBytes 4 (lengthField data) := by
  cases data with
  | nil => simp at isMagic
  | cons first rest =>
      have same : first = magic := by simpa using isMagic
      have fieldLength : (rest.take 4).length = 4 := by
        simp only [List.length_cons] at long
        simp
        omega
      have field : leBytes 4 (leNat (rest.take 4)) = rest.take 4 := by
        have image := leBytes_leNat (rest.take 4)
        rwa [fieldLength] at image
      simp [lengthField, field, same]

/-- The first five bytes are the header of the payload they announce. -/
theorem take_header (data : List UInt8) (isMagic : data.head? = some magic)
    (complete : lengthField data + 9 ≤ data.length) :
    data.take 5 = frameHeader ((data.drop 5).take (lengthField data)) := by
  have payloadLength : ((data.drop 5).take (lengthField data)).length = lengthField data := by
    simp
    omega
  rw [take_five data isMagic (by omega), frameHeader, payloadLength]

theorem frame_of_header (data : List UInt8) (isMagic : data.head? = some magic)
    (large : 9 ≤ totalSize data) (complete : totalSize data ≤ data.length)
    (same : computedChecksum crc data = storedChecksum data) :
    data = frame crc ((data.drop 5).take (totalSize data - 9)) ++
      data.drop (totalSize data) := by
  have size := lengthField_of_totalSize data large
  have fieldSize : totalSize data - 9 = lengthField data := by omega
  have header := take_header data isMagic (by omega)
  have body : data.take (totalSize data - 4) =
      frameHeader ((data.drop 5).take (lengthField data)) ++
        (data.drop 5).take (lengthField data) := by
    rw [← header, ← List.take_add]
    congr 1
    omega
  have storedLength : ((data.drop (totalSize data - 4)).take 4).length = 4 := by
    simp
    omega
  have stored : (data.drop (totalSize data - 4)).take 4 =
      leBytes 4 (crc (data.take (totalSize data - 4))).toNat := by
    apply (leNat_eq_iff _ 4 _ storedLength _).mp
    · exact same.symm
    · exact (crc _).toNat_lt
  have frameBytes : frame crc ((data.drop 5).take (lengthField data)) =
      data.take (totalSize data) := by
    have whole : totalSize data = (totalSize data - 4) + 4 := by omega
    rw [frame, ← body, ← stored]
    conv => rhs; rw [whole, List.take_add]
  rw [fieldSize, frameBytes, List.take_append_drop]

theorem startsFrame_iff (data : List UInt8) :
    StartsFrame crc data ↔
      data.head? = some magic ∧ 9 ≤ totalSize data ∧ totalSize data ≤ data.length ∧
        computedChecksum crc data = storedChecksum data := by
  constructor
  · rintro ⟨payload, rest, bound, rfl⟩
    have total := totalSize_frame crc payload rest bound
    have lengthExact : (frame crc payload ++ rest).length =
        payload.length + 9 + rest.length := by simp
    exact ⟨frame_head crc payload rest, by omega, by omega,
      checksum_frame crc payload rest bound⟩
  · rintro ⟨isMagic, large, complete, same⟩
    refine ⟨_, _, ?_, frame_of_header crc data isMagic large complete same⟩
    have field := lengthField_of_totalSize data large
    have bound : totalSize data < 4294967296 := Nat.mod_lt _ (by omega)
    simp
    omega

instance startsFrameDecidable (data : List UInt8) : Decidable (StartsFrame crc data) :=
  decidable_of_iff _ (startsFrame_iff crc data).symm

/-- The three outcomes on a non-empty buffer. -/
theorem extract_cases (data : List UInt8) (nonempty : data ≠ []) :
    (LengthOverflow crc data ∧
      ∃ fault, extractFromRawData crc (some data) = .error fault) ∨
    (∃ reason, reason ≠ .none ∧
      extractFromRawData crc (some data) = .ok ⟨reason, none⟩) ∨
    (∃ payload rest, payload.length < 2147483648 ∧ data = frame crc payload ++ rest ∧
      extractFromRawData crc (some data) = .ok ⟨.none, some ⟨payload⟩⟩) := by
  by_cases isMagic : data.head? = some magic
  case neg =>
    exact .inr (.inl ⟨_, by decide, extract_invalidFirstByte crc data nonempty isMagic⟩)
  by_cases long : 5 < data.length
  case neg => exact .inr (.inl ⟨_, by decide, extract_short crc data isMagic (by omega)⟩)
  by_cases complete : totalSize data ≤ data.length
  case neg =>
    exact .inr (.inl ⟨_, by decide,
      extract_incomplete crc data isMagic long (by omega)⟩)
  by_cases overflow : LengthOverflow crc data
  case pos => exact .inl ⟨overflow, extract_error_of_overflow crc data overflow⟩
  have large : 4 ≤ totalSize data := by
    by_contra small
    exact overflow ⟨isMagic, long, complete, .inl (by omega)⟩
  by_cases same : computedChecksum crc data = storedChecksum data
  case neg =>
    exact .inr (.inl ⟨_, by decide,
      extract_invalidChecksum crc data isMagic long complete large same⟩)
  have sound : 9 ≤ totalSize data ∧ totalSize data < 2147483657 := by
    by_contra bad
    exact overflow ⟨isMagic, long, complete, .inr ⟨by omega, same⟩⟩
  refine .inr (.inr ⟨_, data.drop (totalSize data), ?_,
    frame_of_header crc data isMagic sound.1 complete same,
    extract_message crc data isMagic long complete sound.1 sound.2 same⟩)
  simp
  omega

theorem extract_error_iff (data : List UInt8) (nonempty : data ≠ []) :
    (∃ fault, extractFromRawData crc (some data) = .error fault) ↔
      LengthOverflow crc data := by
  refine ⟨fun ⟨fault, failed⟩ => ?_, extract_error_of_overflow crc data⟩
  rcases extract_cases crc data nonempty with
    ⟨overflow, _⟩ | ⟨reason, _, run⟩ | ⟨payload, rest, _, _, run⟩
  · exact overflow
  · rw [run] at failed
    contradiction
  · rw [run] at failed
    contradiction

/-- Every message comes from the bytes its own encoding consists of. -/
theorem extract_message_inv (data : List UInt8) (nonempty : data ≠ [])
    (reason : ExtractionFailure) (message : Message)
    (run : extractFromRawData crc (some data) = .ok ⟨reason, some message⟩) :
    reason = .none ∧ message.payload.length < 2147483648 ∧
      ∃ rest, data = frame crc message.payload ++ rest := by
  rcases extract_cases crc data nonempty with
    ⟨_, fault, failed⟩ | ⟨other, _, failed⟩ | ⟨payload, rest, bound, split, found⟩
  · rw [failed] at run
    contradiction
  · rw [failed] at run
    simp at run
  · rw [found] at run
    have parts := Except.ok.inj run
    injection parts with reasonEq messageEq
    cases Option.some.inj messageEq
    exact ⟨reasonEq.symm, bound, rest, split⟩

theorem overflow_of_large_frame (payload rest : List UInt8)
    (bound : payload.length + 9 < 4294967296) (large : 2147483648 ≤ payload.length) :
    LengthOverflow crc (frame crc payload ++ rest) := by
  have total := totalSize_frame crc payload rest bound
  have lengthExact : (frame crc payload ++ rest).length =
      payload.length + 9 + rest.length := by simp
  exact ⟨frame_head crc payload rest, by omega, by omega,
    .inr ⟨.inr (by omega), checksum_frame crc payload rest bound⟩⟩

/-- Without length overflow the call returns, and it returns a message exactly
at a frame. -/
theorem extract_none_iff (data : List UInt8) (nonempty : data ≠ []) :
    (∃ reason, extractFromRawData crc (some data) = .ok ⟨reason, none⟩) ↔
      ¬ LengthOverflow crc data ∧ ¬ StartsFrame crc data := by
  constructor
  · rintro ⟨reason, run⟩
    have sound : ¬ LengthOverflow crc data := by
      intro overflow
      obtain ⟨fault, failed⟩ := extract_error_of_overflow crc data overflow
      rw [failed] at run
      contradiction
    refine ⟨sound, ?_⟩
    rintro ⟨payload, rest, bound, split⟩
    subst split
    by_cases small : payload.length < 2147483648
    · rw [extract_frame crc payload rest small] at run
      simp at run
    · exact sound (overflow_of_large_frame crc payload rest bound (by omega))
  · rintro ⟨sound, noFrame⟩
    rcases extract_cases crc data nonempty with
      ⟨overflow, _⟩ | ⟨reason, _, run⟩ | ⟨payload, rest, bound, split, _⟩
    · exact absurd overflow sound
    · exact ⟨reason, run⟩
    · exact absurd ⟨payload, rest, by omega, split⟩ noFrame

end Frame
end Emserver.BaseProtocol
