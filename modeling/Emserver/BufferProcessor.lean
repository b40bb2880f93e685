import Emserver.BaseProtocol.Frame
import Emserver.Lib.Resync

/-!
# The processing buffer

`common/src/bufferprocessor.cpp`: bytes are appended to `m_processingBuffer`,
and `messages` scans it for frames.  The marker iterator is an index; the end
iterator is the length of the buffer.  The scan is then shown to be the
resynchronising scan `Lib.Resync.drain` of the frame decoder.
-/

set_option autoImplicit false

namespace Emserver.BufferProcessor

open Emserver.BaseProtocol
open Lib.Resync

/-- The class: it holds `m_processingBuffer` only. -/
structure Buffer where
  processingBuffer : List UInt8
  deriving DecidableEq, Repr

def empty : Buffer := ⟨[]⟩

def Buffer.appendBuffer (processor : Buffer) (data : List UInt8) : Buffer :=
  ⟨processor.processingBuffer ++ data⟩

def Buffer.appendBuffers (processor : Buffer) (datas : List (List UInt8)) : Buffer :=
  datas.foldl Buffer.appendBuffer processor

def Buffer.flushBuffer (_processor : Buffer) : Buffer := ⟨[]⟩

/-- `std::find_if` for the magic byte from an iterator to the end. -/
def findMagic (buffer : List UInt8) (start : Nat) : Nat :=
  start + (buffer.drop start).findIdx (· == magic)

section Scan
variable (crc : List UInt8 → UInt32)

/-- The message constructor keeps `fullSize` clear of the 32-bit wrap. -/
theorem fullSize_pos_of_extract (data : List UInt8) (nonempty : data ≠ [])
    (result : Extraction) (message : Message)
    (run : extractFromRawData crc (some data) = .ok result)
    (found : result.message = some message) : 0 < message.fullSize := by
  obtain ⟨reason, item⟩ := result
  cases found
  obtain ⟨_, bound, _⟩ := extract_message_inv crc data nonempty reason message run
  unfold Message.fullSize uint32
  omega

/-- The `while` loop of `messages`, at a marker that `find_if` returned.  The
warning about a checksum mismatch goes to the log only. -/
def messagesLoop (processingBuffer : List UInt8) (markerPos : Nat)
    (ret : List Message) : Except Fault (List Message × List UInt8) :=
  if _inside : markerPos < processingBuffer.length then
    match _run : extractFromRawData crc (some (processingBuffer.drop markerPos)) with
    | .error fault => .error fault
    | .ok result =>
        match found : result.message with
        | some item =>
            let rest := processingBuffer.drop (markerPos + item.fullSize)
            messagesLoop rest (findMagic rest 0) (ret ++ [item])
        | none =>
            messagesLoop processingBuffer (findMagic processingBuffer (markerPos + 1)) ret
  else .ok (ret, processingBuffer)
termination_by (processingBuffer.length, processingBuffer.length - markerPos)
decreasing_by
  · apply Prod.Lex.left
    have positive := fullSize_pos_of_extract crc _ (by simp; omega) result item _run found
    simp only [List.length_drop]
    omega
  · apply Prod.Lex.right
    have advanced : markerPos + 1 ≤ findMagic processingBuffer (markerPos + 1) := by
      unfold findMagic
      omega
    omega

/-! What one turn of the loop does, by what the call returns. -/

section Turn
variable (buffer : List UInt8) (markerPos : Nat) (ret : List Message)
variable (inside : markerPos < buffer.length)
include inside

theorem messagesLoop_fault (fault : Fault)
    (run : extractFromRawData crc (some (buffer.drop markerPos)) = .error fault) :
    messagesLoop crc buffer markerPos ret = .error fault := by
  rw [messagesLoop, dif_pos inside]
  split
  · rename_i other again
    rw [run] at again
    rw [Except.error.inj again]
  · rename_i other again
    rw [run] at again
    contradiction

theorem messagesLoop_found (result : Extraction) (item : Message)
    (run : extractFromRawData crc (some (buffer.drop markerPos)) = .ok result)
    (found : result.message = some item) :
    messagesLoop crc buffer markerPos ret =
      messagesLoop crc (buffer.drop (markerPos + item.fullSize))
        (findMagic (buffer.drop (markerPos + item.fullSize)) 0) (ret ++ [item]) := by
  rw [messagesLoop, dif_pos inside]
  split
  · rename_i other again
    rw [run] at again
    contradiction
  · rename_i other again
    rw [run] at again
    cases again
    split
    · rename_i same again
      rw [found] at again
      cases again
      rfl
    · rename_i again
      rw [found] at again
      contradiction

theorem messagesLoop_missing (result : Extraction)
    (run : extractFromRawData crc (some (buffer.drop markerPos)) = .ok result)
    (missing : result.message = none) :
    messagesLoop crc buffer markerPos ret =
      messagesLoop crc buffer (findMagic buffer (markerPos + 1)) ret := by
  rw [messagesLoop, dif_pos inside]
  split
  · rename_i other again
    rw [run] at again
    contradiction
  · rename_i other again
    rw [run] at again
    cases again
    split
    · rename_i same again
      rw [missing] at again
      contradiction
    · rfl

end Turn

def Buffer.messages (processor : Buffer) : Except Fault (List Message × Buffer) := do
  let buffer := processor.processingBuffer
  let (ret, rest) ← messagesLoop crc buffer (findMagic buffer 0) []
  .ok (ret, ⟨rest⟩)

/-! ## The scan as a resynchronising scan -/

def decodeFrame (data : List UInt8) : Except Fault (Option Message) :=
  (extractFromRawData crc (some data)).map Extraction.message

theorem decodeFrame_other (first : UInt8) (rest : List UInt8) (other : first ≠ magic) :
    decodeFrame crc (first :: rest) = .ok none := by
  have head : (first :: rest).head? ≠ some magic := by simpa using other
  simp [decodeFrame, extract_invalidFirstByte crc _ (by simp) head, Except.map]

theorem decodeFrame_none_iff (data : List UInt8) (nonempty : data ≠ []) :
    decodeFrame crc data = .ok none ↔
      ¬ LengthOverflow crc data ∧ ¬ StartsFrame crc data := by
  rw [← extract_none_iff crc data nonempty]
  cases run : extractFromRawData crc (some data) with
  | error fault => simp [decodeFrame, run, Except.map]
  | ok result =>
      obtain ⟨reason, message⟩ := result
      simp [decodeFrame, run, Except.map]

theorem decodeFrame_frame (payload rest : List UInt8) (bound : payload.length < 2147483648) :
    decodeFrame crc (frame crc payload ++ rest) = .ok (some ⟨payload⟩) := by
  simp [decodeFrame, extract_frame crc payload rest bound, Except.map]

theorem decodeFrame_makeProtocolMessage (message : Message) (rest : List UInt8)
    (bound : message.payload.length < 2147483648) :
    decodeFrame crc (message.makeProtocolMessage crc ++ rest) = .ok (some message) := by
  have image : message.makeProtocolMessage crc = frame crc message.payload :=
    makeProtocolMessage_eq crc message.payload (by omega)
  rw [image]
  exact decodeFrame_frame crc message.payload rest bound

theorem decodeFrame_some (data : List UInt8) (nonempty : data ≠ []) (message : Message)
    (run : decodeFrame crc data = .ok (some message)) :
    message.payload.length < 2147483648 ∧
      ∃ rest, data = frame crc message.payload ++ rest := by
  unfold decodeFrame at run
  cases extraction : extractFromRawData crc (some data) with
  | error fault =>
      rw [extraction] at run
      contradiction
  | ok result =>
      obtain ⟨reason, item⟩ := result
      rw [extraction] at run
      have same : item = some message := Except.ok.inj run
      subst same
      exact (extract_message_inv crc data nonempty reason message extraction).2

/-- `extractFromRawData` accepts what `makeProtocolMessage` writes. -/
theorem decodeFrame_canonical :
    Canonical (decodeFrame crc) Message.fullSize (Message.makeProtocolMessage crc) where
  encoded := by
    intro data message nonempty run
    obtain ⟨bound, rest, split⟩ := decodeFrame_some crc data nonempty message run
    refine ⟨rest, ?_⟩
    rw [split]
    exact congrArg (· ++ rest)
      (makeProtocolMessage_eq crc message.payload (by omega)).symm
  sized := by
    intro data message nonempty run
    obtain ⟨bound, _⟩ := decodeFrame_some crc data nonempty message run
    have image : message.makeProtocolMessage crc = frame crc message.payload :=
      makeProtocolMessage_eq crc message.payload (by omega)
    rw [image]
    exact fullSize_eq crc message.payload (by omega)
  nonempty := by
    intro message
    simp [Message.makeProtocolMessage, writeAt, Lib.LittleEndian.leBytes]

theorem findMagic_end (buffer : List UInt8) (start : Nat) (atEnd : buffer.length ≤ start) :
    ¬ findMagic buffer start < buffer.length := by
  unfold findMagic
  omega

theorem findMagic_here (buffer : List UInt8) (start : Nat) (rest : List UInt8)
    (split : buffer.drop start = magic :: rest) : findMagic buffer start = start := by
  simp [findMagic, split, List.findIdx_cons]

theorem findMagic_next (buffer : List UInt8) (start : Nat) (first : UInt8)
    (rest : List UInt8) (split : buffer.drop start = first :: rest)
    (other : first ≠ magic) : findMagic buffer start = findMagic buffer (start + 1) := by
  have tail : buffer.drop (start + 1) = rest := by
    rw [← List.tail_drop, split, List.tail_cons]
  have differs : (first == magic) = false := by simpa using other
  simp only [findMagic, split, tail, List.findIdx_cons, differs, cond_false]
  omega

/-- The marker loop from `start` on is `seek`, then the loop on what follows. -/
theorem messagesLoop_seek (buffer : List UInt8) (start : Nat) (ret : List Message) :
    messagesLoop crc buffer (findMagic buffer start) ret =
      match seek (decodeFrame crc) Message.fullSize (buffer.drop start) with
      | .error fault => .error fault
      | .ok none => .ok (ret, buffer)
      | .ok (some (item, rest)) => messagesLoop crc rest (findMagic rest 0) (ret ++ [item]) := by
  induction remaining : buffer.length - start generalizing start with
  | zero =>
      have finished := findMagic_end buffer start (by omega)
      rw [messagesLoop, dif_neg finished, List.drop_eq_nil_of_le (by omega)]
      rfl
  | succ remaining ih =>
      have inside : start < buffer.length := by omega
      obtain ⟨first, rest, split⟩ : ∃ first rest, buffer.drop start = first :: rest :=
        ⟨_, _, List.drop_eq_getElem_cons inside⟩
      have tail : buffer.drop (start + 1) = rest := by
        rw [← List.tail_drop, split, List.tail_cons]
      have later := ih (start + 1) (by omega)
      rw [tail] at later
      by_cases isMagic : first = magic
      · subst isMagic
        rw [findMagic_here buffer start rest split, split, seek]
        cases run : extractFromRawData crc (some (buffer.drop start)) with
        | error fault =>
            rw [messagesLoop_fault crc buffer start ret inside fault run]
            rw [split] at run
            simp only [decodeFrame, run, Except.map]
        | ok result =>
            cases found : result.message with
            | some item =>
                have image : (magic :: rest).drop item.fullSize =
                    buffer.drop (start + item.fullSize) := by
                  rw [← split, List.drop_drop]
                rw [messagesLoop_found crc buffer start ret inside result item run found]
                rw [split] at run
                simp only [decodeFrame, run, Except.map, found, image]
            | none =>
                rw [messagesLoop_missing crc buffer start ret inside result run found, later]
                rw [split] at run
                simp only [decodeFrame, run, Except.map, found]
      · rw [findMagic_next buffer start first rest split isMagic, later, split, seek,
          decodeFrame_other crc first rest isMagic]

theorem messagesLoop_drain (buffer : List UInt8) (ret : List Message) :
    messagesLoop crc buffer (findMagic buffer 0) ret =
      (drain (decodeFrame crc) Message.fullSize buffer).map
        fun (items, rest) => (ret ++ items, rest) := by
  induction lengthEq : buffer.length using Nat.strongRecOn generalizing buffer ret with
  | ind bound ih =>
    rw [messagesLoop_seek, drain_eq (decodeFrame_canonical crc), List.drop_zero]
    cases found : seek (decodeFrame crc) Message.fullSize buffer with
    | error fault => rfl
    | ok result =>
        cases result with
        | none => simp [Except.map]
        | some pair =>
            obtain ⟨item, rest⟩ := pair
            have shrinks := seek_shrinks (decodeFrame_canonical crc) buffer item rest found
            simp only [ih rest.length (by omega) rest (ret ++ [item]) rfl]
            cases tail : drain (decodeFrame crc) Message.fullSize rest with
            | error fault => rfl
            | ok result => simp [Except.map]

/-- `messages` drains the buffer; every call ends. -/
theorem messages_eq (processor : Buffer) :
    processor.messages crc =
      (drain (decodeFrame crc) Message.fullSize processor.processingBuffer).map
        fun (items, rest) => (items, ⟨rest⟩) := by
  simp only [Buffer.messages, messagesLoop_drain]
  cases drain (decodeFrame crc) Message.fullSize processor.processingBuffer with
  | error fault => rfl
  | ok result => rfl

theorem messages_ok_iff (processor : Buffer) (items : List Message) (rest : Buffer) :
    processor.messages crc = .ok (items, rest) ↔
      drain (decodeFrame crc) Message.fullSize processor.processingBuffer =
        .ok (items, rest.processingBuffer) := by
  rw [messages_eq]
  cases drain (decodeFrame crc) Message.fullSize processor.processingBuffer with
  | error fault => simp [Except.map]
  | ok result =>
      obtain ⟨found, left⟩ := result
      cases rest
      simp [Except.map]

@[simp] theorem appendBuffers_eq (processor : Buffer) (datas : List (List UInt8)) :
    processor.appendBuffers datas = ⟨processor.processingBuffer ++ datas.flatten⟩ := by
  induction datas generalizing processor with
  | nil => simp [Buffer.appendBuffers]
  | cons data rest ih =>
      have step : processor.appendBuffers (data :: rest) =
          (processor.appendBuffer data).appendBuffers rest := rfl
      rw [step, ih]
      simp [Buffer.appendBuffer]

end Scan
end Emserver.BufferProcessor
