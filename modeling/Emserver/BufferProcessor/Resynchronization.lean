import Emserver.BufferProcessor.Accounting

/-!
# Resynchronization past garbage

Frames stand behind junk, and more junk follows the last of them.  Unless an
offset inside the junk begins a frame or a header that wraps, one `messages`
call returns the payloads in order and leaves the trailing junk.
-/

set_option autoImplicit false

namespace Emserver.BufferProcessor

open Emserver.BaseProtocol
open Lib.Resync

section Garbage
variable (crc : List UInt8 → UInt32)

/-- Junk and frame by turns, then the trailing junk. -/
def garbled (segments : List (List UInt8 × List UInt8)) (tail : List UInt8) : List UInt8 :=
  stream (Message.makeProtocolMessage crc)
    (segments.map fun segment => (segment.1, create segment.2)) tail

/-- What stands in the stream from each offset inside junk on. -/
def junkOffsets : List (List UInt8 × List UInt8) → List UInt8 → List (List UInt8)
  | [], tail => tail.tails.filter (· ≠ [])
  | (junk, payload) :: rest, tail =>
      (junk.tails.filter (· ≠ [])).map
          (· ++ ((create payload).makeProtocolMessage crc ++ garbled crc rest tail)) ++
        junkOffsets rest tail

/-- No offset inside junk begins a frame or a header that wraps. -/
def Harmless (segments : List (List UInt8 × List UInt8)) (tail : List UInt8) : Prop :=
  ∀ offset ∈ junkOffsets crc segments tail,
    ¬ StartsFrame crc offset ∧ ¬ WrapsHeader offset

instance harmlessDecidable (segments : List (List UInt8 × List UInt8)) (tail : List UInt8) :
    Decidable (Harmless crc segments tail) := by
  unfold Harmless
  infer_instance

theorem decodeFrame_harmless (data : List UInt8) (nonempty : data ≠ [])
    (short : data.length < 2147483648)
    (harmless : ¬ StartsFrame crc data ∧ ¬ WrapsHeader data) :
    decodeFrame crc data = .ok none := by
  apply (decodeFrame_none_iff crc data nonempty).mpr
  exact ⟨not_overflow_of_unwrapped crc data short harmless.2, harmless.1⟩

/-- The true frames are read where they stand, whatever they contain. -/
theorem readable_garbled (segments : List (List UInt8 × List UInt8)) (tail : List UInt8)
    (short : (garbled crc segments tail).length < 2147483648)
    (harmless : Harmless crc segments tail) :
    Readable (decodeFrame crc) Message.fullSize (Message.makeProtocolMessage crc)
      (segments.map fun segment => (segment.1, create segment.2)) tail := by
  induction segments with
  | nil =>
      intro offset suffix nonempty
      have member : offset ∈ junkOffsets crc [] tail := by
        simp [junkOffsets, suffix, nonempty]
      have inside := suffix.length_le
      have whole : (garbled crc [] tail).length = tail.length := rfl
      exact decodeFrame_harmless crc offset nonempty (by omega) (harmless offset member)
  | cons segment rest ih =>
      obtain ⟨junk, payload⟩ := segment
      have frameSize : ((create payload).makeProtocolMessage crc).length =
          payload.length + 9 := makeProtocolMessage_size crc (create payload)
      have sizes : (garbled crc ((junk, payload) :: rest) tail).length =
          junk.length + (((create payload).makeProtocolMessage crc).length +
            (garbled crc rest tail).length) := by
        simp only [garbled, List.map_cons, stream, List.length_append]
      have payloadShort : payload.length < 2147483648 := by omega
      refine ⟨?_, ?_, ih (by omega) ?_⟩
      · intro offset suffix nonempty
        have inside : offset.length ≤ junk.length := suffix.length_le
        change decodeFrame crc (offset ++ ((create payload).makeProtocolMessage crc ++
          garbled crc rest tail)) = .ok none
        apply decodeFrame_harmless crc
        · simp [nonempty]
        · simp only [List.length_append]
          omega
        · apply harmless
          simp [junkOffsets, suffix, nonempty]
      · exact decodeFrame_makeProtocolMessage crc (create payload) _ payloadShort
      · intro offset member
        apply harmless
        simp [junkOffsets, member]

/-! ## Appending in any portions -/

def Call.IsAppend : Call → Prop
  | .appendBuffer _ => True
  | .appendBuffers _ => True
  | .messages => False
  | .flushBuffer => False

instance isAppendDecidable (next : Call) : Decidable next.IsAppend := by
  cases next <;> unfold Call.IsAppend <;> infer_instance

def Call.bytes : Call → List UInt8
  | .appendBuffer data => data
  | .appendBuffers datas => datas.flatten
  | .messages => []
  | .flushBuffer => []

theorem call_append (history : History) (next : Call) (append : next.IsAppend) :
    call crc history next =
      .ok ⟨⟨history.processor.processingBuffer ++ next.bytes⟩,
        history.appended ++ next.bytes, history.returned⟩ := by
  cases next with
  | appendBuffer data => rfl
  | appendBuffers datas => simp [call, Call.bytes]
  | messages => contradiction
  | flushBuffer => contradiction

theorem runCalls_appends (history : History) (calls : List Call)
    (appends : ∀ next ∈ calls, next.IsAppend) :
    runCalls crc history calls =
      .ok ⟨⟨history.processor.processingBuffer ++ calls.flatMap Call.bytes⟩,
        history.appended ++ calls.flatMap Call.bytes, history.returned⟩ := by
  induction calls generalizing history with
  | nil => simp [runCalls]
  | cons next rest ih =>
      have restAppends : ∀ other ∈ rest, other.IsAppend := by
        intro other member
        exact appends other (List.mem_cons_of_mem next member)
      simp only [runCalls, call_append crc history next (appends next List.mem_cons_self),
        bind, Except.bind, ih _ restAppends, List.flatMap_cons, List.append_assoc]

/-- However the garbled stream was appended to an empty processor, one
`messages` call returns the payloads and leaves the trailing junk. -/
theorem messages_resynchronize (segments : List (List UInt8 × List UInt8))
    (tail : List UInt8) (short : (garbled crc segments tail).length < 2147483648)
    (harmless : Harmless crc segments tail) (calls : List Call)
    (appends : ∀ next ∈ calls, next.IsAppend)
    (arrived : calls.flatMap Call.bytes = garbled crc segments tail) :
    ∃ history, runCalls crc fresh calls = .ok history ∧
      history.processor.messages crc =
        .ok (segments.map fun segment => create segment.2, ⟨tail⟩) := by
  refine ⟨_, runCalls_appends crc fresh calls appends, ?_⟩
  apply (messages_ok_iff crc _ _ ⟨tail⟩).mpr
  have readable := readable_garbled crc segments tail short harmless
  have drained := drain_stream (decodeFrame_canonical crc) _ tail readable
  rw [arrived]
  simpa [fresh, empty, garbled, Function.comp_def] using drained

end Garbage

/-- A magic byte, a false header that reaches past the frame, and a `$` at the end. -/
def falseHeader : List (List UInt8 × List UInt8) := [([0x24, 0x20, 0x00, 0x00, 0x00], [0x24])]

theorem messages_resynchronize_falseHeader :
    ∃ history,
      runCalls Lib.Crc32.crc32 fresh
        [.appendBuffer [0x24, 0x20],
          .appendBuffers [[0x00, 0x00, 0x00], (create [0x24]).makeProtocolMessage
            Lib.Crc32.crc32, [0x24]]] = .ok history ∧
      history.processor.messages Lib.Crc32.crc32 = .ok ([create [0x24]], ⟨[0x24]⟩) :=
  messages_resynchronize Lib.Crc32.crc32 falseHeader [0x24] (by decide +kernel)
    (by decide +kernel) _ (by decide) (by decide +kernel)

end Emserver.BufferProcessor
