import Mathlib.Data.List.Induction
import Mathlib.Data.List.Infix
import Emserver.BufferProcessor
import Emserver.Lib.Crc32

/-!
# Accounting over whole runs

A run is any sequence of calls on one `BufferProcessor`.  Beside the buffer it
records every byte appended and every message returned since the last flush.
While the buffer stays below `2^31` bytes and no header in it wraps, the bytes
are accounted for: junk, frames of the returned messages, or still buffered.
-/

set_option autoImplicit false

namespace Emserver.BufferProcessor

open Emserver.BaseProtocol
open Lib.Resync

inductive Call where
  | appendBuffer (data : List UInt8)
  | appendBuffers (datas : List (List UInt8))
  | messages
  | flushBuffer

/-- The processor with what was appended and returned since the last flush. -/
structure History where
  processor : Buffer
  appended : List UInt8
  returned : List Message

def fresh : History := ⟨empty, [], []⟩

section Run
variable (crc : List UInt8 → UInt32)

def call (history : History) : Call → Except Fault History
  | .appendBuffer data =>
      .ok ⟨history.processor.appendBuffer data, history.appended ++ data, history.returned⟩
  | .appendBuffers datas =>
      .ok ⟨history.processor.appendBuffers datas, history.appended ++ datas.flatten,
        history.returned⟩
  | .messages => do
      let (items, processor) ← history.processor.messages crc
      .ok ⟨processor, history.appended, history.returned ++ items⟩
  | .flushBuffer => .ok ⟨history.processor.flushBuffer, [], []⟩

def runCalls (history : History) : List Call → Except Fault History
  | [] => .ok history
  | next :: rest => do
      let after ← call crc history next
      runCalls after rest

theorem runCalls_append (history : History) (calls others : List Call) :
    runCalls crc history (calls ++ others) =
      (runCalls crc history calls).bind fun after => runCalls crc after others := by
  induction calls generalizing history with
  | nil => rfl
  | cons next rest ih =>
      simp only [List.cons_append, runCalls, bind]
      cases call crc history next with
      | error fault => rfl
      | ok after => exact ih after

/-- A `$` followed by a length field of `2^32 - 9` or more. -/
def WrapsHeader (data : List UInt8) : Prop :=
  data.head? = some magic ∧ 5 ≤ data.length ∧ 4294967287 ≤ lengthField data

instance wrapsHeaderDecidable (data : List UInt8) : Decidable (WrapsHeader data) := by
  unfold WrapsHeader
  infer_instance

/-- The buffer is below `2^31` bytes and no header in it wraps. -/
def Admissible (processor : Buffer) : Prop :=
  processor.processingBuffer.length < 2147483648 ∧
    ∀ offset, offset <:+ processor.processingBuffer → ¬ WrapsHeader offset

instance admissibleDecidable (processor : Buffer) : Decidable (Admissible processor) :=
  decidable_of_iff (processor.processingBuffer.length < 2147483648 ∧
    ∀ offset ∈ processor.processingBuffer.tails, ¬ WrapsHeader offset) (by
      simp only [Admissible, List.mem_tails])

/-- The appended bytes are junk and frames of the returned messages in order,
then the buffer. -/
def Accounted (history : History) : Prop :=
  ∃ consumed, history.appended = consumed ++ history.processor.processingBuffer ∧
    Consumed (Message.makeProtocolMessage crc) consumed history.returned

/-- What one `messages` call does: it returns; returning nothing it changes
nothing; afterwards no offset begins a frame and a second call is idle. -/
def MessagesSettle (processor : Buffer) : Prop :=
  ∃ items rest, processor.messages crc = .ok (items, rest) ∧
    (items = [] → rest = processor) ∧
    (∀ offset, offset <:+ rest.processingBuffer → ¬ StartsFrame crc offset) ∧
    rest.messages crc = .ok ([], rest)

/-- Below `2^31` bytes only a header that wraps overflows. -/
theorem not_overflow_of_unwrapped (data : List UInt8) (short : data.length < 2147483648)
    (unwrapped : ¬ WrapsHeader data) : ¬ LengthOverflow crc data := by
  rintro ⟨isMagic, long, complete, cause⟩
  have field : lengthField data < 4294967287 := by
    by_contra wraps
    exact unwrapped ⟨isMagic, by omega, by omega⟩
  have total : totalSize data = lengthField data + 9 := by
    unfold totalSize uint32
    omega
  rcases cause with before | ⟨bad, _⟩
  · omega
  · omega

theorem not_overflow_of_admissible (processor : Buffer) (admissible : Admissible processor)
    (offset : List UInt8) (suffix : offset <:+ processor.processingBuffer) :
    ¬ LengthOverflow crc offset := by
  obtain ⟨small, noWrap⟩ := admissible
  have inside := suffix.length_le
  exact not_overflow_of_unwrapped crc offset (by omega) (noWrap offset suffix)

theorem no_frame_of_quiet (data : List UInt8) (quiet : Quiet (decodeFrame crc) data)
    (offset : List UInt8) (suffix : offset <:+ data) : ¬ StartsFrame crc offset := by
  intro starts
  have nonempty : offset ≠ [] := by
    rintro rfl
    obtain ⟨payload, rest, _, split⟩ := starts
    simp [frame, frameHeader] at split
  exact ((decodeFrame_none_iff crc offset nonempty).mp
    (quiet offset suffix nonempty)).2 starts

theorem messages_settle (processor : Buffer) (admissible : Admissible processor) :
    MessagesSettle crc processor := by
  have canonical := decodeFrame_canonical crc
  have returns : ∃ result,
      drain (decodeFrame crc) Message.fullSize processor.processingBuffer = .ok result := by
    apply drain_returns canonical
    intro offset suffix nonempty
    have sound := not_overflow_of_admissible crc processor admissible offset suffix
    rcases extract_cases crc offset nonempty with
      ⟨overflow, _⟩ | ⟨reason, _, run⟩ | ⟨payload, rest, _, _, run⟩
    · exact absurd overflow sound
    · exact ⟨none, by simp [decodeFrame, run, Except.map]⟩
    · exact ⟨some ⟨payload⟩, by simp [decodeFrame, run, Except.map]⟩
  obtain ⟨⟨items, rest⟩, run⟩ := returns
  obtain ⟨_, _, _, quiet⟩ := drain_consumed canonical _ items rest run
  refine ⟨items, ⟨rest⟩, (messages_ok_iff crc processor items ⟨rest⟩).mpr run, ?_,
    no_frame_of_quiet crc rest quiet, ?_⟩
  · rintro rfl
    have same := drain_nothing canonical _ rest run
    rw [same]
  · exact (messages_ok_iff crc ⟨rest⟩ [] ⟨rest⟩).mpr (drain_quiet canonical rest quiet)

/-! ## One call, then the run -/

theorem call_accounted (history : History) (next : Call)
    (accounted : Accounted crc history) (admissible : Admissible history.processor) :
    ∃ after, call crc history next = .ok after ∧ Accounted crc after := by
  obtain ⟨consumed, split, frames⟩ := accounted
  cases next with
  | appendBuffer data =>
      refine ⟨_, rfl, consumed, ?_, frames⟩
      simp [split, Buffer.appendBuffer]
  | appendBuffers datas =>
      refine ⟨_, rfl, consumed, ?_, frames⟩
      simp [split]
  | flushBuffer => exact ⟨_, rfl, [], rfl, .nil⟩
  | messages =>
      obtain ⟨items, rest, run, _⟩ := messages_settle crc history.processor admissible
      have drained := (messages_ok_iff crc history.processor items rest).mp run
      obtain ⟨more, bufferSplit, moreFrames, _⟩ :=
        drain_consumed (decodeFrame_canonical crc) _ items rest.processingBuffer drained
      refine ⟨⟨rest, history.appended, history.returned ++ items⟩, ?_,
        consumed ++ more, ?_, frames.append moreFrames⟩
      · simp [call, run, bind, Except.bind]
      · rw [split, bufferSplit, List.append_assoc]

/-- Over any sequence of calls that keeps the buffer admissible, at every
point: the calls made so far returned, the appended bytes are accounted for,
and a `messages` call at this point settles. -/
theorem scanner_accounting (calls : List Call)
    (admissible : ∀ made history, made <+: calls →
      runCalls crc fresh made = .ok history → Admissible history.processor)
    (made : List Call) (isPrefix : made <+: calls) :
    ∃ history, runCalls crc fresh made = .ok history ∧ Accounted crc history ∧
      MessagesSettle crc history.processor := by
  have reached : ∃ history, runCalls crc fresh made = .ok history ∧
      Accounted crc history := by
    induction made using List.reverseRecOn with
    | nil => exact ⟨fresh, rfl, [], rfl, .nil⟩
    | append_singleton earlier next ih =>
        have earlierPrefix : earlier <+: calls :=
          (List.prefix_append earlier [next]).trans isPrefix
        obtain ⟨history, run, accounted⟩ := ih earlierPrefix
        obtain ⟨after, step, accountedAfter⟩ := call_accounted crc history next accounted
          (admissible earlier history earlierPrefix run)
        refine ⟨after, ?_, accountedAfter⟩
        rw [runCalls_append, run]
        simp [Except.bind, runCalls, step, bind]
  obtain ⟨history, run, accounted⟩ := reached
  exact ⟨history, run, accounted,
    messages_settle crc history.processor (admissible made history isPrefix run)⟩

end Run

def oneMessage : List Call :=
  [.appendBuffer (frame Lib.Crc32.crc32 [0x41]), .messages]

theorem oneMessage_read :
    runCalls Lib.Crc32.crc32 fresh oneMessage =
      .ok ⟨empty, frame Lib.Crc32.crc32 [0x41], [⟨[0x41]⟩]⟩ := by
  have read : (empty.appendBuffer (frame Lib.Crc32.crc32 [0x41])).messages Lib.Crc32.crc32 =
      .ok ([⟨[0x41]⟩], empty) :=
    (messages_ok_iff _ _ _ _).mpr (by decide +kernel)
  simp [oneMessage, runCalls, call, fresh, read, bind, Except.bind]

theorem scanner_accounting_oneMessage :
    ∃ history, runCalls Lib.Crc32.crc32 fresh oneMessage = .ok history ∧
      Accounted Lib.Crc32.crc32 history ∧
      MessagesSettle Lib.Crc32.crc32 history.processor := by
  apply scanner_accounting Lib.Crc32.crc32 oneMessage _ oneMessage List.prefix_rfl
  intro made history isPrefix run
  have prefixes : made ∈ oneMessage.inits := (List.mem_inits made oneMessage).mpr isPrefix
  simp only [oneMessage, List.inits, List.map_cons, List.map_nil, List.mem_cons,
    List.not_mem_nil, or_false] at prefixes
  rcases prefixes with rfl | rfl | rfl
  · cases run
    decide
  · cases run
    decide +kernel
  · rw [← oneMessage, oneMessage_read] at run
    cases run
    decide

end Emserver.BufferProcessor
