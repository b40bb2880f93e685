import Mathlib.Data.List.Induction
import Mathlib.Data.List.Infix
import Emserver.CommonProcessor
import Emserver.Protobuf.Wire
import Emserver.Lib.Crc32

/-!
# Delivery to the read callback

A sender writes `prepareData` of each string; the bytes arrive in chunks and the
worker runs at any moment.  A frame whose end has not arrived does not stop the
scan: the marker moves on into its payload.  Delivery is therefore exact as long
as nothing behind the first byte of an incomplete frame decodes by itself, and
`NoDecoy` says so of the part of the frame that has arrived.
-/

set_option autoImplicit false

namespace Emserver.CommonProcessor

open Emserver.BaseProtocol
open Emserver.BufferProcessor
open Emserver.Protobuf
open Lib.Resync

section Delivery
variable (crc : List UInt8 → UInt32) (protobuf : Codecs)

def sentMessages (strings : List (List UInt8)) : List Message :=
  strings.map fun s => create (serializedContainer protobuf s)

def sentBytes (strings : List (List UInt8)) : List UInt8 :=
  strings.flatMap (prepareData crc protobuf)

def expected (strings : List (List UInt8)) : List CommonMessage :=
  strings.map fun s => ⟨some 1, some s⟩

/-- Of the first `count` bytes sent, those after the last complete frame. -/
def incompleteFrame (strings : List (List UInt8)) (count : Nat) : List UInt8 :=
  (cut (Message.makeProtocolMessage crc) (sentMessages protobuf strings) count).2

/-- No complete frame and no wrapping header begins behind the first byte. -/
def NoDecoy (part : List UInt8) : Prop :=
  ∀ offset, offset <:+ part → offset ≠ part →
    ¬ LengthOverflow crc offset ∧ ¬ StartsFrame crc offset

instance noDecoyDecidable (part : List UInt8) : Decidable (NoDecoy crc part) :=
  decidable_of_iff (∀ offset ∈ part.tails, offset ≠ part →
    ¬ LengthOverflow crc offset ∧ ¬ StartsFrame crc offset) (by
      simp only [NoDecoy, List.mem_tails])

/-- `NoDecoy` holds of the incomplete frame at each iteration of the worker. -/
def NoDecoys (strings : List (List UInt8)) (events : List Event) : Prop :=
  ∀ past future, events = past ++ .iterate :: future →
    NoDecoy crc (incompleteFrame crc protobuf strings (received past).length)

instance noDecoysDecidable (strings : List (List UInt8)) (events : List Event) :
    Decidable (NoDecoys crc protobuf strings events) :=
  decidable_of_iff (∀ count < events.length, events[count]? = some .iterate →
    NoDecoy crc (incompleteFrame crc protobuf strings (received (events.take count)).length)) (by
      constructor
      · intro checked past future split
        have here := checked past.length (by simp [split]) (by simp [split])
        rwa [split, List.take_left] at here
      · intro noDecoys count inside found
        refine noDecoys (events.take count) (events.drop (count + 1)) ?_
        obtain ⟨_, same⟩ := List.getElem?_eq_some_iff.mp found
        rw [← same, ← List.drop_eq_getElem_cons inside, List.take_append_drop])

/-- The read callback is registered before the first chunk. -/
def RegisteredFirst (events : List Event) : Prop :=
  ∀ past chunk future, events = past ++ .onReadedChunk chunk :: future →
    .registerCommonMessageIncomingCallback ∈ past

theorem sentBytes_eq (strings : List (List UInt8)) :
    sentBytes crc protobuf strings =
      (sentMessages protobuf strings).flatMap (Message.makeProtocolMessage crc) := by
  rw [sentBytes, sentMessages, List.flatMap_map]
  rfl

theorem filterMap_sentMessages (strings : List (List UInt8)) :
    (sentMessages protobuf strings).filterMap (unpack protobuf) = expected strings :=
  filterMap_unpack protobuf strings

variable {crc} in
theorem NoDecoys.past {strings : List (List UInt8)} {past future : List Event}
    (noDecoys : NoDecoys crc protobuf strings (past ++ future)) :
    NoDecoys crc protobuf strings past := by
  intro earlier later split
  exact noDecoys earlier (later ++ future) (by simp [split])

theorem RegisteredFirst.past {past future : List Event}
    (registered : RegisteredFirst (past ++ future)) : RegisteredFirst past := by
  intro earlier chunk later split
  exact registered earlier chunk (later ++ future) (by simp [split])

theorem registeredFirst_cons (events : List Event) :
    RegisteredFirst (.registerCommonMessageIncomingCallback :: events) := by
  intro past chunk future split
  cases past with
  | nil => simp at split
  | cons first rest =>
      have same := (List.cons.inj split).1
      rw [← same]
      exact List.mem_cons_self

/-! ## One scan -/

section Scan
variable {messages : List Message}
variable (small : ∀ message ∈ messages, message.payload.length < 2147483648)
include small

/-- A frame cut before its end is not rejected for what it is, so only an offset
behind its first byte can decode. -/
theorem quiet_part_iff (count : Nat) :
    Quiet (decodeFrame crc) (cut (Message.makeProtocolMessage crc) messages count).2 ↔
      NoDecoy crc (cut (Message.makeProtocolMessage crc) messages count).2 := by
  obtain ⟨part, partEq⟩ :
      ∃ part, part = (cut (Message.makeProtocolMessage crc) messages count).2 := ⟨_, rfl⟩
  rw [← partEq]
  have noStart : ¬ LengthOverflow crc [] ∧ ¬ StartsFrame crc [] := by
    refine ⟨fun overflow => absurd overflow.1 (by simp), ?_⟩
    rintro ⟨payload, rest, _, split⟩
    have lengths := congrArg List.length split
    simp only [List.length_nil, List.length_append, frame_length] at lengths
    omega
  constructor
  · intro quiet offset suffix _
    by_cases nonempty : offset = []
    · rw [nonempty]
      exact noStart
    · exact (decodeFrame_none_iff crc offset nonempty).mp (quiet offset suffix nonempty)
  · intro noDecoy offset suffix nonempty
    by_cases whole : offset = part
    case neg => exact (decodeFrame_none_iff crc offset nonempty).mpr (noDecoy offset suffix whole)
    subst whole
    rcases cut_part (Message.makeProtocolMessage crc) messages count with
      nothing | ⟨message, member, missing, cutShort, split⟩
    · exact absurd (partEq.trans nothing) nonempty
    · have bound := small message member
      have image := makeProtocolMessage_eq crc message.payload (by omega)
      rw [← partEq] at split
      have run := extract_cut_frame crc message.payload offset missing (by omega)
        (image.symm.trans split) nonempty cutShort
      simp [decodeFrame, run, Except.map]

/-- Exactly without a decoy a scan returns the complete frames and keeps the
incomplete one. -/
theorem messages_whole_iff (whole : List Message) (count : Nat)
    (member : ∀ message ∈ whole, message ∈ messages) :
    Buffer.messages crc ⟨whole.flatMap (Message.makeProtocolMessage crc) ++
        (cut (Message.makeProtocolMessage crc) messages count).2⟩ =
      .ok (whole, ⟨(cut (Message.makeProtocolMessage crc) messages count).2⟩) ↔
    NoDecoy crc (cut (Message.makeProtocolMessage crc) messages count).2 := by
  have accepted : ∀ message ∈ whole, ∀ rest,
      decodeFrame crc (message.makeProtocolMessage crc ++ rest) = .ok (some message) := by
    intro message inside rest
    exact decodeFrame_makeProtocolMessage crc message rest
      (small message (member message inside))
  rw [messages_ok_iff, drain_records_iff (decodeFrame_canonical crc) whole _ accepted,
    quiet_part_iff crc small]

end Scan

/-! ## Runs -/

/-- After a run the bytes swapped out of the queue have been cut into complete
frames, whose messages were delivered, and an incomplete frame in the buffer. -/
structure Delivering (strings : List (List UInt8)) (past : List Event)
    (state : State) : Prop where
  running : state.needExit = false
  callback : .registerCommonMessageIncomingCallback ∈ past → state.readCallback = true
  silent : .registerCommonMessageIncomingCallback ∉ past → state.acceptorBuffer = []
  progress : ∃ processed,
    received past = processed ++ state.acceptorBuffer.flatten ∧
      state.processor.processingBuffer = incompleteFrame crc protobuf strings processed.length ∧
        state.delivered = (cut (Message.makeProtocolMessage crc)
          (sentMessages protobuf strings) processed.length).1.filterMap (unpack protobuf)

theorem delivering_start (strings : List (List UInt8)) :
    Delivering crc protobuf strings [] start where
  running := rfl
  callback member := by simp at member
  silent _ := rfl
  progress := by
    refine ⟨[], rfl, ?_, ?_⟩
    · cases strings with
      | nil => rfl
      | cons s rest =>
          simp [start, empty, incompleteFrame, sentMessages, cut, create,
            Message.makeProtocolMessage, writeAt]
    · cases strings with
      | nil => rfl
      | cons s rest =>
          simp [start, sentMessages, cut, create, Message.makeProtocolMessage, writeAt]

variable {crc protobuf}
variable {strings : List (List UInt8)} {past : List Event} {state : State}

theorem Delivering.registered (delivering : Delivering crc protobuf strings past state) :
    Delivering crc protobuf strings (past ++ [.registerCommonMessageIncomingCallback])
      { state with readCallback := true } where
  running := delivering.running
  callback _ := rfl
  silent absent := by simp at absent
  progress := by
    simpa [received] using delivering.progress

theorem Delivering.chunk (delivering : Delivering crc protobuf strings past state)
    (chunk : List UInt8) (isRegistered : .registerCommonMessageIncomingCallback ∈ past) :
    Delivering crc protobuf strings (past ++ [.onReadedChunk chunk])
      { state with acceptorBuffer := state.acceptorBuffer ++ [chunk] } where
  running := delivering.running
  callback _ := delivering.callback isRegistered
  silent absent := by simp [isRegistered] at absent
  progress := by
    obtain ⟨processed, split, buffered, delivered⟩ := delivering.progress
    refine ⟨processed, ?_, buffered, delivered⟩
    simp [received, split]

theorem Delivering.waited (delivering : Delivering crc protobuf strings past state) :
    Delivering crc protobuf strings (past ++ [.waitTimedOut]) state where
  running := delivering.running
  callback member := delivering.callback (by simpa using member)
  silent absent := delivering.silent (by simpa using absent)
  progress := by
    simpa [received] using delivering.progress

theorem Delivering.iterated (delivering : Delivering crc protobuf strings past state)
    (small : ∀ s ∈ strings, (serializedContainer protobuf s).length < 2147483648)
    (arrived : received past <+: sentBytes crc protobuf strings)
    (noDecoy : NoDecoy crc (incompleteFrame crc protobuf strings (received past).length)) :
    ∃ next, bufferProcessingThreadFunc crc protobuf state = .ok next ∧
      Delivering crc protobuf strings (past ++ [.iterate]) next ∧
      next.acceptorBuffer = [] := by
  obtain ⟨processed, split, buffered, delivered⟩ := delivering.progress
  have smallMessages : ∀ message ∈ sentMessages protobuf strings,
      message.payload.length < 2147483648 := by
    intro message member
    obtain ⟨s, inside, rfl⟩ := List.mem_map.mp member
    exact small s inside
  have receivedSame : received (past ++ [.iterate]) = received past := by simp [received]
  cases callback : state.readCallback with
  | false =>
      have absent : .registerCommonMessageIncomingCallback ∉ past := by
        intro member
        simp [delivering.callback member] at callback
      have idle := delivering.silent absent
      refine ⟨{ state with acceptorBuffer := [] }, ?_, ?_, rfl⟩
      · simp [bufferProcessingThreadFunc, delivering.running, callback]
      · exact ⟨delivering.running, fun member => delivering.callback (by simpa using member),
          fun _ => rfl, processed, by simpa [receivedSame, idle] using split, buffered, delivered⟩
  | true =>
      rw [sentBytes_eq, split] at arrived
      obtain ⟨more, grown, bytes⟩ := cut_append (Message.makeProtocolMessage crc)
        (sentMessages protobuf strings) processed state.acceptorBuffer.flatten arrived
      rw [← split] at grown bytes
      have inside : ∀ message ∈ more, message ∈ sentMessages protobuf strings := by
        intro message member
        have whole := cut_initial (Message.makeProtocolMessage crc)
          (sentMessages protobuf strings) (received past).length
        rw [grown] at whole
        exact whole.subset (List.mem_append_right _ member)
      have scan := (messages_whole_iff crc smallMessages more (received past).length inside).mpr
        noDecoy
      have held : state.processor.processingBuffer =
          (cut (Message.makeProtocolMessage crc) (sentMessages protobuf strings)
            processed.length).2 := buffered
      rw [← bytes, ← held, ← appendBuffers_eq] at scan
      refine ⟨{ state with
        acceptorBuffer := []
        processor := ⟨incompleteFrame crc protobuf strings (received past).length⟩
        delivered := state.delivered ++ more.filterMap (unpack protobuf) }, ?_, ?_, rfl⟩
      · exact bufferProcessingThreadFunc_scanned crc protobuf state delivering.running
          callback more _ scan
      · refine ⟨delivering.running, fun member => callback, fun _ => rfl,
          received past, by simp [receivedSame], rfl, ?_⟩
        rw [grown, List.filterMap_append, ← delivered]

theorem Delivering.step (delivering : Delivering crc protobuf strings past state)
    (event : Event)
    (small : ∀ s ∈ strings, (serializedContainer protobuf s).length < 2147483648)
    (arrived : received (past ++ [event]) <+: sentBytes crc protobuf strings)
    (registered : RegisteredFirst (past ++ [event]))
    (noDecoys : NoDecoys crc protobuf strings (past ++ [event])) :
    ∃ next, CommonProcessor.step crc protobuf state event = .ok next ∧
      Delivering crc protobuf strings (past ++ [event]) next := by
  cases event with
  | registerCommonMessageIncomingCallback => exact ⟨_, rfl, delivering.registered⟩
  | onReadedChunk chunk =>
      exact ⟨_, rfl, delivering.chunk chunk (registered past chunk [] rfl)⟩
  | waitTimedOut => exact ⟨_, rfl, delivering.waited⟩
  | iterate =>
      have before : received past <+: sentBytes crc protobuf strings := by
        simpa [received] using arrived
      obtain ⟨next, ran, kept, _⟩ := delivering.iterated small before (noDecoys past [] rfl)
      exact ⟨next, ran, kept⟩

theorem delivering_run (strings : List (List UInt8)) (events : List Event)
    (small : ∀ s ∈ strings, (serializedContainer protobuf s).length < 2147483648)
    (arrived : received events <+: sentBytes crc protobuf strings)
    (registered : RegisteredFirst events)
    (noDecoys : NoDecoys crc protobuf strings events) :
    ∃ final, run crc protobuf start events = .ok final ∧
      Delivering crc protobuf strings events final := by
  induction events using List.reverseRecOn with
  | nil => exact ⟨start, rfl, delivering_start crc protobuf strings⟩
  | append_singleton past event ih =>
      have before : received past <+: sentBytes crc protobuf strings := by
        rw [received_append] at arrived
        exact (List.prefix_append _ _).trans arrived
      obtain ⟨state, earlier, delivering⟩ := ih before registered.past (noDecoys.past protobuf)
      obtain ⟨next, ran, kept⟩ := delivering.step event small arrived registered noDecoys
      exact ⟨next, (run_concat crc protobuf start state past event earlier).trans ran, kept⟩

/-- Whatever the chunks and the schedule, each string is delivered once and in
order while no iteration meets a decoy. -/
theorem delivered_exactly_once (crc : List UInt8 → UInt32) (protobuf : Codecs)
    (strings : List (List UInt8)) (events : List Event)
    (small : ∀ s ∈ strings, (serializedContainer protobuf s).length < 2147483648)
    (arrived : received events <+: sentBytes crc protobuf strings)
    (registered : RegisteredFirst events)
    (noDecoys : NoDecoys crc protobuf strings events) :
    ∃ final, run crc protobuf start events = .ok final ∧
      final.delivered <+: expected strings ∧
      (received events = sentBytes crc protobuf strings → final.acceptorBuffer = [] →
        final.delivered = expected strings) := by
  obtain ⟨final, ran, delivering⟩ :=
    delivering_run strings events small arrived registered noDecoys
  obtain ⟨processed, split, _, delivered⟩ := delivering.progress
  refine ⟨final, ran, ?_, ?_⟩
  · rw [delivered, ← filterMap_sentMessages protobuf]
    exact (cut_initial _ _ _).filterMap _
  · intro everything drained
    have all : processed = sentBytes crc protobuf strings := by
      rw [← everything, split, drained]
      simp
    have whole := cut_all (Message.makeProtocolMessage crc) (sentMessages protobuf strings)
      processed.length (by rw [all, sentBytes_eq])
    rw [delivered, whole, filterMap_sentMessages]

def letterRun : List Event :=
  [.registerCommonMessageIncomingCallback,
    .onReadedChunk ((prepareData Lib.Crc32.crc32 wire [0x61]).take 10), .iterate,
    .onReadedChunk ((prepareData Lib.Crc32.crc32 wire [0x61]).drop 10), .iterate]

theorem delivered_exactly_once_letter :
    ∃ final, run Lib.Crc32.crc32 wire start letterRun = .ok final ∧
      final.delivered <+: expected [[0x61]] ∧
      (received letterRun = sentBytes Lib.Crc32.crc32 wire [[0x61]] →
        final.acceptorBuffer = [] → final.delivered = expected [[0x61]]) :=
  delivered_exactly_once Lib.Crc32.crc32 wire [[0x61]] letterRun (by decide +kernel)
    (by decide +kernel) (registeredFirst_cons _) (by decide +kernel)

end Delivery

/-! ## A decoy -/

section Decoy

theorem iterate_of_drain (crc : List UInt8 → UInt32) (protobuf : Codecs) (state : State)
    (items : List Message) (rest : List UInt8)
    (running : state.needExit = false) (callback : state.readCallback = true)
    (drained : drain (decodeFrame crc) Message.fullSize
      (state.processor.processingBuffer ++ state.acceptorBuffer.flatten) = .ok (items, rest)) :
    bufferProcessingThreadFunc crc protobuf state =
      .ok { state with
        acceptorBuffer := []
        processor := ⟨rest⟩
        delivered := state.delivered ++ items.filterMap (unpack protobuf) } := by
  have scan := (messages_ok_iff crc
    ⟨state.processor.processingBuffer ++ state.acceptorBuffer.flatten⟩ items ⟨rest⟩).mpr drained
  rw [← appendBuffers_eq] at scan
  exact bufferProcessingThreadFunc_scanned crc protobuf state running callback items ⟨rest⟩ scan

/-- The frame that carries the empty frame as its string. -/
def nestedFrame : List UInt8 :=
  prepareData Lib.Crc32.crc32 wire (frame Lib.Crc32.crc32 [])

/-- All but the last byte arrive, the worker runs, the last byte arrives. -/
def nestedRun : List Event :=
  [.registerCommonMessageIncomingCallback, .onReadedChunk (nestedFrame.take 25), .iterate,
    .onReadedChunk (nestedFrame.drop 25), .iterate]

/-- The scan returns the empty frame from inside the incomplete one and erases
what stands before it. -/
theorem nestedFrame_first_scan :
    drain (decodeFrame Lib.Crc32.crc32) Message.fullSize (nestedFrame.take 25) =
      .ok ([⟨[]⟩], nestedFrame.drop 22 |>.take 3) := by
  decide +kernel

theorem nestedFrame_second_scan :
    drain (decodeFrame Lib.Crc32.crc32) Message.fullSize (nestedFrame.drop 22) =
      .ok ([], nestedFrame.drop 22) := by
  decide +kernel

theorem nestedRun_final :
    run Lib.Crc32.crc32 wire start nestedRun =
      .ok ⟨[], false, true, ⟨nestedFrame.drop 22⟩, []⟩ := by
  have first := iterate_of_drain Lib.Crc32.crc32 wire
    ⟨[nestedFrame.take 25], false, true, empty, []⟩ _ _ rfl rfl
    (by simpa [empty] using nestedFrame_first_scan)
  have second := iterate_of_drain Lib.Crc32.crc32 wire
    ⟨[nestedFrame.drop 25], false, true, ⟨(nestedFrame.drop 22).take 3⟩, []⟩ []
    (nestedFrame.drop 22) rfl rfl (by
      have whole : (nestedFrame.drop 22).take 3 ++ nestedFrame.drop 25 = nestedFrame.drop 22 :=
        by decide +kernel
      simpa [whole] using nestedFrame_second_scan)
  have nothing : [(⟨[]⟩ : Message)].filterMap (unpack wire) = [] := by decide +kernel
  rw [nothing] at first
  simp only [nestedRun, run, step, start, bind, Except.bind, List.nil_append]
  rw [first]
  simp only [List.nil_append]
  rw [second]
  rfl

theorem nested_frame_not_delivered :
    (∀ s ∈ [frame Lib.Crc32.crc32 []], (serializedContainer wire s).length < 2147483648) ∧
      received nestedRun =
        sentBytes Lib.Crc32.crc32 wire [frame Lib.Crc32.crc32 []] ∧
      RegisteredFirst nestedRun ∧
      ∃ final, run Lib.Crc32.crc32 wire start nestedRun = .ok final ∧
        final.acceptorBuffer = [] ∧
          final.delivered ≠ expected [frame Lib.Crc32.crc32 []] :=
  ⟨by decide +kernel, by decide +kernel, registeredFirst_cons _, _, nestedRun_final, rfl,
    by decide +kernel⟩

end Decoy
end Emserver.CommonProcessor
