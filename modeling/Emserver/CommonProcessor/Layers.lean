import Emserver.CommonProcessor
import Emserver.EmserverAdapter
import Emserver.Lib.Crc32

/-!
# Layers of a received frame

A frame carries a `TransportContainer`, which carries a `CommonMessage`, which
carries an envelope with a method message.  The read callback of a session is
`EmserverProcessor::callbackRecievedCommonMessage`.  The worker does not look at
whether the `CommonMessage` parsed, so what was read of a malformed one goes up
to the callback and may reach a handler.
-/

set_option autoImplicit false

namespace Emserver.CommonProcessor

open Emserver.BaseProtocol
open Emserver.BufferProcessor
open Emserver.Protobuf
open Emserver.EmserverProcessor

section Layers
variable {H : Type} (protobuf : Codecs) (processor : Processor H)

/-- The bytes parse as an initialized container with a payload. -/
def ContainerParses (bytes inner : List UInt8) : Prop :=
  ∃ trMsg, protobuf.transportContainer.parseFromString bytes = (trMsg, true) ∧
    isInitialized trMsg = true ∧ trMsg.payload = some inner

def CommonParses (bytes : List UInt8) (cmsg : CommonMessage) : Prop :=
  protobuf.commonMessage.parseFromString bytes = (cmsg, true) ∧ isInitialized cmsg = true

def OuterNest (bytes : List UInt8) (cmsg : CommonMessage) : Prop :=
  ∃ inner, ContainerParses protobuf bytes inner ∧ CommonParses protobuf inner cmsg

/-- All four layers parse, the `CommonMessage` under the work mode, the envelope
initialized, and the innermost as the type of the handler. -/
def WholeNest (bytes : List UInt8) (invocation : Invocation H) : Prop :=
  ∃ cmsg envelope, OuterNest protobuf bytes cmsg ∧
    cmsg.code = some processor.workModeCode ∧
    protobuf.serverCommonMessage.parseFromString (cmsg.payload.getD []) = (envelope, true) ∧
    isInitialized envelope = true ∧
    processor.Invokes protobuf (envelope.type.getD 0) (envelope.payload.getD []) invocation

def OuterParses (bytes : List UInt8) : Prop := ∃ cmsg, OuterNest protobuf bytes cmsg

def WholeParses (bytes : List UInt8) : Prop :=
  ∃ invocation, WholeNest protobuf processor bytes invocation

/-! ## What the callback does -/

/-- The read callback on each delivered message: whom the processor invokes. -/
def handlers : List CommonMessage → Except BadAnyCast (List (Invocation H))
  | [] => .ok []
  | cmsg :: rest => do
      let outcome ← processor.callbackRecievedCommonMessage protobuf cmsg
      let later ← handlers rest
      .ok (outcome.invoked ++ later)

/-- What a batch of frames hands to the read callback. -/
def delivered (messages : List Message) : List CommonMessage :=
  messages.filterMap (unpack protobuf)

/-- Over a batch of frames the callback runs for a frame only if `required` holds
of its bytes, a handler only if all layers parse, and a frame of which this
fails might as well not be there. -/
structure Layered (required : List UInt8 → Prop) (messages : List Message) : Prop where
  callback : ∀ message ∈ messages, (unpack protobuf message).isSome → required message.payload
  handler : ∀ message ∈ messages, ∀ invocations,
    handlers protobuf processor (delivered protobuf [message]) = .ok invocations →
      ∀ invocation ∈ invocations, WholeNest protobuf processor message.payload invocation
  notDelivered : ∀ before message after, messages = before ++ message :: after →
    ¬ required message.payload →
      delivered protobuf messages = delivered protobuf (before ++ after)
  notHandled : ∀ before message after, messages = before ++ message :: after →
    ¬ WholeParses protobuf processor message.payload →
      handlers protobuf processor (delivered protobuf messages) =
        handlers protobuf processor (delivered protobuf (before ++ after))

/-! ## One frame -/

theorem unpack_eq_some_iff (message : Message) (cmsg : CommonMessage) :
    unpack protobuf message = some cmsg ↔
      ∃ inner, ContainerParses protobuf message.payload inner ∧
        (protobuf.commonMessage.parseFromString inner).1 = cmsg := by
  unfold unpack ContainerParses
  cases parsed : protobuf.transportContainer.parseFromString message.payload with
  | mk trMsg isExtracted =>
      constructor
      · intro found
        dsimp only at found
        split at found
        case isFalse => contradiction
        case isTrue both =>
          have good := Bool.and_eq_true_iff.mp both
          obtain ⟨inner, payload, image⟩ := Option.map_eq_some_iff.mp found
          exact ⟨inner, ⟨trMsg, by rw [good.1], good.2, payload⟩, image⟩
      · rintro ⟨inner, ⟨other, same, initialized, payload⟩, image⟩
        cases same
        simp [initialized, payload, image]

theorem unpack_isSome_iff (message : Message) :
    (unpack protobuf message).isSome ↔
      ∃ inner, ContainerParses protobuf message.payload inner := by
  rw [Option.isSome_iff_exists]
  constructor
  · rintro ⟨cmsg, found⟩
    obtain ⟨inner, container, _⟩ := (unpack_eq_some_iff protobuf message cmsg).mp found
    exact ⟨inner, container⟩
  · rintro ⟨inner, container⟩
    exact ⟨_, (unpack_eq_some_iff protobuf message _).mpr ⟨inner, container, rfl⟩⟩

theorem containerParses_inner {bytes first second : List UInt8}
    (one : ContainerParses protobuf bytes first)
    (other : ContainerParses protobuf bytes second) : first = second := by
  obtain ⟨trMsg, parsed, _, payload⟩ := one
  obtain ⟨again, parsedAgain, _, payloadAgain⟩ := other
  rw [parsed] at parsedAgain
  cases parsedAgain
  rw [payload] at payloadAgain
  exact Option.some.inj payloadAgain

/-- What the callback is handed for a frame whose outer layers parse is what they
parse as. -/
theorem outerNest_of_unpack (message : Message) (cmsg : CommonMessage)
    (found : unpack protobuf message = some cmsg)
    (parses : OuterParses protobuf message.payload) :
    OuterNest protobuf message.payload cmsg := by
  obtain ⟨inner, container, image⟩ := (unpack_eq_some_iff protobuf message cmsg).mp found
  obtain ⟨other, again, otherContainer, parsed, initialized⟩ := parses
  cases containerParses_inner protobuf container otherContainer
  rw [parsed] at image
  cases image
  exact ⟨inner, container, parsed, initialized⟩

theorem outerParses_of_wholeParses (bytes : List UInt8)
    (whole : WholeParses protobuf processor bytes) : OuterParses protobuf bytes := by
  obtain ⟨invocation, cmsg, envelope, outer, _⟩ := whole
  exact ⟨cmsg, outer⟩

/-- The inner layers are checked before a handler runs. -/
theorem wholeNest_of_handlers (checks : protobuf.serverCommonMessage.ChecksRequired)
    (message : Message) (outer : (unpack protobuf message).isSome →
      OuterParses protobuf message.payload)
    (invocations : List (Invocation H))
    (run : handlers protobuf processor (delivered protobuf [message]) = .ok invocations)
    (invocation : Invocation H) (member : invocation ∈ invocations) :
    WholeNest protobuf processor message.payload invocation := by
  cases found : unpack protobuf message with
  | none =>
      simp only [delivered, List.filterMap_cons_none found, List.filterMap_nil,
        handlers] at run
      cases run
      contradiction
  | some cmsg =>
      simp only [delivered, List.filterMap_cons_some found, List.filterMap_nil, handlers,
        bind, Except.bind] at run
      cases call : processor.callbackRecievedCommonMessage protobuf cmsg with
      | error fault =>
          rw [call] at run
          contradiction
      | ok outcome =>
          rw [call] at run
          cases run
          rw [List.append_nil] at member
          obtain ⟨mode, envelope, parsed, invokes⟩ :=
            recieved_inv protobuf processor cmsg outcome call invocation member
          exact ⟨cmsg, envelope, outerNest_of_unpack protobuf message cmsg found
            (outer (by rw [found]; rfl)), mode, parsed, checks _ _ parsed, invokes⟩

/-! ## Batches -/

theorem handlers_append (first second : List CommonMessage) :
    handlers protobuf processor (first ++ second) =
      (handlers protobuf processor first).bind fun earlier =>
        (handlers protobuf processor second).map fun later => earlier ++ later := by
  induction first with
  | nil =>
      simp only [List.nil_append, handlers, Except.bind]
      cases handlers protobuf processor second <;> rfl
  | cons cmsg rest ih =>
      simp only [List.cons_append, handlers, ih, bind, Except.bind]
      cases processor.callbackRecievedCommonMessage protobuf cmsg with
      | error fault => rfl
      | ok outcome =>
          cases handlers protobuf processor rest with
          | error fault => rfl
          | ok later =>
              cases handlers protobuf processor second with
              | error fault => rfl
              | ok last => simp [Except.map]

theorem handlers_returns (wellTyped : processor.WellTyped) (cmsgs : List CommonMessage) :
    ∃ invocations, handlers protobuf processor cmsgs = .ok invocations := by
  induction cmsgs with
  | nil => exact ⟨[], rfl⟩
  | cons cmsg rest ih =>
      obtain ⟨outcome, call⟩ := recieved_returns protobuf processor wellTyped cmsg
      obtain ⟨later, run⟩ := ih
      exact ⟨outcome.invoked ++ later, by simp [handlers, call, run, bind, Except.bind]⟩

theorem delivered_append (first second : List Message) :
    delivered protobuf (first ++ second) =
      delivered protobuf first ++ delivered protobuf second :=
  List.filterMap_append

theorem handlers_skip (before after : List Message) (message : Message)
    (silent : handlers protobuf processor (delivered protobuf [message]) = .ok []) :
    handlers protobuf processor (delivered protobuf (before ++ message :: after)) =
      handlers protobuf processor (delivered protobuf (before ++ after)) := by
  have tail : handlers protobuf processor (delivered protobuf (message :: after)) =
      handlers protobuf processor (delivered protobuf after) := by
    have split : message :: after = [message] ++ after := rfl
    rw [split, delivered_append, handlers_append, silent]
    simp only [Except.bind, List.nil_append]
    cases handlers protobuf processor (delivered protobuf after) <;> rfl
  rw [delivered_append, handlers_append, tail, delivered_append, handlers_append]

/-- A requirement that includes the outer layers is met exactly when every
frame whose container parses meets it. -/
theorem layered_iff_required (wellTyped : processor.WellTyped)
    (checks : protobuf.serverCommonMessage.ChecksRequired) (required : List UInt8 → Prop)
    (sufficient : ∀ bytes, required bytes → OuterParses protobuf bytes)
    (messages : List Message) :
    Layered protobuf processor required messages ↔
      ∀ message ∈ messages, ∀ inner, ContainerParses protobuf message.payload inner →
        required message.payload := by
  constructor
  · intro layered message member inner container
    exact layered.callback message member
      ((unpack_isSome_iff protobuf message).mpr ⟨inner, container⟩)
  · intro met
    have callback : ∀ message ∈ messages, (unpack protobuf message).isSome →
        required message.payload := by
      intro message member found
      obtain ⟨inner, container⟩ := (unpack_isSome_iff protobuf message).mp found
      exact met message member inner container
    have handler : ∀ message ∈ messages, ∀ invocations,
        handlers protobuf processor (delivered protobuf [message]) = .ok invocations →
          ∀ invocation ∈ invocations,
            WholeNest protobuf processor message.payload invocation := by
      intro message member
      apply wholeNest_of_handlers protobuf processor checks message
      intro found
      exact sufficient _ (callback message member found)
    refine ⟨callback, handler, ?_, ?_⟩
    · intro before message after split unmet
      have member : message ∈ messages := by simp [split]
      have dropped : unpack protobuf message = none := by
        rw [← Option.not_isSome_iff_eq_none]
        intro found
        exact unmet (callback message member found)
      simp only [split, delivered, List.filterMap_append,
        List.filterMap_cons_none dropped]
    · intro before message after split unmet
      have member : message ∈ messages := by simp [split]
      obtain ⟨invocations, run⟩ :=
        handlers_returns protobuf processor wellTyped (delivered protobuf [message])
      have silent : invocations = [] := by
        apply List.eq_nil_iff_forall_not_mem.mpr
        intro invocation inside
        exact unmet ⟨invocation, handler message member invocations run invocation inside⟩
      rw [silent] at run
      rw [split]
      exact handlers_skip protobuf processor before after message run

/-- For the frames of any iteration of the worker: no callback runs before the
whole nest parsed exactly when every container carries a whole nest, and none
before the outer layers did exactly when every container carries a
`CommonMessage` that parses. -/
theorem layers_iff (crc : List UInt8 → UInt32) (wellTyped : processor.WellTyped)
    (checks : protobuf.serverCommonMessage.ChecksRequired) (state : State)
    (running : state.needExit = false) (registered : state.readCallback = true)
    (messages : List Message) (rest : Buffer)
    (scanned : (state.processor.appendBuffers state.acceptorBuffer).messages crc =
      .ok (messages, rest)) :
    (∃ after, bufferProcessingThreadFunc crc protobuf state = .ok after ∧
      after.delivered = state.delivered ++ delivered protobuf messages) ∧
    (Layered protobuf processor (WholeParses protobuf processor) messages ↔
      ∀ message ∈ messages, ∀ inner, ContainerParses protobuf message.payload inner →
        WholeParses protobuf processor message.payload) ∧
    (Layered protobuf processor (OuterParses protobuf) messages ↔
      ∀ message ∈ messages, ∀ inner, ContainerParses protobuf message.payload inner →
        ∃ cmsg, CommonParses protobuf inner cmsg) := by
  refine ⟨?_, ?_, ?_⟩
  · exact ⟨_, bufferProcessingThreadFunc_scanned crc protobuf state running registered
      messages rest scanned, rfl⟩
  · exact layered_iff_required protobuf processor wellTyped checks _
      (outerParses_of_wholeParses protobuf processor) messages
  · rw [layered_iff_required protobuf processor wellTyped checks _ (fun _ outer => outer)]
    constructor
    · intro met message member inner container
      obtain ⟨cmsg, other, otherContainer, parsed⟩ := met message member inner container
      rw [containerParses_inner protobuf container otherContainer]
      exact ⟨cmsg, parsed⟩
    · intro met message member inner container
      obtain ⟨cmsg, parsed⟩ := met message member inner container
      exact ⟨cmsg, inner, container, parsed⟩

end Layers

/-! ## The two processors -/

theorem serverProcessor_wellTyped : Requests.serverProcessor.WellTyped := by
  intro message funcPtr registered
  cases message with
  | requestCapabilities message =>
      cases registered
      rfl
  | sensorsControl message =>
      cases registered
      rfl
  | capabilities message => contradiction
  | serverRuntimeNotification message => contradiction
  | sensorActivated message => contradiction

theorem clientProcessor_wellTyped : EmserverAdapter.clientProcessor.WellTyped := by
  intro message funcPtr registered
  cases message with
  | capabilities message =>
      cases registered
      rfl
  | serverRuntimeNotification message =>
      cases registered
      rfl
  | sensorActivated message =>
      cases registered
      rfl
  | requestCapabilities message => contradiction
  | sensorsControl message => contradiction

/-- A capabilities request in its layers, with `tail` behind the `CommonMessage`. -/
def nestedRequest (tail : List UInt8) : Message :=
  let envelope := makeMessage wire .requestCapabilites (some (.requestCapabilities ⟨none⟩)) 1
  create (wire.transportContainer.serializeAsString
    ⟨some 1, some (wire.commonMessage.serializeAsString ⟨some 1, some envelope⟩ ++ tail)⟩)

/-- A worker whose queue holds the frame of the message. -/
def queued (message : Message) : State :=
  ⟨[message.makeProtocolMessage Lib.Crc32.crc32], false, true, BufferProcessor.empty, []⟩

theorem queued_scanned :
    ((queued (nestedRequest [])).processor.appendBuffers
      (queued (nestedRequest [])).acceptorBuffer).messages Lib.Crc32.crc32 =
        .ok ([nestedRequest []], BufferProcessor.empty) :=
  (messages_ok_iff _ _ _ _).mpr (by decide +kernel)

theorem layers_iff_nestedRequest :
    (∃ after, bufferProcessingThreadFunc Lib.Crc32.crc32 wire (queued (nestedRequest [])) =
        .ok after ∧ after.delivered = [] ++ delivered wire [nestedRequest []]) ∧
    (Layered wire Requests.serverProcessor (WholeParses wire Requests.serverProcessor)
        [nestedRequest []] ↔
      ∀ message ∈ [nestedRequest []], ∀ inner, ContainerParses wire message.payload inner →
        WholeParses wire Requests.serverProcessor message.payload) ∧
    (Layered wire Requests.serverProcessor (OuterParses wire) [nestedRequest []] ↔
      ∀ message ∈ [nestedRequest []], ∀ inner, ContainerParses wire message.payload inner →
        ∃ cmsg, CommonParses wire inner cmsg) :=
  layers_iff wire Requests.serverProcessor Lib.Crc32.crc32 serverProcessor_wellTyped
    serverCommonMessageSchema.codec_checksRequired (queued (nestedRequest [])) rfl rfl _ _
    queued_scanned

/-- An unknown field that ends after its length: the `CommonMessage` does not parse, and
the request in front of it is handled. -/
theorem truncatedRequest_handled :
    handlers wire Requests.serverProcessor (delivered wire [nestedRequest [0x1A, 0x05]]) =
        .ok [⟨.callbackEmserverCapsRequest, .requestCapabilities ⟨none⟩, 1⟩] ∧
      ¬ OuterParses wire (nestedRequest [0x1A, 0x05]).payload ∧
      ¬ Layered wire Requests.serverProcessor (WholeParses wire Requests.serverProcessor)
        [nestedRequest [0x1A, 0x05]] ∧
      ¬ Layered wire Requests.serverProcessor (OuterParses wire)
        [nestedRequest [0x1A, 0x05]] := by
  have broken : ¬ OuterParses wire (nestedRequest [0x1A, 0x05]).payload := by
    rintro ⟨cmsg, inner, ⟨trMsg, parsed, _, payload⟩, common, _⟩
    have container := congrArg Prod.fst parsed
    have image : (wire.transportContainer.parseFromString
        (nestedRequest [0x1A, 0x05]).payload).1.payload = some inner := by
      rw [container, payload]
    have failed : ((wire.transportContainer.parseFromString
        (nestedRequest [0x1A, 0x05]).payload).1.payload.map fun bytes =>
          (wire.commonMessage.parseFromString bytes).2) = some false := by decide +kernel
    rw [image, Option.map_some, common] at failed
    simp at failed
  have called : (unpack wire (nestedRequest [0x1A, 0x05])).isSome := by decide +kernel
  refine ⟨by decide +kernel, broken, ?_, ?_⟩
  · intro layered
    have whole := layered.callback _ List.mem_cons_self called
    exact broken (outerParses_of_wholeParses wire _ _ whole)
  · intro layered
    exact broken (layered.callback _ List.mem_cons_self called)

end Emserver.CommonProcessor
