import Emserver.EmserverProcessor
import Emserver.Protobuf.Wire

/-!
# Exact dispatch

What a processor with any table of registrations does with any common message:
a message of a handled code goes to the handler registered last for that code,
and everything else goes nowhere.
-/

set_option autoImplicit false

namespace Emserver.EmserverProcessor

open Emserver.Protobuf

/-! ## Registrations -/

/-- The type the `switch` casts the callback of a code to, if it has a case for it. -/
def MethodCode.callbackType : MethodCode → Option CallbackType
  | .requestCapabilites => some .callbackCapabilityRequest
  | .responseCapabilities => some .callbackCapabilityResponse
  | .serverRuntimeNotification => some .callbackServerRuntimeNotification
  | .sensorsConfigurationControl => none
  | .sensorControl => some .callbackSensorControl
  | .sensorActivated => some .callbackSensorActivated

/-- A handler registered under a code of the `switch` with that code's type. -/
structure Registration (H : Type) where
  code : MethodCode
  pCallback : AnyCallback H
  typed : code.callbackType = some pCallback.type

section Table
variable {H : Type}

def Processor.registerAll (processor : Processor H) : List (Registration H) → Processor H
  | [] => processor
  | registration :: rest =>
      (processor.registerCallback registration.code registration.pCallback).registerAll rest

/-- The handler registered last for a code. -/
def latest (code : MethodCode) : List (Registration H) → Option H
  | [] => none
  | registration :: rest =>
      (latest code rest).or
        (if registration.code = code then some registration.pCallback.handler else none)

/-- The message goes once to the handler registered last for its code. -/
def answer (registrations : List (Registration H)) (message : MethodMessage) (id : Int64) :
    Outcome H :=
  match latest message.code registrations with
  | none => ⟨false, []⟩
  | some handler => ⟨true, [⟨handler, message, id⟩]⟩

theorem registerAll_workModeCode (processor : Processor H)
    (registrations : List (Registration H)) :
    (processor.registerAll registrations).workModeCode = processor.workModeCode := by
  induction registrations generalizing processor with
  | nil => rfl
  | cons registration rest ih => exact ih _

theorem code_callbackType (message : MethodMessage) :
    message.code.callbackType = some message.callbackType := by
  cases message <;> rfl

theorem registerAll_callbacks (processor : Processor H)
    (registrations : List (Registration H)) (message : MethodMessage) :
    (processor.registerAll registrations).callbacks message.code =
      ((latest message.code registrations).map (AnyCallback.mk message.callbackType)).or
        (processor.callbacks message.code) := by
  induction registrations generalizing processor with
  | nil => rfl
  | cons registration rest ih =>
      rw [Processor.registerAll, ih, latest]
      cases later : latest message.code rest with
      | some handler => rfl
      | none =>
          by_cases same : registration.code = message.code
          · have typed := registration.typed
            rw [same, code_callbackType] at typed
            rw [Option.some.inj typed]
            simp [Processor.registerCallback, same]
          · simp [Processor.registerCallback, same, Ne.symm same]

theorem invoke_registered (workModeCode : UInt32) (registrations : List (Registration H))
    (message : MethodMessage) (id : Int64) :
    ((create workModeCode).registerAll registrations).invoke message id =
      .ok (answer registrations message id) := by
  have slot := registerAll_callbacks (create workModeCode) registrations message
  rw [Processor.invoke, slot, answer]
  cases latest message.code registrations with
  | none => rfl
  | some handler => simp

end Table

/-! ## Common messages -/

section Codecs
variable (protobuf : Codecs)

/-- A common message that carries a method message under an id: the mode is the
processor's, the envelope and its payload parse. -/
structure Carries (workModeCode : UInt32) (cmsg : CommonMessage) (message : MethodMessage)
    (id : Int64) : Prop where
  mode : cmsg.code = some workModeCode
  envelope : ∃ envelope,
    protobuf.serverCommonMessage.parseFromString (cmsg.payload.getD []) = (envelope, true) ∧
      envelope.type = some message.code.value ∧
      message.ParsesFrom protobuf (envelope.payload.getD []) ∧
      id = envelope.id.getD (-1)

theorem carries_makeMessage (workModeCode : UInt32) (message : MethodMessage) (id : Int64)
    (initialized : message.isInitialized = true) :
    Carries protobuf workModeCode
      ⟨some workModeCode, some (makeMessage protobuf message.code (some message) id)⟩
      message id where
  mode := rfl
  envelope := ⟨_, parse_makeMessage protobuf message.code message id initialized, rfl,
    parsesFrom_serializeAsString protobuf message initialized, rfl⟩

theorem value_ne_zero (code : MethodCode) : code.value ≠ 0 := by
  cases code <;> decide

variable {H : Type} (processor : Processor H)

theorem recieved_carries (cmsg : CommonMessage) (message : MethodMessage) (id : Int64)
    (carries : Carries protobuf processor.workModeCode cmsg message id) :
    processor.callbackRecievedCommonMessage protobuf cmsg = processor.invoke message id := by
  obtain ⟨mode, envelope, parsed, type, payload, rfl⟩ := carries
  rw [← dispatch_parsed protobuf processor message (envelope.payload.getD []) _ payload]
  simp [Processor.callbackRecievedCommonMessage, mode, parsed, type]

/-- A type without a case, or a payload that does not parse in its case. -/
theorem dispatch_idle (type : UInt32) (payload : List UInt8) (code : Int64)
    (nothing : ∀ message : MethodMessage, type = message.code.value →
      ¬ message.ParsesFrom protobuf payload) :
    processor.dispatch protobuf type payload code = .ok ⟨false, []⟩ := by
  apply dispatch_elim protobuf processor type payload code fun result =>
    result = .ok ⟨false, []⟩
  · rfl
  · intro M _ codec wrap callbackType method entry same
    unfold Processor.commonCallbackProcessing
    cases parsed : codec.parseFromString payload with
    | mk msg isOk =>
        cases isOk with
        | false => rfl
        | true =>
            have matching : type = (wrap msg).code.value := by rw [same, entry.code_eq]
            exact absurd (entry.parses msg payload parsed) (nothing (wrap msg) matching)

theorem recieved_idle (cmsg : CommonMessage)
    (nothing : ¬ ∃ message id, Carries protobuf processor.workModeCode cmsg message id) :
    processor.callbackRecievedCommonMessage protobuf cmsg = .ok ⟨false, []⟩ := by
  unfold Processor.callbackRecievedCommonMessage
  cases mode : cmsg.code with
  | none => rfl
  | some code =>
      by_cases same : code = processor.workModeCode
      case neg => simp [same]
      cases parsed : protobuf.serverCommonMessage.parseFromString (cmsg.payload.getD []) with
      | mk envelope isOk =>
          cases isOk with
          | false => simp [same]
          | true =>
              simp only [same, ne_eq, not_true_eq_false, if_false, Bool.not_true,
                Bool.false_eq_true]
              apply dispatch_idle
              intro message type payload
              apply nothing
              refine ⟨message, _, ⟨by rw [mode, same], envelope, parsed, ?_, payload, rfl⟩⟩
              cases found : envelope.type with
              | none =>
                  rw [found] at type
                  exact absurd type.symm (value_ne_zero message.code)
              | some value =>
                  rw [found] at type
                  rw [← type, Option.getD_some]

/-- Every common message, behind every table: one that `makeMessage` made, one
that carries a message in any other form, and one that carries nothing. -/
theorem dispatch_exact (workModeCode : UInt32) (registrations : List (Registration H)) :
    (∀ message id, message.isInitialized = true →
      ((create workModeCode).registerAll registrations).callbackRecievedCommonMessage protobuf
          ⟨some workModeCode, some (makeMessage protobuf message.code (some message) id)⟩ =
        .ok (answer registrations message id)) ∧
    (∀ cmsg message id, Carries protobuf workModeCode cmsg message id →
      ((create workModeCode).registerAll registrations).callbackRecievedCommonMessage protobuf
          cmsg = .ok (answer registrations message id)) ∧
    (∀ cmsg, (¬ ∃ message id, Carries protobuf workModeCode cmsg message id) →
      ((create workModeCode).registerAll registrations).callbackRecievedCommonMessage protobuf
          cmsg = .ok ⟨false, []⟩) := by
  have mode := registerAll_workModeCode (create workModeCode) registrations
  have carried : ∀ cmsg message id, Carries protobuf workModeCode cmsg message id →
      ((create workModeCode).registerAll registrations).callbackRecievedCommonMessage protobuf
          cmsg = .ok (answer registrations message id) := by
    intro cmsg message id carries
    have own : (create (H := H) workModeCode).workModeCode = workModeCode := rfl
    rw [← own, ← mode] at carries
    rw [recieved_carries protobuf _ cmsg message id carries, invoke_registered]
  refine ⟨?_, carried, ?_⟩
  · intro message id initialized
    exact carried _ message id (carries_makeMessage protobuf workModeCode message id initialized)
  · intro cmsg nothing
    apply recieved_idle
    rw [mode]
    exact nothing

end Codecs

/-- One code registered twice, another never. -/
def twoRegistrations : List (Registration Bool) :=
  [⟨.sensorActivated, ⟨.callbackSensorActivated, false⟩, rfl⟩,
    ⟨.sensorActivated, ⟨.callbackSensorActivated, true⟩, rfl⟩]

theorem dispatch_exact_twoRegistrations :
    ((create 1).registerAll twoRegistrations).callbackRecievedCommonMessage wire
        ⟨some 1, some (makeMessage wire .sensorActivated
          (some (.sensorActivated ⟨some 4, some .stDryContact, none⟩)) 9)⟩ =
      .ok ⟨true, [⟨true, .sensorActivated ⟨some 4, some .stDryContact, none⟩, 9⟩]⟩ :=
  (dispatch_exact wire 1 twoRegistrations).1
    (.sensorActivated ⟨some 4, some .stDryContact, none⟩) 9 (by decide)

end Emserver.EmserverProcessor
