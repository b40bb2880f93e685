import Emserver.Protobuf

/-!
# The method processor

`common/src/processoremserver.cpp` and its header, shared by client and server:
`makeMessage` puts a message of one of the five method types in an envelope with
a method code and an id, and `callbackRecievedCommonMessage` reads an envelope
and invokes the callback registered for its code.

A callback is a name from a type `H` with the `std::function` type it was
registered under; `boost::any_cast` to another type throws.
-/

set_option autoImplicit false

namespace Emserver.EmserverProcessor

open Emserver.Protobuf

inductive MethodCode where
  | requestCapabilites
  | responseCapabilities
  | serverRuntimeNotification
  | sensorsConfigurationControl
  | sensorControl
  | sensorActivated
  deriving DecidableEq, Repr

def MethodCode.value : MethodCode → UInt32
  | .requestCapabilites => 1
  | .responseCapabilities => 2
  | .serverRuntimeNotification => 3
  | .sensorsConfigurationControl => 4
  | .sensorControl => 5
  | .sensorActivated => 6

inductive CallbackType where
  | callbackCapabilityRequest
  | callbackCapabilityResponse
  | callbackServerRuntimeNotification
  | callbackSensorControl
  | callbackSensorActivated
  deriving DecidableEq

/-- What a `google::protobuf::Message` pointer points to here. -/
inductive MethodMessage where
  | requestCapabilities (message : RequestCapabilities)
  | capabilities (message : Capabilities)
  | serverRuntimeNotification (message : ServerRuntimeNotification)
  | sensorsControl (message : SensorsControl)
  | sensorActivated (message : SensorActivated)
  deriving DecidableEq

def MethodMessage.isInitialized : MethodMessage → Bool
  | .requestCapabilities message => Protobuf.isInitialized message
  | .capabilities message => Protobuf.isInitialized message
  | .serverRuntimeNotification message => Protobuf.isInitialized message
  | .sensorsControl message => Protobuf.isInitialized message
  | .sensorActivated message => Protobuf.isInitialized message

section Callbacks
variable (H : Type)

structure AnyCallback where
  type : CallbackType
  handler : H
  deriving DecidableEq

structure Invocation where
  handler : H
  message : MethodMessage
  id : Int64
  deriving DecidableEq

/-- What a call returned and whom it called. -/
structure Outcome where
  ret : Bool
  invoked : List (Invocation H)
  deriving DecidableEq

structure Processor where
  workModeCode : UInt32
  callbacks : MethodCode → Option (AnyCallback H)

end Callbacks

inductive BadAnyCast where
  | badAnyCast
  deriving DecidableEq

def create {H : Type} (workModeCode : UInt32) : Processor H := ⟨workModeCode, fun _ => none⟩

section Processor
variable {H : Type} (protobuf : Codecs)

def MethodMessage.serializeAsString : MethodMessage → List UInt8
  | .requestCapabilities message => protobuf.requestCapabilities.serializeAsString message
  | .capabilities message => protobuf.capabilities.serializeAsString message
  | .serverRuntimeNotification message =>
      protobuf.serverRuntimeNotification.serializeAsString message
  | .sensorsControl message => protobuf.sensorsControl.serializeAsString message
  | .sensorActivated message => protobuf.sensorActivated.serializeAsString message

def Processor.registerCallback (processor : Processor H) (code : MethodCode)
    (pCallback : AnyCallback H) : Processor H :=
  { processor with
    callbacks := fun other => if other = code then some pCallback else processor.callbacks other }

/-- `none` is the null pointer. The source gives `id` the default `-1`, which no
sender of a request uses. -/
def makeMessage (code : MethodCode) (pMessage : Option MethodMessage) (id : Int64) :
    List UInt8 :=
  match pMessage with
  | none => []
  | some message =>
      if !message.isInitialized then []
      else
        protobuf.serverCommonMessage.serializeAsString
          ⟨some code.value, some (message.serializeAsString protobuf), some id⟩

/-- The template: `codec` is the message type `M` and `type` the callback type `C`. -/
def Processor.commonCallbackProcessing (processor : Processor H) {M : Type} [ProtoMessage M]
    (codec : Codec M) (wrap : M → MethodMessage) (type : CallbackType)
    (code : MethodCode) (responce : List UInt8) (mcode : Int64) :
    Except BadAnyCast (Outcome H) :=
  let (msg, isOk) := codec.parseFromString responce
  if !isOk then .ok ⟨false, []⟩
  else
    match processor.callbacks code with
    | none => .ok ⟨false, []⟩
    | some funcPtr =>
        if funcPtr.type = type then .ok ⟨true, [⟨funcPtr.handler, wrap msg, mcode⟩]⟩
        else .error .badAnyCast

/-- The `switch`: it has no case for `SensorsConfigurationControl`. -/
def Processor.dispatch (processor : Processor H) (type : UInt32) (payload : List UInt8)
    (code : Int64) : Except BadAnyCast (Outcome H) :=
  if type = MethodCode.requestCapabilites.value then
    processor.commonCallbackProcessing protobuf.requestCapabilities .requestCapabilities
      .callbackCapabilityRequest .requestCapabilites payload code
  else if type = MethodCode.responseCapabilities.value then
    processor.commonCallbackProcessing protobuf.capabilities .capabilities
      .callbackCapabilityResponse .responseCapabilities payload code
  else if type = MethodCode.serverRuntimeNotification.value then
    processor.commonCallbackProcessing protobuf.serverRuntimeNotification
      .serverRuntimeNotification .callbackServerRuntimeNotification
      .serverRuntimeNotification payload code
  else if type = MethodCode.sensorControl.value then
    processor.commonCallbackProcessing protobuf.sensorsControl .sensorsControl
      .callbackSensorControl .sensorControl payload code
  else if type = MethodCode.sensorActivated.value then
    processor.commonCallbackProcessing protobuf.sensorActivated .sensorActivated
      .callbackSensorActivated .sensorActivated payload code
  else .ok ⟨false, []⟩

def Processor.callbackRecievedCommonMessage (processor : Processor H)
    (commonBaseMessage : CommonMessage) : Except BadAnyCast (Outcome H) :=
  match commonBaseMessage.code with
  | none => .ok ⟨false, []⟩
  | some mode =>
      if mode ≠ processor.workModeCode then .ok ⟨false, []⟩
      else
        let (emServerMessage, isOk) := protobuf.serverCommonMessage.parseFromString
          (commonBaseMessage.payload.getD [])
        if !isOk then .ok ⟨false, []⟩
        else
          processor.dispatch protobuf (emServerMessage.type.getD 0)
            (emServerMessage.payload.getD []) (emServerMessage.id.getD (-1))

/-! ## Messages that `makeMessage` wrote -/

/-- The code whose case reads a message of this type. -/
def MethodMessage.code : MethodMessage → MethodCode
  | .requestCapabilities _ => .requestCapabilites
  | .capabilities _ => .responseCapabilities
  | .serverRuntimeNotification _ => .serverRuntimeNotification
  | .sensorsControl _ => .sensorControl
  | .sensorActivated _ => .sensorActivated

def MethodMessage.callbackType : MethodMessage → CallbackType
  | .requestCapabilities _ => .callbackCapabilityRequest
  | .capabilities _ => .callbackCapabilityResponse
  | .serverRuntimeNotification _ => .callbackServerRuntimeNotification
  | .sensorsControl _ => .callbackSensorControl
  | .sensorActivated _ => .callbackSensorActivated

/-- What the registered callback, if there is one, makes of a parsed message. -/
def Processor.invoke (processor : Processor H) (message : MethodMessage) (id : Int64) :
    Except BadAnyCast (Outcome H) :=
  match processor.callbacks message.code with
  | none => .ok ⟨false, []⟩
  | some funcPtr =>
      if funcPtr.type = message.callbackType then .ok ⟨true, [⟨funcPtr.handler, message, id⟩]⟩
      else .error .badAnyCast

def MethodMessage.ParsesFrom : MethodMessage → List UInt8 → Prop
  | .requestCapabilities message, data =>
      protobuf.requestCapabilities.parseFromString data = (message, true)
  | .capabilities message, data => protobuf.capabilities.parseFromString data = (message, true)
  | .serverRuntimeNotification message, data =>
      protobuf.serverRuntimeNotification.parseFromString data = (message, true)
  | .sensorsControl message, data =>
      protobuf.sensorsControl.parseFromString data = (message, true)
  | .sensorActivated message, data =>
      protobuf.sensorActivated.parseFromString data = (message, true)

theorem commonCallbackProcessing_parsed (processor : Processor H) {M : Type} [ProtoMessage M]
    (codec : Codec M) (wrap : M → MethodMessage) (message : M) (data : List UInt8) (id : Int64)
    (parsed : codec.parseFromString data = (message, true)) :
    processor.commonCallbackProcessing codec wrap (wrap message).callbackType
        (wrap message).code data id =
      processor.invoke (wrap message) id := by
  simp [Processor.commonCallbackProcessing, parsed, Processor.invoke]

theorem dispatch_parsed (processor : Processor H) (message : MethodMessage)
    (payload : List UInt8) (id : Int64) (parses : message.ParsesFrom protobuf payload) :
    processor.dispatch protobuf message.code.value payload id =
      processor.invoke message id := by
  cases message with
  | requestCapabilities message =>
      exact commonCallbackProcessing_parsed processor protobuf.requestCapabilities
        .requestCapabilities message payload id parses
  | capabilities message =>
      exact commonCallbackProcessing_parsed processor protobuf.capabilities
        .capabilities message payload id parses
  | serverRuntimeNotification message =>
      exact commonCallbackProcessing_parsed processor protobuf.serverRuntimeNotification
        .serverRuntimeNotification message payload id parses
  | sensorsControl message =>
      exact commonCallbackProcessing_parsed processor protobuf.sensorsControl
        .sensorsControl message payload id parses
  | sensorActivated message =>
      exact commonCallbackProcessing_parsed processor protobuf.sensorActivated
        .sensorActivated message payload id parses

theorem parsesFrom_serializeAsString (message : MethodMessage)
    (initialized : message.isInitialized = true) :
    message.ParsesFrom protobuf (message.serializeAsString protobuf) := by
  cases message with
  | requestCapabilities message =>
      exact protobuf.requestCapabilities.roundTrip message initialized
  | capabilities message => exact protobuf.capabilities.roundTrip message initialized
  | serverRuntimeNotification message =>
      exact protobuf.serverRuntimeNotification.roundTrip message initialized
  | sensorsControl message => exact protobuf.sensorsControl.roundTrip message initialized
  | sensorActivated message => exact protobuf.sensorActivated.roundTrip message initialized

theorem dispatch_own_code (processor : Processor H) (message : MethodMessage) (id : Int64)
    (initialized : message.isInitialized = true) :
    processor.dispatch protobuf message.code.value (message.serializeAsString protobuf) id =
      processor.invoke message id :=
  dispatch_parsed protobuf processor message _ id
    (parsesFrom_serializeAsString protobuf message initialized)

/-- Nothing is invoked under `SensorsConfigurationControl`, whatever is registered. -/
theorem dispatch_sensorsConfigurationControl (processor : Processor H)
    (payload : List UInt8) (id : Int64) :
    processor.dispatch protobuf MethodCode.sensorsConfigurationControl.value payload id =
      .ok ⟨false, []⟩ := rfl

theorem parse_makeMessage (code : MethodCode) (message : MethodMessage) (id : Int64)
    (initialized : message.isInitialized = true) :
    protobuf.serverCommonMessage.parseFromString
        (makeMessage protobuf code (some message) id) =
      (⟨some code.value, some (message.serializeAsString protobuf), some id⟩, true) := by
  have made : makeMessage protobuf code (some message) id =
      protobuf.serverCommonMessage.serializeAsString
        ⟨some code.value, some (message.serializeAsString protobuf), some id⟩ := by
    simp [makeMessage, initialized]
  rw [made]
  exact protobuf.serverCommonMessage.roundTrip _ rfl

/-- The receiver of an envelope dispatches what the sender put in it. -/
theorem recieved_makeMessage (processor : Processor H) (code : MethodCode)
    (message : MethodMessage) (id : Int64) (initialized : message.isInitialized = true) :
    processor.callbackRecievedCommonMessage protobuf
        ⟨some processor.workModeCode, some (makeMessage protobuf code (some message) id)⟩ =
      processor.dispatch protobuf code.value (message.serializeAsString protobuf) id := by
  simp [Processor.callbackRecievedCommonMessage,
    parse_makeMessage protobuf code message id initialized]

def messageType (message : List UInt8) : Option UInt32 :=
  (protobuf.serverCommonMessage.parseFromString message).1.type

theorem messageType_makeMessage (code : MethodCode) (message : MethodMessage) (id : Int64)
    (initialized : message.isInitialized = true) :
    messageType protobuf (makeMessage protobuf code (some message) id) = some code.value := by
  rw [messageType, parse_makeMessage protobuf code message id initialized]

/-- `ParseFromString` of no bytes fails for want of the required fields of an envelope. -/
def RejectsEmptyEnvelope : Prop :=
  (protobuf.serverCommonMessage.parseFromString []).2 = false

theorem makeMessage_nonempty (rejects : RejectsEmptyEnvelope protobuf) (code : MethodCode)
    (message : MethodMessage) (id : Int64) (initialized : message.isInitialized = true) :
    makeMessage protobuf code (some message) id ≠ [] := by
  intro nothing
  have envelope := parse_makeMessage protobuf code message id initialized
  rw [nothing] at envelope
  have accepted := congrArg Prod.snd envelope
  rw [RejectsEmptyEnvelope] at rejects
  rw [rejects] at accepted
  contradiction

/-! ## What an invocation implies -/

/-- Every callback is registered under the type its case casts to. -/
def Processor.WellTyped (processor : Processor H) : Prop :=
  ∀ (message : MethodMessage) (funcPtr : AnyCallback H),
    processor.callbacks message.code = some funcPtr → funcPtr.type = message.callbackType

/-- The invocation is of a callback registered for its message, which is what
`payload` parses as under `type`. -/
def Processor.Invokes (processor : Processor H) (type : UInt32) (payload : List UInt8)
    (invocation : Invocation H) : Prop :=
  type = invocation.message.code.value ∧
    invocation.message.ParsesFrom protobuf payload ∧
    processor.callbacks invocation.message.code =
      some ⟨invocation.message.callbackType, invocation.handler⟩

/-- The arguments of a `case` belong together. -/
structure Case {M : Type} [ProtoMessage M] (codec : Codec M) (wrap : M → MethodMessage)
    (type : CallbackType) (code : MethodCode) : Prop where
  code_eq : ∀ msg, (wrap msg).code = code
  type_eq : ∀ msg, (wrap msg).callbackType = type
  parses : ∀ msg data, codec.parseFromString data = (msg, true) →
    (wrap msg).ParsesFrom protobuf data

section Case
variable {protobuf}
variable (processor : Processor H) {M : Type} [ProtoMessage M] {codec : Codec M}
variable {wrap : M → MethodMessage} {type : CallbackType} {code : MethodCode}
variable (entry : Case protobuf codec wrap type code) (responce : List UInt8) (mcode : Int64)
include entry

theorem commonCallbackProcessing_inv (outcome : Outcome H)
    (run : processor.commonCallbackProcessing codec wrap type code responce mcode =
      .ok outcome) (invocation : Invocation H) (member : invocation ∈ outcome.invoked) :
    processor.Invokes protobuf code.value responce invocation := by
  unfold Processor.commonCallbackProcessing at run
  cases parsed : codec.parseFromString responce with
  | mk msg isOk =>
      cases isOk with
      | false =>
          simp only [parsed] at run
          cases run
          contradiction
      | true =>
          simp only [parsed] at run
          cases registered : processor.callbacks code with
          | none =>
              simp only [registered] at run
              cases run
              contradiction
          | some funcPtr =>
              simp only [registered] at run
              by_cases same : funcPtr.type = type
              · rw [if_pos same] at run
                cases run
                cases List.mem_singleton.mp member
                refine ⟨by rw [entry.code_eq], entry.parses msg responce parsed, ?_⟩
                rw [entry.code_eq, entry.type_eq, registered, ← same]
              · rw [if_neg same] at run
                contradiction

theorem commonCallbackProcessing_returns (wellTyped : processor.WellTyped) :
    ∃ outcome, processor.commonCallbackProcessing codec wrap type code responce mcode =
      .ok outcome := by
  unfold Processor.commonCallbackProcessing
  dsimp only
  split
  · exact ⟨_, rfl⟩
  · cases registered : processor.callbacks code with
    | none => exact ⟨_, rfl⟩
    | some funcPtr =>
        have typed : funcPtr.type = type := by
          rw [← entry.type_eq (codec.parseFromString responce).1]
          apply wellTyped
          rw [entry.code_eq, registered]
        dsimp only
        rw [if_pos typed]
        exact ⟨_, rfl⟩

end Case

/-- `dispatch` does nothing or enters one case. -/
theorem dispatch_elim (processor : Processor H) (type : UInt32) (payload : List UInt8)
    (code : Int64) (P : Except BadAnyCast (Outcome H) → Prop)
    (idle : P (.ok ⟨false, []⟩))
    (entered : ∀ {M : Type} [ProtoMessage M] (codec : Codec M) (wrap : M → MethodMessage)
      (callbackType : CallbackType) (method : MethodCode),
      Case protobuf codec wrap callbackType method → type = method.value →
        P (processor.commonCallbackProcessing codec wrap callbackType method payload code)) :
    P (processor.dispatch protobuf type payload code) := by
  unfold Processor.dispatch
  split
  · exact entered _ _ _ _ ⟨fun _ => rfl, fun _ => rfl, fun _ _ parsed => parsed⟩ ‹_›
  split
  · exact entered _ _ _ _ ⟨fun _ => rfl, fun _ => rfl, fun _ _ parsed => parsed⟩ ‹_›
  split
  · exact entered _ _ _ _ ⟨fun _ => rfl, fun _ => rfl, fun _ _ parsed => parsed⟩ ‹_›
  split
  · exact entered _ _ _ _ ⟨fun _ => rfl, fun _ => rfl, fun _ _ parsed => parsed⟩ ‹_›
  split
  · exact entered _ _ _ _ ⟨fun _ => rfl, fun _ => rfl, fun _ _ parsed => parsed⟩ ‹_›
  exact idle

theorem dispatch_inv (processor : Processor H) (type : UInt32) (payload : List UInt8)
    (code : Int64) (outcome : Outcome H)
    (run : processor.dispatch protobuf type payload code = .ok outcome)
    (invocation : Invocation H) (member : invocation ∈ outcome.invoked) :
    processor.Invokes protobuf type payload invocation := by
  revert run
  apply dispatch_elim protobuf processor type payload code fun result =>
    result = .ok outcome → processor.Invokes protobuf type payload invocation
  · intro run
    cases run
    contradiction
  · intro M _ codec wrap callbackType method entry same run
    rw [same]
    exact commonCallbackProcessing_inv processor entry payload code outcome run invocation
      member

theorem dispatch_returns (processor : Processor H) (wellTyped : processor.WellTyped)
    (type : UInt32) (payload : List UInt8) (code : Int64) :
    ∃ outcome, processor.dispatch protobuf type payload code = .ok outcome := by
  apply dispatch_elim protobuf processor type payload code fun result =>
    ∃ outcome, result = .ok outcome
  · exact ⟨_, rfl⟩
  · intro M _ codec wrap callbackType method entry _
    exact commonCallbackProcessing_returns processor entry payload code wellTyped

theorem recieved_inv (processor : Processor H) (cmsg : CommonMessage) (outcome : Outcome H)
    (run : processor.callbackRecievedCommonMessage protobuf cmsg = .ok outcome)
    (invocation : Invocation H) (member : invocation ∈ outcome.invoked) :
    cmsg.code = some processor.workModeCode ∧
      ∃ envelope, protobuf.serverCommonMessage.parseFromString (cmsg.payload.getD []) =
          (envelope, true) ∧
        processor.Invokes protobuf (envelope.type.getD 0) (envelope.payload.getD [])
          invocation := by
  unfold Processor.callbackRecievedCommonMessage at run
  cases mode : cmsg.code with
  | none =>
      simp only [mode] at run
      cases run
      contradiction
  | some code =>
      simp only [mode] at run
      by_cases same : code = processor.workModeCode
      case neg =>
        rw [if_pos same] at run
        cases run
        contradiction
      rw [if_neg (by simpa using same)] at run
      cases parsed : protobuf.serverCommonMessage.parseFromString (cmsg.payload.getD []) with
      | mk envelope isOk =>
          cases isOk with
          | false =>
              simp only [parsed] at run
              cases run
              contradiction
          | true =>
              simp only [parsed] at run
              exact ⟨by rw [same], envelope, rfl, dispatch_inv protobuf processor _ _ _ outcome
                run invocation member⟩

theorem recieved_returns (processor : Processor H) (wellTyped : processor.WellTyped)
    (cmsg : CommonMessage) :
    ∃ outcome, processor.callbackRecievedCommonMessage protobuf cmsg = .ok outcome := by
  unfold Processor.callbackRecievedCommonMessage
  cases cmsg.code with
  | none => exact ⟨_, rfl⟩
  | some mode =>
      dsimp only
      split
      · exact ⟨_, rfl⟩
      split
      · exact ⟨_, rfl⟩
      exact dispatch_returns protobuf processor wellTyped _ _ _

end Processor
end Emserver.EmserverProcessor
