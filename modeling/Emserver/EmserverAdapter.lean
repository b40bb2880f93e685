import Emserver.Requests

/-!
# What the client receives

The registrations and handlers of `client/src/emserveradapter.cpp`: the
client's processor invokes a handler of the adapter, which converts the message
for the user callback.
-/

set_option autoImplicit false

namespace Emserver.EmserverAdapter

open Emserver.Protobuf
open Emserver.EmserverProcessor

inductive ClientHandler where
  | onCapabilitiesResponse
  | onSensorActivatedResponse
  | onServerRuntimeNotification
  deriving DecidableEq

/-- `m_parserProtocol` as the constructor of `EmserverAdapter` leaves it. -/
def clientProcessor : Processor ClientHandler :=
  (((EmserverProcessor.create 1).registerCallback .responseCapabilities
    ⟨.callbackCapabilityResponse, .onCapabilitiesResponse⟩).registerCallback
      .sensorActivated ⟨.callbackSensorActivated, .onSensorActivatedResponse⟩).registerCallback
        .serverRuntimeNotification
        ⟨.callbackServerRuntimeNotification, .onServerRuntimeNotification⟩

structure ErrorDescriptor where
  methodCode : Int64
  errorCode : Int32
  description : List UInt8
  deriving DecidableEq

/-- The descriptor `onServerRuntimeNotification` hands to the user callback. -/
def onServerRuntimeNotification (error : ServerRuntimeNotification) : ErrorDescriptor where
  methodCode := (error.methodId.getD 0).toUInt64.toInt64
  errorCode := error.code.getD 0
  description := error.description.getD []

section Receive
variable (protobuf : Codecs)

/-- The client's processor handed one `sendData` string of the server. -/
def receive (message : List UInt8) : Except BadAnyCast (Outcome ClientHandler) :=
  clientProcessor.callbackRecievedCommonMessage protobuf ⟨some 1, some message⟩

theorem receive_makeMessage (message : MethodMessage) (id : Int64)
    (initialized : message.isInitialized = true) :
    receive protobuf (makeMessage protobuf message.code (some message) id) =
      clientProcessor.invoke message id :=
  (recieved_makeMessage protobuf clientProcessor message.code message id initialized).trans
    (dispatch_own_code protobuf clientProcessor message id initialized)

end Receive
end Emserver.EmserverAdapter
