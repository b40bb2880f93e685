/-!
# Session errors

The error path of `TcpSession::handlerRead` and `TcpSession::handlerWrite`
(`common/src/tcpsession.cpp`), which client and server share, and the codes on which
both give up.
-/

set_option autoImplicit false

namespace Emserver.TcpSession

/-- A non-zero `boost::system::error_code`: the codes the program names, and any
other. -/
inductive ErrorCode where
  | operationAborted
  | operationNotSupported
  | connectionAborted
  | other (value : Int)
  deriving DecidableEq, Repr

/-- What a failed read or write passes to `onSessionError_`. -/
def forwarded (code : ErrorCode) : Option ErrorCode :=
  if code = .operationAborted then none else some code

/-- The codes on which `EmserverAdapter::onSessionError` and
`CServer::callbackSessionError` return early. -/
def ReturnsEarly (code : ErrorCode) : Prop :=
  code = .operationAborted ∨ code = .operationNotSupported ∨ code = .connectionAborted

instance (code : ErrorCode) : Decidable (ReturnsEarly code) := by
  unfold ReturnsEarly
  infer_instance

end Emserver.TcpSession
