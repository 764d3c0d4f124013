import OrderDesk.Rpc.Code
import OrderDesk.Service.Error

/-!
# Error statuses

The status a caller receives for a service error: a code, a message, a machine-readable reason with
the identifiers concerned, and for a malformed request the field at fault. What a collaborator said
never reaches the caller.
-/

namespace OrderDesk

/-- The machine-readable part of a status. -/
structure ErrorInfo where
  reason : String
  domain : String
  metadata : List (String × String)
  deriving DecidableEq, Repr

/-- A field of the request that broke a rule. -/
structure FieldViolation where
  field : String
  description : String
  deriving DecidableEq, Repr

/-- The status of a call that failed. -/
structure RpcStatus where
  code : RpcCode
  message : String
  info : ErrorInfo
  violations : List FieldViolation
  deriving DecidableEq, Repr

namespace ServiceError

def code : ServiceError → RpcCode
  | .validation _ => .invalidArgument
  | .marketNotFound _ => .notFound
  | .invalidUserId .. => .invalidArgument
  | .invalidOrderId _ => .invalidArgument
  | .unknown _ => .internal

/-- The identifiers, or the field, that an error is about. -/
def metadata : ServiceError → List (String × String)
  | .validation e => [("field", e.field)]
  | .marketNotFound id => [("market_id", id.toText)]
  | .invalidUserId orderId userId => [("order_id", orderId.toText), ("user_id", userId.toText)]
  | .invalidOrderId id => [("order_id", id.toText)]
  | .unknown _ => []

def violations : ServiceError → List FieldViolation
  | .validation e => [⟨e.field, e.detail⟩]
  | _ => []

/-- The message for the caller. A failure of a collaborator is kept from it. -/
def publicMessage : ServiceError → String
  | .unknown _ => "internal error"
  | e => e.message

def toStatus (e : ServiceError) : RpcStatus :=
  { code := e.code
    message := e.publicMessage
    info := { reason := e.reason, domain := "order.service", metadata := e.metadata }
    violations := e.violations }

end ServiceError

end OrderDesk
