import OrderDesk.Identity
import OrderDesk.Validation

/-!
# Service errors

Why the service refuses a request or cannot answer it. Each cause has a stable reason code.
-/

namespace OrderDesk

/-- Why a request to the service failed. -/
inductive ServiceError where
  /-- The request breaks a rule; nothing was looked up. -/
  | validation (error : ValidationError)
  /-- The market does not exist or is not visible to the caller's roles. -/
  | marketNotFound (id : MarketId)
  /-- The order belongs to somebody else. -/
  | invalidUserId (orderId : OrderId) (userId : UserId)
  /-- There is no such order. -/
  | invalidOrderId (id : OrderId)
  /-- A collaborator failed. -/
  | unknown (detail : String)
  deriving DecidableEq, Repr

namespace ServiceError

def message : ServiceError → String
  | .validation e => e.message
  | .marketNotFound id => "market not found: " ++ id.toText
  | .invalidUserId orderId userId =>
    "order " ++ orderId.toText ++ " does not belong to user " ++ userId.toText
  | .invalidOrderId id => "order not found: " ++ id.toText
  | .unknown detail => detail

def reason : ServiceError → String
  | .validation _ => "VALIDATION_FAILED"
  | .marketNotFound _ => "MARKET_NOT_FOUND"
  | .invalidUserId .. => "INVALID_USER_ID"
  | .invalidOrderId _ => "INVALID_ORDER_ID"
  | .unknown _ => "UNKNOWN"

end ServiceError

end OrderDesk
