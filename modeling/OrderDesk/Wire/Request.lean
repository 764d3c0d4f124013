import OrderDesk.Decimal.Parser
import OrderDesk.Market.Role
import OrderDesk.Order.Basic
import OrderDesk.Text.Blank
import OrderDesk.Wire.Enums

/-!
# Requests in messages

A request to place an order and a query about one, and how they are read: field by field, the first
malformed one refusing the request.
-/

namespace OrderDesk

/-- A request to place an order, once its fields are read. -/
structure CreateRequest where
  userId : UserId
  marketId : MarketId
  orderType : OrderType
  price : Decimal
  quantity : Nat
  userRoles : List Role
  requestId : Option String
  deriving DecidableEq, Repr

/-- A question of a user about an order. -/
structure OrderQuery where
  orderId : OrderId
  userId : UserId
  deriving DecidableEq, Repr

/-- A request to place an order, in a message. -/
structure WireCreateRequest where
  userId : String
  marketId : String
  orderType : Int
  price : String
  quantity : Int
  userRoles : List Int
  deriving DecidableEq, Repr

namespace WireCreateRequest

/-- A price: a decimal, with blanks around it. -/
def readPrice (text : String) : Except ValidationError Decimal :=
  match Text.trim text.toList with
  | [] => .error ⟨"price", "is required"⟩
  | cs =>
    match Decimal.parse? cs with
    | some price => .ok price
    | none => .error ⟨"price", "must be a decimal number"⟩

def readOrderType (n : Int) : Except ValidationError OrderType :=
  match OrderType.ofWire? n with
  | some .unspecified => .error ⟨"order_type", "must be specified"⟩
  | some orderType => .ok orderType
  | none => .error ⟨"order_type", "unknown value " ++ String.ofList (Text.decimalInt n)⟩

def readQuantity (n : Int) : Except ValidationError Nat :=
  if 0 < n then .ok n.toNat else .error ⟨"quantity", "must be greater than zero"⟩

def readRole (n : Int) : Except ValidationError Role :=
  match Role.ofWire? n with
  | some .unspecified => .error ⟨"user_roles", "must not contain USER_ROLE_UNSPECIFIED"⟩
  | some role => .ok role
  | none => .error ⟨"user_roles", "unknown role " ++ String.ofList (Text.decimalInt n)⟩

/-- The roles of a caller: at least one, and the first unreadable one is to blame. -/
def readRoles (ns : List Int) : Except ValidationError (List Role) :=
  if ns.isEmpty then .error ⟨"user_roles", "at least one role is required"⟩
  else ns.mapM readRole

/-- Reads a request. The message carries no request ID. -/
def decode (r : WireCreateRequest) : Except ValidationError CreateRequest := do
  let userId ← Id.parse .user r.userId
  let marketId ← Id.parse .market r.marketId
  let orderType ← readOrderType r.orderType
  let price ← readPrice r.price
  let quantity ← readQuantity r.quantity
  let userRoles ← readRoles r.userRoles
  return { userId, marketId, orderType, price, quantity, userRoles, requestId := none }

end WireCreateRequest

def OrderQuery.decode (orderId userId : String) : Except ValidationError OrderQuery := do
  let orderId ← Id.parse .order orderId
  let userId ← Id.parse .user userId
  return { orderId, userId }

end OrderDesk
