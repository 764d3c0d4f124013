import OrderDesk.Decimal.Basic
import OrderDesk.Identity
import OrderDesk.Order.Status
import OrderDesk.Time.Instant

/-!
# Orders

A request to place an order, the order it becomes, and the single step by which an order moves along
its lifecycle. Identity, owner and terms are fixed at creation; only `Order.advance` changes the
status, and with it the time of the last change.
-/

namespace OrderDesk

/-- The terms of an order that is not placed yet. -/
structure NewOrder where
  userId : UserId
  marketId : MarketId
  orderType : OrderType
  price : Decimal
  quantity : Nat
  deriving DecidableEq, Repr

namespace NewOrder

/-- What is wrong with a price for an order of some type: a limit price is positive, and a market
order, which executes at the prevailing price, may name zero but nothing below. -/
def priceFault? (orderType : OrderType) (price : Decimal) : Option String :=
  match orderType with
  | .limit => if price.isPositive then none else some "must be greater than zero"
  | .market => if price.isNegative then some "must not be negative" else none
  | .unspecified => none

/-- Checks the terms of an order: its type, then its price, then its quantity. -/
def make (userId : UserId) (marketId : MarketId) (orderType : OrderType) (price : Decimal)
    (quantity : Nat) : Except ValidationError NewOrder :=
  if orderType = .unspecified then .error ⟨"order_type", "must be specified"⟩
  else match priceFault? orderType price with
    | some detail => .error ⟨"price", detail⟩
    | none =>
      if quantity = 0 then .error ⟨"quantity", "must be greater than zero"⟩
      else .ok ⟨userId, marketId, orderType, price, quantity⟩

end NewOrder

/-- An order in the store. -/
structure Order where
  id : OrderId
  userId : UserId
  marketId : MarketId
  orderType : OrderType
  price : Decimal
  quantity : Nat
  status : OrderStatus
  createdAt : Instant
  /-- The time of the last change of status; absent until the first one. -/
  updatedAt : Option Instant
  deriving DecidableEq, Repr

/-- One change of status. -/
structure Transition where
  orderId : OrderId
  userId : UserId
  before : OrderStatus
  after : OrderStatus
  at_ : Instant
  deriving DecidableEq, Repr

/-- What a subscriber learns about an order. -/
structure OrderUpdate where
  orderId : OrderId
  status : OrderStatus
  updatedAt : Option Instant
  deriving DecidableEq, Repr

/-- What becomes of a waiting order in one pass. -/
inductive Decision where
  | fill
  | reject
  | hold
  deriving DecidableEq, Repr

namespace Decision

def name : Decision → String
  | .fill => "FILL"
  | .reject => "REJECT"
  | .hold => "HOLD"

def ofName? (s : String) : Option Decision :=
  [fill, reject, hold].find? (·.name == s)

/-- The status an order lands in, unless it is held. -/
def target : Decision → Option OrderStatus
  | .fill => some .filled
  | .reject => some .rejected
  | .hold => none

end Decision

/-- Decides what becomes of a waiting order. -/
abbrev Policy := Order → Decision

namespace Order

/-- The order that new terms become under an identifier. -/
def create (id : OrderId) (new : NewOrder) (createdAt : Instant) : Order :=
  { id, createdAt
    userId := new.userId
    marketId := new.marketId
    orderType := new.orderType
    price := new.price
    quantity := new.quantity
    status := .created
    updatedAt := none }

/-- The status an order moves to in one pass, if it moves: a created order always becomes pending,
and a pending one lands where the policy says. -/
def next? (order : Order) (policy : Policy) : Option OrderStatus :=
  match order.status with
  | .created => some .pending
  | .pending => (policy order).target
  | _ => none

def moveTo (order : Order) (status : OrderStatus) (at_ : Instant) : Order :=
  { order with status, updatedAt := some at_ }

def transitionTo (order : Order) (status : OrderStatus) (at_ : Instant) : Transition :=
  { orderId := order.id, userId := order.userId, before := order.status, after := status, at_ }

/-- Moves an order one step along its lifecycle, along an edge of it only. Answers the order after
the pass and the change, if there was one. -/
def advance (order : Order) (policy : Policy) (at_ : Instant) : Order × Option Transition :=
  match order.next? policy with
  | none => (order, none)
  | some status =>
    if order.status.canTransitionTo status then
      (order.moveTo status at_, some (order.transitionTo status at_))
    else (order, none)

def isOwnedBy (order : Order) (userId : UserId) : Bool :=
  decide (order.userId = userId)

def toUpdate (order : Order) : OrderUpdate :=
  { orderId := order.id, status := order.status, updatedAt := order.updatedAt }

@[simp] theorem status_create (id : OrderId) (new : NewOrder) (t : Instant) :
    (create id new t).status = .created := rfl

@[simp] theorem updatedAt_create (id : OrderId) (new : NewOrder) (t : Instant) :
    (create id new t).updatedAt = none := rfl

@[simp] theorem id_create (id : OrderId) (new : NewOrder) (t : Instant) :
    (create id new t).id = id := rfl

/-- Every step a policy can ask for is an edge of the lifecycle. -/
theorem canTransitionTo_of_next? {order : Order} {policy : Policy} {status : OrderStatus}
    (h : order.next? policy = some status) : order.status.canTransitionTo status = true := by
  unfold next? at h
  split at h
  · next hs => simp only [Option.some.injEq] at h; subst h; rw [hs]; rfl
  · next hs =>
    rw [hs]
    cases hp : policy order <;> simp [hp, Decision.target] at h <;> subst h <;> rfl
  · simp at h

@[simp] theorem id_advance (order : Order) (policy : Policy) (t : Instant) :
    (order.advance policy t).1.id = order.id := by
  unfold advance
  split
  · rfl
  · split <;> rfl

end Order

end OrderDesk
