import OrderDesk.Lookup.Source
import OrderDesk.Order.Store
import OrderDesk.Service.Error
import OrderDesk.Wire.Request

/-!
# Placing orders and asking about them

An order is placed after its terms are checked and its market turned out to be visible to the
caller's roles; nothing is stored otherwise. An order is shown to its owner only.
-/

namespace OrderDesk

/-- How orders are read: usually from the store. -/
abbrev OrderReader := OrderId → Except StoreError Order

/-- What came of a request to place an order. -/
structure Placement (σ : Type) where
  answer : Except ServiceError Order
  store : OrderStore
  state : σ
  recorded : List Recording

namespace Service

/-- The terms of a request: there is a role at least, and the terms of the order hold. -/
def checkTerms (request : CreateRequest) : Except ValidationError NewOrder :=
  if request.userRoles.isEmpty then .error ⟨"user_roles", "at least one role is required"⟩
  else
    NewOrder.make request.userId request.marketId request.orderType request.price request.quantity

/-- Whether a list of markets holds the market with an identifier. -/
def lists (markets : List Market) (id : MarketId) : Bool :=
  markets.any fun m => decide (m.id = id)

/-- Places an order: checks its terms, looks its market up under the request ID, or a fresh one, and
stores it under an unused identifier. -/
def placeOrder {σ : Type} (source : MarketSource σ) (draws : List OrderId) (fresh : Uuid)
    (now : Instant) (request : CreateRequest) (store : OrderStore) (state : σ) : Placement σ :=
  match checkTerms request with
  | .error e => ⟨.error (.validation e), store, state, []⟩
  | .ok new =>
    let found := source request.userRoles (request.requestId.getD fresh.toText) state
    match found.answer with
    | .error e =>
      ⟨.error (.unknown e.message), store, found.state,
        found.recorded ++ [.count (.marketLookups false)]⟩
    | .ok markets =>
      let recorded := found.recorded ++ [.count (.marketLookups true)]
      if lists markets new.marketId then
        match store.create draws new now with
        | some (order, store) =>
          ⟨.ok order, store, found.state, recorded ++ [.count (.ordersCreated order.orderType)]⟩
        | none => ⟨.error (.unknown "no unused order ID was drawn"), store, found.state, recorded⟩
      else ⟨.error (.marketNotFound request.marketId), store, found.state, recorded⟩

/-- Lets the owner of an order pass. -/
def authorize (order : Order) (query : OrderQuery) : Except ServiceError Unit :=
  if order.isOwnedBy query.userId then .ok ()
  else .error (.invalidUserId query.orderId query.userId)

/-- The status of an order, for its owner. -/
def orderStatus (read : OrderReader) (query : OrderQuery) : Except ServiceError OrderStatus :=
  match read query.orderId with
  | .error e => .error (.unknown e.message)
  | .ok order => (authorize order query).map fun _ => order.status

/-- Whether a user may subscribe to an order: it exists and is the user's own. -/
def admission (read : OrderReader) (query : OrderQuery) : Except ServiceError Unit :=
  match read query.orderId with
  | .error _ => .error (.invalidOrderId query.orderId)
  | .ok order => authorize order query

end Service

end OrderDesk
