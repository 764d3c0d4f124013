import OrderDesk.Desk
import OrderDesk.Rpc.RequestId

/-!
# The remote interface

The calls of the desk as remote callers see them: requests and replies are messages, and a failure
is a status. A failed request to place an order is counted by its reason.
-/

namespace OrderDesk

/-- The reply to a request to place an order. -/
structure CreateReply where
  orderId : String
  status : Int
  deriving DecidableEq, Repr

namespace Rpc

/-- The reply for an order that was placed. -/
def createReply (order : Order) : CreateReply :=
  ⟨order.id.toText, order.status.toWire⟩

/-- Counts a failed request to place an order. -/
def countFailure (desk : Desk) (e : ServiceError) : Desk :=
  desk.record [.count (.createFailures e.reason)]

/-- Places an order for a remote caller. -/
def createOrder {σ : Type} (desk : Desk) (source : MarketSource σ) (draws : List OrderId)
    (fresh : Uuid) (wall : Instant) (call : RequestId.Call) (request : WireCreateRequest)
    (state : σ) : Answered σ (Except RpcStatus CreateReply) :=
  match request.decode with
  | .error e =>
    let e := ServiceError.validation e
    ⟨.error e.toStatus, countFailure desk e, state⟩
  | .ok decoded =>
    let request := { decoded with requestId := some call.id }
    let placed := desk.placeOrder source draws fresh wall request state
    match placed.answer with
    | .ok order => ⟨.ok (createReply order), placed.desk, placed.state⟩
    | .error e => ⟨.error e.toStatus, countFailure placed.desk e, placed.state⟩

/-- The status of an order for a remote caller. -/
def getOrderStatus (read : OrderReader) (orderId userId : String) : Except RpcStatus Int :=
  match OrderQuery.decode orderId userId with
  | .error e => .error (ServiceError.validation e).toStatus
  | .ok query =>
    match Service.orderStatus read query with
    | .ok status => .ok status.toWire
    | .error e => .error e.toStatus

/-- Opens a stream of updates for a remote caller. Answers the number of its subscription. -/
def streamOrderUpdates (desk : Desk) (read : OrderReader) (orderId userId : String) (now : Nanos) :
    Except RpcStatus Nat × Desk :=
  match OrderQuery.decode orderId userId with
  | .error e => (.error (ServiceError.validation e).toStatus, desk)
  | .ok query =>
    match desk.subscribe read query now with
    | (.ok i, desk) => (.ok i, desk)
    | (.error e, desk) => (.error e.toStatus, desk)

end Rpc

end OrderDesk
