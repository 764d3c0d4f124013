import OrderDesk.Health.Page
import OrderDesk.Rehearsal.Collaborators
import OrderDesk.Rpc.Handlers

/-!
# Scripts

What can be done to a desk in a rehearsal, and what each of it answers.
-/

namespace OrderDesk.Rehearsal

/-- How a desk is set up. Times are in milliseconds. -/
structure Setup where
  pollMillis : Nat
  buffer : Nat
  simulatorMillis : Nat
  policy : Policy
  cached : Bool
  ttlMillis : Nat
  filtered : Bool
  markets : List Market

/-- The poll interval and the buffer of a desk of which one, the other or both are given. -/
def pollAndBuffer (pollMillis buffer : Option Nat) : Nat × Nat :=
  match pollMillis, buffer with
  | none, none => (5000, 10)
  | p, b => (p.getD 1000, b.getD 10)

/-- The terms of an order, its identifiers as text. -/
structure Terms where
  userId : String
  marketId : String
  orderType : OrderType
  price : Decimal
  quantity : Nat

/-- What a script does to a desk. -/
inductive Step where
  | advance (millis : Nat)
  | skew (wallMillis monoMillis : Int)
  | shutDown
  | setPolicy (policy : Policy)
  | create (terms : Terms) (roles : List Role) (requestId : Option String)
  | status (orderId userId : String)
  | subscribe (name orderId userId : String)
  | receive (name : String)
  | drain (name : String)
  | cancel (name : String)
  | drop (name : String)
  | split (name : String)
  | dropReceiver (name : String)
  | dropHandle (name : String)
  | isCancelled (name : String)
  | remoteCreate (raw : Bool) (requestId : Option String) (request : WireCreateRequest)
  | remoteStatus (orderId userId : String)
  | remoteStream (name orderId userId : String)
  | tick
  | runSimulator
  | advanceStore (at_ : Instant)
  | storeCreate (terms : Terms)
  | storeGet (orderId : String)
  | storeMode (mode : StoreMode)
  | viewMarkets (roles : List Role) (requestId : String)
  | setMarkets (markets : List Market)
  | failLookups (failure : Option LookupError)
  | cacheHealth (health : CacheHealth)
  | calls
  | counts
  | page (method target : String)

/-- The figures of a desk. -/
structure Counts where
  stored : Nat
  active : Nat
  ticks : Nat
  running : Bool
  lastTickAt : Option Instant
  interval : Nanos
  cacheEntries : Nat

/-- What a step answers. A received update is meant for a remote caller if `wire` says so. -/
inductive Outcome where
  | done
  | nothingThere
  | created (answer : Except ServiceError Order)
  | status (answer : Except ServiceError OrderStatus)
  | subscribed (answer : Except ServiceError Unit)
  | received (wire : Bool) (received : Received)
  | drained (wire : Bool) (updates : List OrderUpdate) (closed : Bool)
  | flag (b : Bool)
  | remoteCreated (answer : Except RpcStatus CreateReply)
  | remoteStatus (answer : Except RpcStatus Int)
  | streaming (answer : Except RpcStatus Unit)
  | transitions (transitions : List Transition)
  | stored (answer : Except ValidationError Order)
  | found (answer : Except StoreError Order)
  | malformed (error : ValidationError)
  | markets (answer : Except LookupError (List Market))
  | calls (calls : List LookupCall)
  | counts (counts : Counts)
  | page (page : Page)

end OrderDesk.Rehearsal
