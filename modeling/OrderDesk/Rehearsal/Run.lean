import OrderDesk.Rehearsal.Script

/-!
# Rehearsals

A desk between scripted collaborators, under a clock that moves only when a script says so. After
every step everything happens that can happen at that time. Orders get identifiers in turn, so a
script may call the n-th order that was created `on`.
-/

namespace OrderDesk.Rehearsal

/-- What a script follows under a name. -/
inductive Follower where
  /-- A subscription as a whole. -/
  | subscription (i : Nat)
  /-- A subscription in parts, of which each may be gone. -/
  | parts (i : Nat) (receiver handle : Bool)
  /-- A stream that a remote caller opened; what is queued is sent when the caller asks for it. -/
  | stream (i : Nat)

namespace Follower

/-- The number of the subscription behind a follower. -/
def number : Follower → Nat
  | .subscription i => i
  | .parts i .. => i
  | .stream i => i

/-- Whether the updates of a follower are meant for a remote caller. -/
def isWire : Follower → Bool
  | .stream _ => true
  | _ => false

/-- Whether there is still somebody to receive updates. -/
def hasReceiver : Follower → Bool
  | .parts _ receiver _ => receiver
  | _ => true

end Follower

/-- A desk under rehearsal. -/
structure Stage where
  desk : Desk
  /-- The time that timers see. -/
  now : Nanos
  wallSkew : Int
  monoSkew : Int
  policy : Policy
  markets : Cached ScriptedMarkets
  cacheHealth : CacheHealth
  cached : Bool
  ttl : Nanos
  storeMode : StoreMode
  followers : List (String × Follower)
  /-- How many identifiers were drawn for requests. -/
  drawn : Nat

namespace Stage

def start (s : Setup) : Stage :=
  { desk := .make (s.pollMillis * nanosPerMilli) s.buffer (s.simulatorMillis * nanosPerMilli)
    now := 0
    wallSkew := 0
    monoSkew := 0
    policy := s.policy
    markets := ⟨.empty, ⟨s.markets, none, s.filtered, []⟩⟩
    cacheHealth := .good
    cached := s.cached
    ttl := s.ttlMillis * nanosPerMilli
    storeMode := .faithful
    followers := []
    drawn := 0 }

/-! ## Clocks and identifiers -/

/-- The time that timers see, in milliseconds. -/
def millis (s : Stage) : Nat :=
  s.now / nanosPerMilli

/-- The seconds from 1970 to the start of 2024, when every rehearsal begins. -/
def firstSecond : Int := 1704067200

def wall (s : Stage) : Instant :=
  (Instant.ofUnixMillis? (firstSecond * 1000 + s.millis + s.wallSkew)).getD .epoch

def uptime (s : Stage) : Nanos :=
  ((s.millis : Int) + s.monoSkew).toNat * nanosPerMilli

def orderId (n : Nat) : OrderId :=
  ⟨Uuid.ofNat (0xd1ce0000000040008000000000000000 + n)⟩

def freshId (s : Stage) : Uuid :=
  Uuid.ofNat (0xd1ce0001000040008000000000000000 + s.drawn)

/-- The identifier that the next order gets. -/
def nextOrderIds (s : Stage) : List OrderId :=
  [orderId (s.desk.store.size + 1)]

def orderName (n : Nat) : String :=
  "o" ++ String.ofList (Text.decimal n)

/-- The identifiers of the orders and their names. -/
def orderNames (s : Stage) : List (String × String) :=
  (List.range s.desk.store.size).map fun i => ((orderId (i + 1)).toText, orderName (i + 1))

/-- The identifier that a script means: that of the order it names, or the text itself. -/
def resolve (s : Stage) (text : String) : String :=
  match s.orderNames.find? (·.2 == text) with
  | some (id, _) => id
  | none => text

/-! ## Rest -/

def view (s : Stage) : OrderStore → OrderReader :=
  s.storeMode.view

/-- Lets everything happen that can happen at this time. -/
def rest (s : Stage) : Stage :=
  { s with desk := s.desk.settle s.view s.policy s.now s.wall }

/-- Moves the clock on to a time, and to every time before it at which something is due. `fuel`
bounds the number of such times. -/
def moveTo (s : Stage) (target : Nanos) : Nat → Stage
  | 0 => { s with now := target }
  | fuel + 1 =>
    match s.desk.wakesAt? with
    | none => { s with now := target }
    | some due =>
      if target < due then { s with now := target }
      else moveTo { s with now := max due s.now }.rest target fuel

/-! ## Followers -/

def follower? (s : Stage) (name : String) : Option Follower :=
  s.followers.lookup name

/-- Follows something under a name, in place of what was followed there. -/
def setFollower (s : Stage) (name : String) (f : Follower) : Stage :=
  { s with followers := (name, f) :: s.followers.filter (·.1 != name) }

def modify (s : Stage) (i : Nat) (f : Subscription → Subscription) : Stage :=
  { s with desk := s.desk.modifySubscription i f }

def forget (s : Stage) (name : String) : Stage :=
  match s.follower? name with
  | none => s
  | some f =>
    { s.modify f.number Subscription.drop with
      followers := s.followers.filter (·.1 != name) }

def follow (s : Stage) (name : String) (f : Follower) : Stage :=
  (s.forget name).setFollower name f

def receive (s : Stage) (name : String) : Outcome × Stage :=
  match s.follower? name with
  | none => (.nothingThere, s)
  | some f =>
    if !f.hasReceiver then (.nothingThere, s)
    else match s.desk.receive f.number with
    | (some received, desk) => (.received f.isWire received, { s with desk })
    | (none, _) => (.nothingThere, s)

/-- Receives updates for as long as there are any, everything that can happen happening in between.
Answers them and whether they have come to their end. -/
def receiveUpTo (s : Stage) (name : String) : Nat → List OrderUpdate × Bool × Stage
  | 0 => ([], false, s)
  | fuel + 1 =>
    match s.receive name with
    | (.received _ (.update u), s) =>
      let (us, closed, s) := receiveUpTo s.rest name fuel
      (u :: us, closed, s)
    | (.received _ .closed, s) => ([], true, s)
    | (_, s) => ([], false, s)

/-- How many updates can be received at one time at most: those that are queued, and the few that a
poller can add when it gets room. -/
def receivable (s : Stage) (i : Nat) : Nat :=
  (s.desk.subscriptions[i]?).elim 0 (·.queue.length) + 4

/-- Receives everything that can be received. -/
def drain (s : Stage) (name : String) : Outcome × Stage :=
  match s.follower? name with
  | none => (.nothingThere, s)
  | some f =>
    if !f.hasReceiver then (.nothingThere, s)
    else
      let (us, closed, s) := s.receiveUpTo name (s.receivable f.number)
      (.drained f.isWire us closed, s)

/-- Acts on the handle of a subscription. -/
def cancel (s : Stage) (name : String) : Outcome × Stage :=
  match s.follower? name with
  | none => (.nothingThere, s)
  | some f => (.done, s.modify f.number Subscription.cancel)

/-- Takes a subscription apart. -/
def split (s : Stage) (name : String) : Outcome × Stage :=
  match s.follower? name with
  | some (.subscription i) => (.done, s.setFollower name (.parts i true true))
  | _ => (.nothingThere, s)

/-- Gives the receiver of a subscription in parts up. -/
def dropReceiver (s : Stage) (name : String) : Outcome × Stage :=
  match s.follower? name with
  | some (.parts i _ handle) =>
    (.done, (s.modify i Subscription.dropReceiver).setFollower name (.parts i false handle))
  | _ => (.nothingThere, s)

/-- Gives the handle of a subscription in parts up, which cancels it. -/
def dropHandle (s : Stage) (name : String) : Outcome × Stage :=
  match s.follower? name with
  | some (.parts i receiver _) =>
    (.done, (s.modify i Subscription.cancel).setFollower name (.parts i receiver false))
  | _ => (.nothingThere, s)

/-- Whether the handle of a subscription in parts says that it is cancelled. -/
def isCancelled (s : Stage) (name : String) : Outcome :=
  match s.follower? name with
  | some (.parts i _ true) =>
    match s.desk.subscriptions[i]? with
    | some sub => .flag sub.cancelled
    | none => .nothingThere
  | _ => .nothingThere

/-! ## Orders -/

/-- The source of markets in front of the desk. -/
def source (s : Stage) (throughCache : Bool) : MarketSource (Cached ScriptedMarkets) :=
  if throughCache then
    MarketSource.cached ScriptedMarkets.source s.cacheHealth s.ttl s.now s.now
  else MarketSource.uncached ScriptedMarkets.source

/-- Reads the identifiers of an order's terms. -/
def readParties (terms : Terms) : Except ValidationError (UserId × MarketId) := do
  let userId ← Id.parse .user terms.userId
  let marketId ← Id.parse .market terms.marketId
  return (userId, marketId)

def create (s : Stage) (terms : Terms) (roles : List Role) (requestId : Option String) :
    Outcome × Stage :=
  match readParties terms with
  | .error e => (.malformed e, s)
  | .ok (userId, marketId) =>
    let request : CreateRequest :=
      { userId, marketId, requestId
        orderType := terms.orderType
        price := terms.price
        quantity := terms.quantity
        userRoles := roles }
    let a := s.desk.placeOrder (s.source s.cached) s.nextOrderIds s.freshId s.wall request s.markets
    (.created a.answer, { s with desk := a.desk, markets := a.state, drawn := s.drawn + 1 })

/-- Places an order for a remote caller, whose request ID is settled first unless it is `raw`. -/
def remoteCreate (s : Stage) (raw : Bool) (requestId : Option String)
    (request : WireCreateRequest) : Outcome × Stage :=
  let arriving := RequestId.Call.arriving requestId.toList
  let call := if raw then arriving else arriving.intercept s.freshId
  let a := Rpc.createOrder s.desk (s.source s.cached) s.nextOrderIds s.freshId s.wall call request
    s.markets
  (.remoteCreated a.answer, { s with desk := a.desk, markets := a.state, drawn := s.drawn + 1 })

/-- Stores an order without looking its market up. -/
def storeCreate (s : Stage) (terms : Terms) : Outcome × Stage :=
  let new? : Except ValidationError NewOrder := do
    let (userId, marketId) ← readParties terms
    NewOrder.make userId marketId terms.orderType terms.price terms.quantity
  match new? with
  | .error e => (.stored (.error e), s)
  | .ok new =>
    match s.desk.store.create s.nextOrderIds new s.wall with
    | some (order, store) =>
      (.stored (.ok order), { s with desk := { s.desk with store } })
    | none => (.nothingThere, s)

/-- Reads an order from the store; a name that no order has yet finds nothing. -/
def storeGet (s : Stage) (text : String) : Outcome :=
  match Id.parse .order (s.resolve text) with
  | .ok id => .found (s.view s.desk.store id)
  | .error _ => .nothingThere

def subscribe (s : Stage) (name orderId userId : String) : Outcome × Stage :=
  match OrderQuery.decode (s.resolve orderId) userId with
  | .error e => (.malformed e, s)
  | .ok query =>
    match s.desk.subscribe (s.view s.desk.store) query s.now with
    | (.ok i, desk) => (.subscribed (.ok ()), { s with desk }.follow name (.subscription i))
    | (.error e, desk) => (.subscribed (.error e), { s with desk })

/-- Opens a stream for a remote caller. -/
def remoteStream (s : Stage) (name orderId userId : String) : Outcome × Stage :=
  match Rpc.streamOrderUpdates s.desk (s.view s.desk.store) (s.resolve orderId) userId s.now with
  | (.ok i, desk) =>
    (.streaming (.ok ()), { s with desk }.follow name (.stream i))
  | (.error e, desk) => (.streaming (.error e), { s with desk })

def status (s : Stage) (orderId userId : String) : Outcome :=
  match OrderQuery.decode (s.resolve orderId) userId with
  | .error e => .malformed e
  | .ok query => .status (Service.orderStatus (s.view s.desk.store) query)

/-- Looks markets up through the cache. -/
def viewMarkets (s : Stage) (roles : List Role) (requestId : String) : Outcome × Stage :=
  let found := s.source true roles requestId s.markets
  (.markets found.answer, { s with desk := s.desk.record found.recorded, markets := found.state })

def counts (s : Stage) : Counts :=
  { stored := s.desk.store.size
    active := s.desk.active
    ticks := s.desk.simulator.ticks
    running := s.desk.simulator.isRunning
    lastTickAt := s.desk.simulator.lastTickAt
    interval := s.desk.simulator.interval
    cacheEntries := s.markets.cache.size }

/-- The version that a rehearsed desk reports. -/
def version : String := "9.9.9"

def page (s : Stage) (method target : String) : Page :=
  Page.answer s.desk (.ofDesk s.desk version s.uptime s.wall) method target

/-! ## Steps -/

/-- Does one step, without letting anything else happen. -/
def act (s : Stage) : Step → Outcome × Stage
  | .advance millis =>
    let span := millis * nanosPerMilli
    (.done, s.moveTo (s.now + span) (span + 1))
  | .skew wall mono =>
    (.done, { s with wallSkew := s.wallSkew + wall, monoSkew := s.monoSkew + mono })
  | .shutDown => (.done, { s with desk := s.desk.shutDown })
  | .setPolicy policy => (.done, { s with policy })
  | .create terms roles requestId => s.create terms roles requestId
  | .status orderId userId => (s.status orderId userId, s)
  | .subscribe name orderId userId => s.subscribe name orderId userId
  | .receive name => s.receive name
  | .drain name => s.drain name
  | .cancel name => s.cancel name
  | .drop name =>
    match s.follower? name with
    | some _ => (.done, s.forget name)
    | none => (.nothingThere, s)
  | .split name => s.split name
  | .dropReceiver name => s.dropReceiver name
  | .dropHandle name => s.dropHandle name
  | .isCancelled name => (s.isCancelled name, s)
  | .remoteCreate raw requestId request => s.remoteCreate raw requestId request
  | .remoteStatus orderId userId =>
    (.remoteStatus (Rpc.getOrderStatus (s.view s.desk.store) (s.resolve orderId) userId), s)
  | .remoteStream name orderId userId => s.remoteStream name orderId userId
  | .tick =>
    let (transitions, desk) := s.desk.pass s.policy s.wall
    (.transitions transitions, { s with desk })
  | .runSimulator => (.done, { s with desk := s.desk.startSimulator s.now })
  | .advanceStore at_ =>
    let (store, transitions) := s.desk.store.advanceOpen s.policy at_
    (.transitions transitions, { s with desk := { s.desk with store } })
  | .storeCreate terms => s.storeCreate terms
  | .storeGet orderId => (s.storeGet orderId, s)
  | .storeMode mode => (.done, { s with storeMode := mode })
  | .viewMarkets roles requestId => s.viewMarkets roles requestId
  | .setMarkets markets =>
    (.done, { s with markets.inner.markets := markets })
  | .failLookups failure => (.done, { s with markets.inner.failure := failure })
  | .cacheHealth health => (.done, { s with cacheHealth := health })
  | .calls => (.calls s.markets.inner.calls, { s with markets.inner.calls := [] })
  | .counts => (.counts s.counts, s)
  | .page method target => (.page (s.page method target), s)

/-- Does one step, and then everything that can happen. -/
def perform (s : Stage) (step : Step) : Outcome × Stage :=
  let (outcome, s) := s.act step
  (outcome, s.rest)

end Stage

/-- Runs a script. Answers what each step answered and the stage after it. -/
def run (s : Stage) : List Step → List (Outcome × Stage)
  | [] => []
  | step :: rest =>
    let (outcome, s) := s.perform step
    (outcome, s) :: run s rest

end OrderDesk.Rehearsal
