import OrderDesk.Rpc.Status
import OrderDesk.Simulator
import OrderDesk.Subscription
import OrderDesk.Wire.Update

/-!
# The order desk

The whole service as one value: its orders, its subscriptions, its simulator and its metrics. Every
operation is a function from the desk before to the desk after; clocks, drawn identifiers, policies
and the market source come in as arguments.
-/

namespace OrderDesk

/-- The service. -/
structure Desk where
  pollInterval : Nanos
  bufferCapacity : Nat
  store : OrderStore
  /-- Every subscription ever opened, in order. -/
  subscriptions : List Subscription
  /-- How many pollers are counted as under way. -/
  active : Nat
  simulator : Simulator
  metrics : Metrics
  isShutDown : Bool
  deriving DecidableEq, Repr

/-- What an operation answers, and the desk after it. -/
structure Answered (σ α : Type) where
  answer : α
  desk : Desk
  state : σ

namespace Desk

def make (pollInterval : Nanos) (bufferCapacity : Nat) (simulatorInterval : Nanos) : Desk :=
  { pollInterval, bufferCapacity
    store := .empty
    subscriptions := []
    active := 0
    simulator := .idle simulatorInterval
    metrics := .initial
    isShutDown := false }

def record (desk : Desk) (recorded : List Recording) : Desk :=
  { desk with metrics := desk.metrics.recordAll recorded }

/-- The orders as they are stored. -/
def reader (desk : Desk) : OrderReader :=
  desk.store.get

/-! ## Orders -/

def placeOrder {σ : Type} (desk : Desk) (source : MarketSource σ) (draws : List OrderId)
    (fresh : Uuid) (wall : Instant) (request : CreateRequest) (state : σ) :
    Answered σ (Except ServiceError Order) :=
  let p := Service.placeOrder source draws fresh wall request desk.store state
  ⟨p.answer, { desk with store := p.store }.record p.recorded, p.state⟩

def pass (desk : Desk) (policy : Policy) (wall : Instant) : List Transition × Desk :=
  let (simulator, store, transitions) := desk.simulator.pass desk.store policy wall
  (transitions, { desk with simulator, store }.record (Simulator.recordings transitions))

/-! ## Subscriptions -/

def setActive (desk : Desk) (n : Nat) : Desk :=
  { desk with active := n }.record [.setActive n]

/-- Subscribes a user to an order. Under a desk that is shut down the subscription is cancelled from
the start. Answers its number. The capacity is taken to be one that a queue can have: above
`queueLimit` there is none, and a subscription breaks off instead. -/
def subscribe (desk : Desk) (read : OrderReader) (query : OrderQuery) (now : Nanos) :
    Except ServiceError Nat × Desk :=
  match Service.admission read query with
  | .error e => (.error e, desk)
  | .ok () =>
    let s := Subscription.start query desk.pollInterval desk.bufferCapacity now desk.isShutDown
    let counted := desk.setActive (desk.active + 1)
    (.ok desk.subscriptions.length, { counted with subscriptions := desk.subscriptions ++ [s] })

def setSubscription (desk : Desk) (i : Nat) (s : Subscription) : Desk :=
  { desk with subscriptions := desk.subscriptions.set i s }

def modifySubscription (desk : Desk) (i : Nat) (f : Subscription → Subscription) : Desk :=
  { desk with subscriptions := desk.subscriptions.modify i f }

def receive (desk : Desk) (i : Nat) : Option Received × Desk :=
  match desk.subscriptions[i]? with
  | none => (none, desk)
  | some s =>
    let (received, s) := s.receive
    (some received, desk.setSubscription i s)

/-- What a turn of a poller leaves to be recorded and counted. -/
def afterTurn (desk : Desk) : PollerTurn → Desk
  | .rested => desk
  | .polled => desk
  | .queued update => desk.record [.count (.updatesStreamed update.status)]
  | .ended => desk.setActive (desk.active - 1)

def pollerTurn (desk : Desk) (i : Nat) (read : OrderReader) (now : Nanos) : Desk :=
  match desk.subscriptions[i]? with
  | none => desk
  | some s =>
    let (s, turn) := s.turn read now
    (desk.setSubscription i s).afterTurn turn

/-! ## The simulator and the end -/

def startSimulator (desk : Desk) (now : Nanos) : Desk :=
  { desk with simulator := desk.simulator.startLoop now }

/-- One turn of a loop of the simulator: it ends when the desk is shut down, and passes when it is
due. -/
def simulatorTurn (desk : Desk) (i : Nat) (policy : Policy) (now : Nanos) (wall : Instant) :
    SimulatorTurn × Desk :=
  match desk.simulator.loops[i]? with
  | none => (.rested, desk)
  | some due =>
    if desk.isShutDown then (.ended, { desk with simulator := desk.simulator.endLoop i })
    else if due ≤ now then
      let (transitions, desk) := desk.pass policy wall
      let next := nextDue due desk.simulator.interval now
      (.passed transitions, { desk with simulator := desk.simulator.setLoop i next })
    else (.rested, desk)

/-- Shuts the desk down: every subscription is cancelled, and so will be the later ones. -/
def shutDown (desk : Desk) : Desk :=
  { desk with
    isShutDown := true
    subscriptions := desk.subscriptions.map Subscription.cancel }

/-! ## Rest and time -/

/-- How many turns bring a poller to rest when nothing else happens: it sends what it has, does one
read and those that follow it in time, sends what each of them found, and ends or waits. -/
def turnsToRest (period : Nanos) : Nat :=
  2 * (lateness / period + 2)

def settlePoller (desk : Desk) (i : Nat) (read : OrderReader) (now : Nanos) : Desk :=
  (turnsToRest desk.pollInterval).repeat (fun desk => desk.pollerTurn i read now) desk

/-- Lets a loop of the simulator take its turn. -/
def settleLoop (desk : Desk) (i : Nat) (policy : Policy) (now : Nanos) (wall : Instant) : Desk :=
  (desk.simulatorTurn i policy now wall).2

/-- Lets everything happen that can happen at this time: first the loops of the simulator, the last
one first, then the pollers. -/
def settle (desk : Desk) (view : OrderStore → OrderReader) (policy : Policy) (now : Nanos)
    (wall : Instant) : Desk :=
  let desk := (List.range desk.simulator.loops.length).reverse.foldl
    (fun desk i => desk.settleLoop i policy now wall) desk
  (List.range desk.subscriptions.length).foldl
    (fun desk i => desk.settlePoller i (view desk.store) now) desk

/-- The next time at which something is due. -/
def wakesAt? (desk : Desk) : Option Nanos :=
  (desk.simulator.loops ++ desk.subscriptions.filterMap Subscription.wakesAt?).min?

end Desk

end OrderDesk
