import OrderDesk.Proofs.Desk.Recordings
import OrderDesk.Proofs.Lookup.Turns
import OrderDesk.Proofs.Rpc.CreateOrder

/-!
# Calls that share a desk

`Traffic` is any number of calls to place an order, under way at one desk. A call reads its request,
looks its market up (turn by turn, as `LookupCall` does), stores the order and answers; whatever it
has to record after one of these steps it records in turns of its own. Between two turns of a call
the others may take theirs, and anything else may happen at the desk: passes, subscriptions, polls,
the end.

`Traffic` also keeps what was recorded by whom, and the updates that were put on queues. A call that
nobody interferes with does what `Rpc.createOrder` does in one go
(`Traffic.exists_run_eq_createOrder`).
-/

namespace OrderDesk

/-! ## Calls -/

/-- What a call is about to do. -/
inductive PlacingPhase where
  /-- To read the request. -/
  | arrived
  /-- To go on with the lookup of the market. -/
  | lookingUp (new : NewOrder) (lookup : LookupCall)
  /-- To store the order. -/
  | placing (new : NewOrder)
  /-- Nothing, ever again. -/
  | answered (answer : Except RpcStatus CreateReply)

/-- One call to place an order. -/
structure PlacingCall where
  call : RequestId.Call
  request : WireCreateRequest
  phase : PlacingPhase
  /-- What it has recorded. -/
  recorded : List Recording
  /-- What it has to record before it does anything else. -/
  owed : List Recording

/-- What a step of a call leads to. -/
structure PlacingStep (σ : Type) where
  phase : PlacingPhase
  store : OrderStore
  markets : Cached σ
  owed : List Recording

/-- What a call meets in a turn: the time, the health of the cache, and what is drawn. -/
structure Chances where
  now : Nanos
  health : CacheHealth
  draws : List OrderId
  wall : Instant

namespace LookupPhase

/-- The beginning of a lookup, through a cache or not. -/
def first (cached : Bool) : LookupPhase :=
  if cached then .reading else .asking

/-- What a lookup has to record after a turn: whether the cache had an answer. -/
def recordings : LookupPhase → LookupPhase → List Recording
  | .reading, .answered _ => [.count (.cacheLookups true)]
  | .reading, .asking => [.count (.cacheLookups false)]
  | .evicting _, .asking => [.count (.cacheLookups false)]
  | _, _ => []

/-- What a lookup has found, once it is through. Without a cache there is nothing to be kept. -/
def outcome? (cached : Bool) : LookupPhase → Option (Except LookupError (List Market))
  | .answered answer => some answer
  | .keeping markets => if cached then none else some (.ok markets)
  | .reading => none
  | .evicting _ => none
  | .asking => none

end LookupPhase

namespace PlacingCall

/-- A call that begins. -/
def start (call : RequestId.Call) (request : WireCreateRequest) : PlacingCall :=
  ⟨call, request, .arrived, [], []⟩

/-- All that a call has recorded and has to record. -/
def bill (c : PlacingCall) : List Recording :=
  c.recorded ++ c.owed

/-- Whether a call is over. -/
def isOver (c : PlacingCall) : Bool :=
  match c.phase with
  | .answered _ => c.owed.isEmpty
  | _ => false

theorem isOver_eq_true_iff {c : PlacingCall} :
    c.isOver = true ↔ ∃ answer, c.phase = .answered answer ∧ c.owed = [] := by
  unfold isOver
  cases c.phase <;> simp

section
variable {σ : Type} (source : MarketSource σ) (ttl : Nanos) (cached : Bool)

/-- A call that fails, when it has something to record already. -/
def failed (e : ServiceError) (store : OrderStore) (markets : Cached σ) (owed : List Recording) :
    PlacingStep σ :=
  ⟨.answered (.error e.toStatus), store, markets, owed ++ [.count (.createFailures e.reason)]⟩

/-- What a call does with the outcome of its lookup. -/
def afterLookup (new : NewOrder) (store : OrderStore) (markets : Cached σ)
    (owed : List Recording) : Except LookupError (List Market) → PlacingStep σ
  | .error e =>
    failed (.unknown e.message) store markets (owed ++ [.count (.marketLookups false)])
  | .ok found =>
    if Service.lists found new.marketId then
      ⟨.placing new, store, markets, owed ++ [.count (.marketLookups true)]⟩
    else
      failed (.marketNotFound new.marketId) store markets (owed ++ [.count (.marketLookups true)])

/-- What a call does after a turn of its lookup: it goes on with the lookup, or it is through. -/
def goOn (new : NewOrder) (lookup : LookupCall) (store : OrderStore) (turn : LookupTurn σ) :
    PlacingStep σ :=
  let owed := lookup.phase.recordings turn.phase
  match turn.phase.outcome? cached with
  | none => ⟨.lookingUp new { lookup with phase := turn.phase }, store, turn.state, owed⟩
  | some outcome => afterLookup new store turn.state owed outcome

/-- The next step of a call. -/
def act (c : PlacingCall) (chances : Chances) (store : OrderStore) (markets : Cached σ) :
    PlacingStep σ :=
  match c.phase with
  | .arrived =>
    match Rpc.validated c.request with
    | .error e => failed (.validation e) store markets []
    | .ok (roles, new) => ⟨.lookingUp new ⟨roles, c.call.id, .first cached⟩, store, markets, []⟩
  | .lookingUp new lookup =>
    goOn cached new lookup store (lookup.turn source ttl chances.health chances.now markets)
  | .placing new =>
    match store.create chances.draws new chances.wall with
    | none => ⟨.placing new, store, markets, []⟩
    | some (order, store) =>
      ⟨.answered (.ok (Rpc.createReply order)), store, markets,
        [.count (.ordersCreated order.orderType)]⟩
  | .answered answer => ⟨.answered answer, store, markets, []⟩

end

end PlacingCall

/-! ## Traffic -/

/-- Calls under way at one desk, that look markets up through one cache or none. -/
structure Traffic (σ : Type) where
  desk : Desk
  markets : Cached σ
  calls : List PlacingCall
  /-- What was recorded, but not by the calls. -/
  elsewhere : List Recording
  /-- The updates that were put on the queues of subscriptions. -/
  queued : List OrderUpdate

namespace Traffic

inductive Event where
  /-- A call comes in. -/
  | call (call : RequestId.Call) (request : WireCreateRequest)
  /-- A call takes a turn: it records one thing that it owes, or else does its next step. -/
  | turn (k : Nat) (chances : Chances)
  /-- Something else happens at the desk. -/
  | atDesk (event : Desk.Event) (routine : event.isRoutine = true)

/-- Before the first call, at a desk that was just set up. -/
def start {σ : Type} (pollInterval : Nanos) (bufferCapacity : Nat) (simulatorInterval : Nanos)
    (inner : σ) : Traffic σ :=
  { desk := .make pollInterval bufferCapacity simulatorInterval
    markets := ⟨.empty, inner⟩
    calls := []
    elsewhere := []
    queued := [] }

section
variable {σ : Type} (source : MarketSource σ) (ttl : Nanos) (cached : Bool)

/-- A turn of a call. -/
def callTurn (t : Traffic σ) (k : Nat) (c : PlacingCall) (chances : Chances) : Traffic σ :=
  match c.owed with
  | r :: owed =>
    { t with
      desk := t.desk.record [r]
      calls := t.calls.set k { c with recorded := c.recorded ++ [r], owed } }
  | [] =>
    let next := c.act source ttl cached chances t.desk.store t.markets
    { t with
      desk := { t.desk with store := next.store }
      markets := next.markets
      calls := t.calls.set k { c with phase := next.phase, owed := next.owed } }

def step (t : Traffic σ) : Event → Traffic σ
  | .call call request => { t with calls := t.calls ++ [.start call request] }
  | .turn k chances =>
    match t.calls[k]? with
    | none => t
    | some c => t.callTurn source ttl cached k c chances
  | .atDesk event _ =>
    { t with
      desk := t.desk.step event
      elsewhere := t.elsewhere ++ t.desk.recordings event
      queued := t.queued ++ t.desk.queued event }

def run (t : Traffic σ) (events : List Event) : Traffic σ :=
  events.foldl (step source ttl cached) t

@[simp] theorem run_nil (t : Traffic σ) : t.run source ttl cached [] = t := rfl

@[simp] theorem run_cons (t : Traffic σ) (event : Event) (events : List Event) :
    t.run source ttl cached (event :: events) =
      (t.step source ttl cached event).run source ttl cached events := rfl

theorem run_append (t : Traffic σ) (events events' : List Event) :
    t.run source ttl cached (events ++ events') =
      (t.run source ttl cached events).run source ttl cached events' :=
  List.foldl_append

end

end Traffic

end OrderDesk
