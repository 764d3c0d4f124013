import OrderDesk.Service.Lifecycle

/-!
# Subscriptions

A subscription follows one order for its owner. Its poller reads the order at regular times and
queues an update whenever the status differs from the last one it saw; a full queue makes it wait
for room. It ends when the subscription is cancelled or its receiver is gone, and what is queued by
then can still be received.

The poller takes turns. In a turn it does one thing that is possible at that time, or nothing;
between two turns anything else may happen.
-/

namespace OrderDesk

/-- What a poller is about to do. -/
inductive PollerPhase where
  /-- To read the order at the next due time. -/
  | waiting
  /-- To queue an update as soon as there is room. -/
  | sending (update : OrderUpdate)
  /-- Nothing, ever again. -/
  | ended
  deriving DecidableEq, Repr

/-- One subscription: its poller, its queue, and whether both sides still take part. -/
structure Subscription where
  query : OrderQuery
  period : Nanos
  capacity : Nat
  /-- When the order is to be read next. -/
  nextPoll : Nanos
  lastSeen : Option OrderStatus
  phase : PollerPhase
  queue : List OrderUpdate
  cancelled : Bool
  receiverOpen : Bool
  deriving DecidableEq, Repr

/-- What a poller did in a turn. -/
inductive PollerTurn where
  | rested
  | polled
  | queued (update : OrderUpdate)
  | ended
  deriving DecidableEq, Repr

/-- What a receiver finds. -/
inductive Received where
  | update (update : OrderUpdate)
  | empty
  | closed
  deriving DecidableEq, Repr

/-- The most updates that a queue can be made for. -/
def queueLimit : Nat := 0x1FFFFFFFFFFFFFFF

/-- How late something may be done and still count as done in time. -/
def lateness : Nanos := 5 * nanosPerMilli

/-- When something is due next that was due at `due`, is due once every period and was done at
`now`. What is done in time is due again a period later, even if that time is past already. What is
done late is due at the first of its times after `now`; those in between are skipped. -/
def nextDue (due period now : Nanos) : Nanos :=
  if now ≤ due + lateness then due + period
  else due + period * ((now - due) / period + 1)

namespace Subscription

/-- A subscription that begins: its first read is due at once. A queue has room for one update at
least. -/
def start (query : OrderQuery) (period : Nanos) (capacity : Nat) (now : Nanos) (cancelled : Bool) :
    Subscription :=
  { query, period, cancelled
    capacity := max capacity 1
    nextPoll := now
    lastSeen := none
    phase := .waiting
    queue := []
    receiverOpen := true }

/-- Whether the poller has not ended. -/
def isLive (s : Subscription) : Bool :=
  decide (s.phase ≠ .ended)

def hasRoom (s : Subscription) : Bool :=
  decide (s.queue.length < s.capacity)

/-- Reads the order. The turn is skipped when it cannot be read or is not the subscriber's;
otherwise a status other than the last one is seen, and to be sent. -/
def poll (s : Subscription) (read : OrderReader) : Subscription :=
  match read s.query.orderId with
  | .error _ => s
  | .ok order =>
    if !order.isOwnedBy s.query.userId then s
    else if s.lastSeen = some order.status then s
    else { s with lastSeen := some order.status, phase := .sending order.toUpdate }

def finish (s : Subscription) : Subscription :=
  { s with phase := .ended }

/-- One turn of the poller. A cancelled subscription and one without receiver end before anything
else is done, and so does one without a period. -/
def turn (s : Subscription) (read : OrderReader) (now : Nanos) : Subscription × PollerTurn :=
  match s.phase with
  | .ended => (s, .rested)
  | .waiting =>
    if s.cancelled || !s.receiverOpen || s.period == 0 then (s.finish, .ended)
    else if s.nextPoll ≤ now then
      ({ s with nextPoll := nextDue s.nextPoll s.period now }.poll read, .polled)
    else (s, .rested)
  | .sending update =>
    if s.cancelled || !s.receiverOpen then (s.finish, .ended)
    else if s.hasRoom then
      ({ s with queue := s.queue ++ [update], phase := .waiting }, .queued update)
    else (s, .rested)

/-- Takes the oldest update from the queue. -/
def receive (s : Subscription) : Received × Subscription :=
  match s.queue with
  | update :: queue => (.update update, { s with queue })
  | [] => (if s.isLive then .empty else .closed, s)

def cancel (s : Subscription) : Subscription :=
  { s with cancelled := true }

/-- Gives the receiving side up; what was queued is lost. -/
def dropReceiver (s : Subscription) : Subscription :=
  { s with receiverOpen := false, queue := [] }

/-- Gives the whole subscription up. -/
def drop (s : Subscription) : Subscription :=
  s.cancel.dropReceiver

/-- When the poller will have something to do without being touched: at its next read. -/
def wakesAt? (s : Subscription) : Option Nanos :=
  match s.phase with
  | .waiting => some s.nextPoll
  | _ => none

end Subscription

end OrderDesk
