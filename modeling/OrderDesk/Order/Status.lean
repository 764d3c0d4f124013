/-!
# The lifecycle of an order

An order is created, waits, and is then filled or rejected for good:

    CREATED → PENDING → FILLED
                      → REJECTED
-/

namespace OrderDesk

/-- How an order is priced. -/
inductive OrderType where
  /-- Not chosen by the caller; no order is accepted with it. -/
  | unspecified
  /-- Executes at its price or better. -/
  | limit
  /-- Executes at the prevailing price. -/
  | market
  deriving DecidableEq, Repr

instance : Inhabited OrderType := ⟨.unspecified⟩

namespace OrderType

def name : OrderType → String
  | .unspecified => "UNSPECIFIED"
  | .limit => "LIMIT"
  | .market => "MARKET"

def all : List OrderType :=
  [.unspecified, .limit, .market]

def ofName? (s : String) : Option OrderType :=
  all.find? (·.name == s)

theorem ofName?_name (t : OrderType) : ofName? t.name = some t := by
  cases t <;> rfl

end OrderType

/-- Where an order stands in its lifecycle. -/
inductive OrderStatus where
  /-- No status; only a malformed message carries it. -/
  | unspecified
  | created
  | pending
  | filled
  | rejected
  deriving DecidableEq, Repr

instance : Inhabited OrderStatus := ⟨.unspecified⟩

namespace OrderStatus

def name : OrderStatus → String
  | .unspecified => "UNSPECIFIED"
  | .created => "CREATED"
  | .pending => "PENDING"
  | .filled => "FILLED"
  | .rejected => "REJECTED"

def all : List OrderStatus :=
  [.unspecified, .created, .pending, .filled, .rejected]

def ofName? (s : String) : Option OrderStatus :=
  all.find? (·.name == s)

/-- Whether an order in this status never changes again. -/
def isTerminal : OrderStatus → Bool
  | .filled | .rejected => true
  | _ => false

/-- Whether an order in this status still waits for something. -/
def isOpen : OrderStatus → Bool
  | .created | .pending => true
  | _ => false

/-- Whether the lifecycle has an edge between two statuses. -/
def canTransitionTo : OrderStatus → OrderStatus → Bool
  | .created, .pending => true
  | .pending, .filled => true
  | .pending, .rejected => true
  | _, _ => false

/-- How far along the lifecycle a status lies; the two last ones share a stage. -/
def stage : OrderStatus → Nat
  | .unspecified => 0
  | .created => 1
  | .pending => 2
  | .filled => 3
  | .rejected => 3

/-- Whether one status can be observed after another: the same, or one of a later stage. -/
def canReach (s later : OrderStatus) : Bool :=
  decide (s = later) || decide (s.stage < later.stage)

theorem ofName?_name (s : OrderStatus) : ofName? s.name = some s := by
  cases s <;> rfl

theorem stage_lt_of_canTransitionTo {s t : OrderStatus} (h : s.canTransitionTo t = true) :
    s.stage < t.stage := by
  cases s <;> cases t <;> simp_all [canTransitionTo, stage]

end OrderStatus

end OrderDesk
