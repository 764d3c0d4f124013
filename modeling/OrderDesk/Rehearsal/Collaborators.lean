import OrderDesk.Lookup.Source
import OrderDesk.Order.Policy
import OrderDesk.Service.Lifecycle

/-!
# Scripted collaborators

Stand-ins for what surrounds the desk: a market source that answers from a list and remembers who
asked, views of the store that hide or disown every order, and policies by name.
-/

namespace OrderDesk.Rehearsal

/-! ## Markets -/

/-- One lookup that was made. -/
structure LookupCall where
  roles : List Role
  requestId : String
  deriving DecidableEq, Repr

/-- A market source that answers from a list. -/
structure ScriptedMarkets where
  markets : List Market
  /-- With what every lookup fails, as long as it does. -/
  failure : Option LookupError
  /-- Whether a caller sees only the markets that allow one of its roles. -/
  filtered : Bool
  /-- The lookups since they were last asked for. -/
  calls : List LookupCall

namespace ScriptedMarkets

def visible (s : ScriptedMarkets) (roles : List Role) : List Market :=
  if s.filtered then s.markets.filter fun m => m.allowedRoles.any (roles.contains ·)
  else s.markets

def source : MarketSource ScriptedMarkets := fun roles requestId s =>
  { answer := match s.failure with
      | some e => .error e
      | none => .ok (s.visible roles)
    state := { s with calls := s.calls ++ [⟨roles, requestId⟩] }
    recorded := [] }

end ScriptedMarkets

/-- Which operations of the cache work, by name; all other names mean that all do. -/
def cacheHealthOfName (s : String) : CacheHealth :=
  if s = "broken" then ⟨false, false⟩
  else if s = "no_read" then ⟨false, true⟩
  else if s = "no_write" then ⟨true, false⟩
  else .good

/-! ## The store -/

/-- How the store answers those who read it. -/
inductive StoreMode where
  | faithful
  /-- Every order is missing. -/
  | missing
  /-- Every order is new and belongs to nobody. -/
  | foreign
  deriving DecidableEq, Repr

/-- The mode with a name; all other names mean the store as it is. -/
def StoreMode.ofName (s : String) : StoreMode :=
  if s = "missing" then .missing else if s = "foreign" then .foreign else .faithful

/-- An order as if it had just been created by nobody. -/
def disowned (order : Order) : Order :=
  { order with userId := ⟨Uuid.nil⟩, status := .created, updatedAt := none }

def StoreMode.view (mode : StoreMode) (store : OrderStore) : OrderReader := fun id =>
  match mode with
  | .faithful => store.get id
  | .missing => .error (.notFound id)
  | .foreign => (store.get id).map disowned

/-! ## Policies -/

/-- Decides by the quantity of an order: multiples of three are filled, their successors rejected
and the others held. -/
def byQuantity : Policy := fun order =>
  if order.quantity % 3 = 0 then .fill else if order.quantity % 3 = 1 then .reject else .hold

/-- The policy that fills with a probability of which nothing depends on chance. -/
def certainly (probability : Binary64) : Policy := fun _ =>
  ((RandomPolicy.make probability).certain?).getD .hold

def policyOfName? (s : String) : Option Policy :=
  if s = "P0" then some (certainly .zero)
  else if s = "P1" then some (certainly .one)
  else if s = "BY_QUANTITY" then some byQuantity
  else (Decision.ofName? s).map Policy.fixed

end OrderDesk.Rehearsal
