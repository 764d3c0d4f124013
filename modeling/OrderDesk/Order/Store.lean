import OrderDesk.Order.Basic

/-!
# The order store

All orders, each under its identifier, in the order of their creation. Orders are only added and
moved along their lifecycle, never removed. A pass over the store moves every open order by one
step.
-/

namespace OrderDesk

/-- No order is stored under an identifier. -/
inductive StoreError where
  | notFound (id : OrderId)
  deriving DecidableEq, Repr

def StoreError.message : StoreError → String
  | .notFound id => "order not found: " ++ id.toText

/-- The stored orders and their identifiers, oldest first. -/
structure OrderStore where
  entries : List (OrderId × Order)
  deriving DecidableEq, Repr

namespace OrderStore

def empty : OrderStore := ⟨[]⟩

instance : Inhabited OrderStore := ⟨empty⟩

def size (store : OrderStore) : Nat :=
  store.entries.length

def isEmpty (store : OrderStore) : Bool :=
  store.entries.isEmpty

def get? (store : OrderStore) (id : OrderId) : Option Order :=
  store.entries.lookup id

/-- The order under an identifier, or the error that names it. -/
def get (store : OrderStore) (id : OrderId) : Except StoreError Order :=
  match store.get? id with
  | some order => .ok order
  | none => .error (.notFound id)

def contains (store : OrderStore) (id : OrderId) : Bool :=
  (store.get? id).isSome

/-- Stores a new order under the first drawn identifier that is not in use. Fails only when every
draw is. -/
def create (store : OrderStore) (draws : List OrderId) (new : NewOrder) (now : Instant) :
    Option (Order × OrderStore) :=
  (draws.find? fun id => !store.contains id).map fun id =>
    let order := Order.create id new now
    (order, ⟨store.entries ++ [(id, order)]⟩)

/-- One order in a pass: only an open one is asked to advance. -/
def advanceEntry (policy : Policy) (at_ : Instant) (entry : OrderId × Order) :
    (OrderId × Order) × Option Transition :=
  if entry.2.status.isOpen then
    let (order, change) := entry.2.advance policy at_
    ((entry.1, order), change)
  else (entry, none)

/-- Moves every open order by one step. Answers the store after the pass and the changes, in the
order of creation. -/
def advanceOpen (store : OrderStore) (policy : Policy) (at_ : Instant) :
    OrderStore × List Transition :=
  let moved := store.entries.map (advanceEntry policy at_)
  (⟨moved.map Prod.fst⟩, moved.filterMap Prod.snd)

@[simp] theorem entries_empty : empty.entries = [] := rfl

@[simp] theorem get?_empty (id : OrderId) : empty.get? id = none := rfl

@[simp] theorem advanceEntry_fst_fst (policy : Policy) (t : Instant) (entry : OrderId × Order) :
    (advanceEntry policy t entry).1.1 = entry.1 := by
  unfold advanceEntry
  split <;> rfl

@[simp] theorem size_advanceOpen (store : OrderStore) (policy : Policy) (t : Instant) :
    (store.advanceOpen policy t).1.size = store.size := by
  simp [advanceOpen, size]

end OrderStore

end OrderDesk
