import OrderDesk.Proofs.Store.Contents

/-!
# Counting orders

How many orders of a store have some property, and what the operations do to the number: a creation
adds the new order if it has the property (`count_of_create`), and a pass leaves the number alone if
the property is fixed with the terms of an order (`count_advanceOpen_of_sameTerms`).

`OrderStatus.cameBy` tells by its status which statuses an order has come to so far. In a pass, one
more order has come to a status for every change that leads there (`count_advanceOpen_cameBy`).
-/

namespace OrderDesk

/-- Whether an order with the second status has come to the first one on its way. -/
def OrderStatus.cameBy : OrderStatus → OrderStatus → Bool
  | .pending, status => decide (status ≠ .created)
  | .filled, status => decide (status = .filled)
  | .rejected, status => decide (status = .rejected)
  | .created, _ => false
  | .unspecified, _ => false

/-- A new order has come to no status yet. -/
theorem OrderStatus.cameBy_created (target : OrderStatus) : target.cameBy .created = false := by
  cases target <;> rfl

/-- Along an edge an order comes to the end of that edge, and to nothing else. -/
theorem OrderStatus.Edge.cameBy {s s' : OrderStatus} (h : Edge s s') (target : OrderStatus) :
    (if target.cameBy s' then 1 else 0) =
      (if target.cameBy s then 1 else 0) + if s' = target then 1 else 0 := by
  cases h <;> cases target <;> rfl

namespace OrderStore

/-- How many orders have a property. -/
def count (store : OrderStore) (p : Order → Bool) : Nat :=
  store.entries.countP fun entry => p entry.2

theorem count_of_create {store after : OrderStore} {draws : List OrderId} {new : NewOrder}
    {now : Instant} {order : Order} (h : store.create draws new now = some (order, after))
    (p : Order → Bool) : after.count p = store.count p + if p order then 1 else 0 := by
  obtain ⟨id, -, -, rfl⟩ := create_eq_some_iff.1 h
  rw [count, List.countP_append, List.countP_singleton]
  rfl

section
variable (policy : Policy) (at_ : Instant) (store : OrderStore)

theorem count_advanceOpen (p : Order → Bool) : (store.advanceOpen policy at_).1.count p =
    store.count fun order => p (order.afterPass policy at_) := by
  rw [count, entries_advanceOpen, List.countP_map]
  rfl

/-- A pass leaves alone how many orders have a property that their terms decide. -/
theorem count_advanceOpen_of_sameTerms {p : Order → Bool}
    (hp : ∀ a b : Order, Order.SameTerms a b → p b = p a) :
    (store.advanceOpen policy at_).1.count p = store.count p := by
  rw [count_advanceOpen]
  have hsame : (fun order : Order => p (order.afterPass policy at_)) = p :=
    funext fun order => hp _ _ (order.ages_afterPass policy at_).sameTerms
  rw [hsame]

/-- An order comes to the status that a pass reports of it. -/
theorem cameBy_afterPass (target : OrderStatus) (order : Order) :
    (if target.cameBy (order.afterPass policy at_).status then 1 else 0) =
      (if target.cameBy order.status then 1 else 0) +
        (order.changeIn policy at_).toList.countP fun t => decide (t.after = target) := by
  rcases order.afterPass_eq_or_moveTo policy at_ with h | ⟨status, he, h⟩
  · rw [(order.changeIn_eq_none_iff policy at_).2 h, h]
    rfl
  · have hchange : (order.changeIn policy at_).toList.map Transition.after = [status] := by
      have hne : status ≠ order.status := fun heq => absurd he.stage_lt (heq ▸ Nat.lt_irrefl _)
      simp [Order.changeIn, h, Order.moveTo, hne]
    have hcount := List.countP_map (p := fun s => decide (s = target)) (f := Transition.after)
      (l := (order.changeIn policy at_).toList)
    rw [hchange, List.countP_singleton] at hcount
    rw [h, Order.moveTo, he.cameBy target]
    simpa [Function.comp_def] using hcount

/-- In a pass, one more order has come to a status for every change that leads there. -/
theorem count_advanceOpen_cameBy (target : OrderStatus) :
    (store.advanceOpen policy at_).1.count (fun order => target.cameBy order.status) =
      store.count (fun order => target.cameBy order.status) +
        (store.advanceOpen policy at_).2.countP fun t => decide (t.after = target) := by
  rw [count_advanceOpen, changes_advanceOpen, count, count]
  induction store.entries with
  | nil => rfl
  | cons entry entries ih =>
    have hentry := cameBy_afterPass policy at_ target entry.2
    have hchanges : (entry :: entries).filterMap (fun entry => entry.2.changeIn policy at_) =
        (entry.2.changeIn policy at_).toList ++
          entries.filterMap fun entry => entry.2.changeIn policy at_ := by
      rw [List.filterMap_cons]
      cases entry.2.changeIn policy at_ <;> rfl
    rw [hchanges, List.countP_append, List.countP_cons, List.countP_cons]
    omega

end

end OrderStore

end OrderDesk
