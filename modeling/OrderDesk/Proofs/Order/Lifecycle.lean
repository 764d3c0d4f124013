import Mathlib.Logic.Relation
import OrderDesk.Order.Basic

/-!
# The lifecycle as a relation

`OrderStatus.Edge` names the edges of the lifecycle, `Order.Moves` is one step of an order along an
edge, and `Order.Ages` any number of such steps. `Order.afterPass` says what one pass makes of an
order and `Order.changeIn` what the pass reports of it; both are spelled out by status and decision.

The facts that later modules use:

* an order that ages keeps its terms (`Ages.sameTerms`), goes along the edges (`Ages.reaches`), and
  is the same record as long as its status is the same (`Ages.eq_or_stage_lt`), so a filled or
  rejected one stays for good (`Ages.eq_of_terminal`);
* a pass moves an order by one edge or leaves it alone (`afterPass_eq_or_moveTo`).
-/

namespace OrderDesk

namespace OrderStatus

/-- The edges of the lifecycle. -/
inductive Edge : OrderStatus → OrderStatus → Prop
  | wait : Edge .created .pending
  | fill : Edge .pending .filled
  | reject : Edge .pending .rejected

theorem canTransitionTo_iff_edge {s t : OrderStatus} : s.canTransitionTo t = true ↔ Edge s t := by
  refine ⟨fun h => ?_, fun h => by cases h <;> rfl⟩
  cases s <;> cases t <;> first | exact .wait | exact .fill | exact .reject | cases h

theorem Edge.stage_lt {s t : OrderStatus} (h : Edge s t) : s.stage < t.stage :=
  stage_lt_of_canTransitionTo (canTransitionTo_iff_edge.2 h)

theorem Edge.isTerminal_eq_false {s t : OrderStatus} (h : Edge s t) : s.isTerminal = false := by
  cases h <;> rfl

theorem Edge.ne_unspecified {s t : OrderStatus} (h : Edge s t) : t ≠ .unspecified := by
  cases h <;> simp

theorem Edge.ne_created {s t : OrderStatus} (h : Edge s t) : t ≠ .created := by
  cases h <;> simp

theorem stage_le (s : OrderStatus) : s.stage ≤ 3 := by
  cases s <;> simp [stage]

theorem one_le_stage {s : OrderStatus} (h : s ≠ .unspecified) : 1 ≤ s.stage := by
  cases s <;> simp_all [stage]

theorem isTerminal_iff {s : OrderStatus} : s.isTerminal = true ↔ s = .filled ∨ s = .rejected := by
  cases s <;> simp [isTerminal]

/-- Only the last stage is terminal. -/
theorem isTerminal_eq_false_of_stage_lt {s t : OrderStatus} (h : s.stage < t.stage) :
    s.isTerminal = false := by
  cases hs : s.isTerminal with
  | false => rfl
  | true => rcases isTerminal_iff.1 hs with rfl | rfl <;> exact absurd h (Nat.not_lt.2 t.stage_le)

end OrderStatus

namespace Order

/-! ## Steps -/

/-- One step along an edge of the lifecycle. -/
inductive Moves (a : Order) : Order → Prop
  | along {status : OrderStatus} (at_ : Instant) :
      OrderStatus.Edge a.status status → Moves a (a.moveTo status at_)

/-- What may become of an order in time. -/
abbrev Ages : Order → Order → Prop := Relation.ReflTransGen Moves

/-- All that is fixed when an order is created is the same in both. -/
structure SameTerms (a b : Order) : Prop where
  id : b.id = a.id
  userId : b.userId = a.userId
  marketId : b.marketId = a.marketId
  orderType : b.orderType = a.orderType
  price : b.price = a.price
  quantity : b.quantity = a.quantity
  createdAt : b.createdAt = a.createdAt

variable {a b c : Order}

theorem SameTerms.refl (a : Order) : SameTerms a a :=
  ⟨rfl, rfl, rfl, rfl, rfl, rfl, rfl⟩

theorem SameTerms.trans (h₁ : SameTerms a b) (h₂ : SameTerms b c) : SameTerms a c :=
  ⟨h₂.id.trans h₁.id, h₂.userId.trans h₁.userId, h₂.marketId.trans h₁.marketId,
    h₂.orderType.trans h₁.orderType, h₂.price.trans h₁.price, h₂.quantity.trans h₁.quantity,
    h₂.createdAt.trans h₁.createdAt⟩

theorem Moves.sameTerms (h : Moves a b) : SameTerms a b := by
  obtain ⟨_, _⟩ := h
  exact ⟨rfl, rfl, rfl, rfl, rfl, rfl, rfl⟩

theorem Moves.edge (h : Moves a b) : OrderStatus.Edge a.status b.status := by
  obtain ⟨_, he⟩ := h
  exact he

theorem Ages.sameTerms (h : Ages a b) : SameTerms a b := by
  induction h with
  | refl => exact .refl a
  | tail _ hm ih => exact ih.trans hm.sameTerms

theorem Ages.reaches (h : Ages a b) :
    Relation.ReflTransGen OrderStatus.Edge a.status b.status := by
  induction h with
  | refl => exact .refl
  | tail _ hm ih => exact ih.tail hm.edge

/-- The record changes with the status only, and the status only goes on. -/
theorem Ages.eq_or_stage_lt (h : Ages a b) : b = a ∨ a.status.stage < b.status.stage := by
  induction h with
  | refl => exact .inl rfl
  | tail _ hm ih =>
    have hlt := hm.edge.stage_lt
    rcases ih with rfl | ih
    · exact .inr hlt
    · exact .inr (by omega)

theorem Ages.stage_le (h : Ages a b) : a.status.stage ≤ b.status.stage := by
  rcases h.eq_or_stage_lt with rfl | hlt
  · exact Nat.le_refl _
  · exact Nat.le_of_lt hlt

theorem Ages.eq_of_terminal (h : Ages a b) (ht : a.status.isTerminal = true) : b = a := by
  rcases h.cases_head with rfl | ⟨c, hm, _⟩
  · rfl
  · rw [hm.edge.isTerminal_eq_false] at ht
    cases ht

theorem Ages.ne_unspecified (h : Ages a b) (ha : a.status ≠ .unspecified) :
    b.status ≠ .unspecified := by
  rcases h.cases_tail with rfl | ⟨c, _, hm⟩
  · exact ha
  · exact hm.edge.ne_unspecified

/-! ## One pass -/

/-- What a pass makes of an order: a created one waits from then on, a waiting one goes where the
policy sends it on what it is before the pass, and all others stay. -/
def afterPass (policy : Policy) (at_ : Instant) (order : Order) : Order :=
  match order.status with
  | .created => { order with status := .pending, updatedAt := some at_ }
  | .pending =>
    match policy order with
    | .fill => { order with status := .filled, updatedAt := some at_ }
    | .reject => { order with status := .rejected, updatedAt := some at_ }
    | .hold => order
  | .unspecified => order
  | .filled => order
  | .rejected => order

/-- What a pass reports of an order: the change of its status, if there is one. -/
def changeIn (policy : Policy) (at_ : Instant) (order : Order) : Option Transition :=
  let after := order.afterPass policy at_
  if after.status = order.status then none
  else some
    { orderId := order.id, userId := order.userId, before := order.status, after := after.status,
      at_ }

section
variable {policy : Policy} {order : Order} (at_ : Instant)

/-- A pass moves an order to the status that the order asks for, if it asks for one. -/
theorem afterPass_eq : order.afterPass policy at_ =
    ((order.next? policy).map (order.moveTo · at_)).getD order := by
  unfold afterPass next?
  cases order.status
  case pending => cases policy order <;> rfl
  all_goals rfl

theorem afterPass_of_next? {status : OrderStatus} (h : order.next? policy = some status) :
    order.afterPass policy at_ = order.moveTo status at_ := by
  rw [afterPass_eq, h]; rfl

theorem afterPass_of_next?_eq_none (h : order.next? policy = none) :
    order.afterPass policy at_ = order := by
  rw [afterPass_eq, h]; rfl

theorem next?_eq_none_of_not_open (h : order.status.isOpen = false) :
    order.next? policy = none := by
  unfold next?
  cases hs : order.status <;> rw [hs] at h <;> first | rfl | cases h

end

variable (policy : Policy) (at_ : Instant) (order : Order)

/-- A pass leaves an order alone or moves it along one edge. -/
theorem afterPass_eq_or_moveTo : order.afterPass policy at_ = order ∨
    ∃ status, OrderStatus.Edge order.status status ∧
      order.afterPass policy at_ = order.moveTo status at_ := by
  cases h : order.next? policy with
  | none => exact .inl (afterPass_of_next?_eq_none at_ h)
  | some status =>
    have he := OrderStatus.canTransitionTo_iff_edge.1 (canTransitionTo_of_next? h)
    exact .inr ⟨status, he, afterPass_of_next? at_ h⟩

theorem ages_afterPass : Ages order (order.afterPass policy at_) := by
  rcases order.afterPass_eq_or_moveTo policy at_ with h | ⟨status, he, h⟩
  · rw [h]
  · rw [h]
    exact .single (.along at_ he)

/-- An order that a pass leaves in its status is left alone altogether. -/
theorem afterPass_eq_iff :
    order.afterPass policy at_ = order ↔ (order.afterPass policy at_).status = order.status := by
  refine ⟨fun h => by rw [h], fun h => ?_⟩
  rcases (order.ages_afterPass policy at_).eq_or_stage_lt with heq | hlt
  · exact heq
  · rw [h] at hlt
    exact absurd hlt (Nat.lt_irrefl _)

theorem changeIn_eq_none_iff :
    order.changeIn policy at_ = none ↔ order.afterPass policy at_ = order := by
  rw [afterPass_eq_iff]
  simp [changeIn]

/-- The step of an order is the one spelled out. -/
theorem advance_eq :
    order.advance policy at_ = (order.afterPass policy at_, order.changeIn policy at_) := by
  unfold advance
  cases h : order.next? policy with
  | none =>
    have ha := afterPass_of_next?_eq_none at_ h
    rw [ha, (order.changeIn_eq_none_iff policy at_).2 ha]
  | some status =>
    have ht := canTransitionTo_of_next? h
    have hne : status ≠ order.status := by
      rintro rfl
      exact absurd (OrderStatus.stage_lt_of_canTransitionTo ht) (Nat.lt_irrefl _)
    simp [ht, changeIn, afterPass_of_next? at_ h, moveTo, transitionTo, hne]

theorem orderId_of_changeIn {t : Transition} (h : order.changeIn policy at_ = some t) :
    t.orderId = order.id := by
  simp only [changeIn] at h
  split at h
  · cases h
  · cases h; rfl

/-- No order is as it was created after a pass. -/
theorem two_le_stage_afterPass (hs : order.status ≠ .unspecified) :
    2 ≤ (order.afterPass policy at_).status.stage := by
  unfold afterPass
  cases h : order.status with
  | unspecified => exact absurd h hs
  | created => simp [OrderStatus.stage]
  | pending => cases policy order <;> simp [h, OrderStatus.stage]
  | filled => simp [h, OrderStatus.stage]
  | rejected => simp [h, OrderStatus.stage]

/-- An order that is not as it was created and is not held is done with after a pass. -/
theorem isTerminal_afterPass (hs : 2 ≤ order.status.stage) (hp : policy order ≠ .hold) :
    (order.afterPass policy at_).status.isTerminal = true := by
  unfold afterPass
  cases h : order.status with
  | unspecified => simp [h, OrderStatus.stage] at hs
  | created => simp [h, OrderStatus.stage] at hs
  | pending =>
    cases hd : policy order with
    | fill => rfl
    | reject => rfl
    | hold => exact absurd hd hp
  | filled => simp [h, OrderStatus.isTerminal]
  | rejected => simp [h, OrderStatus.isTerminal]

end Order

end OrderDesk
