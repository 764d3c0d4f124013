import OrderDesk.Proofs.Store.History
import OrderDesk.Service.Lifecycle

/-!
# Orders are shown to their owners only

`orderStatus_eq_ok_iff` and `admission_eq_ok_iff` say when a user is let in,
`orderStatus_of_foreign` and `admission_of_foreign` what anybody else is told.

`OrderStore.AlikeFor` relates two stores that a user should not be able to tell apart: they differ
in the orders of others only, and there in anything but the identifier and the owner. It is kept by
whatever is done to both stores (`AlikeFor.run`), and what a user is answered about an order is the
same over both (`AlikeFor.orderStatus_eq`, `AlikeFor.admission_eq`).
-/

namespace OrderDesk

/-! ## Who is let in -/

namespace Service

variable {read : OrderReader} {query : OrderQuery}

theorem authorize_eq_ok_iff {order : Order} :
    authorize order query = .ok () ↔ order.userId = query.userId := by
  unfold authorize Order.isOwnedBy
  by_cases h : order.userId = query.userId
  · simp [h]
  · simp [h]

theorem authorize_of_foreign {order : Order} (h : order.userId ≠ query.userId) :
    authorize order query = .error (.invalidUserId query.orderId query.userId) := by
  simp [authorize, Order.isOwnedBy, h]

theorem orderStatus_eq_ok_iff {status : OrderStatus} :
    orderStatus read query = .ok status ↔
      ∃ order, read query.orderId = .ok order ∧ order.userId = query.userId ∧
        order.status = status := by
  unfold orderStatus
  cases read query.orderId with
  | error e => simp
  | ok order =>
    by_cases h : order.userId = query.userId
    · simp [authorize_eq_ok_iff.2 h, h, Except.map]
    · simp [authorize_of_foreign h, h, Except.map]

theorem admission_eq_ok_iff : admission read query = .ok () ↔
    ∃ order, read query.orderId = .ok order ∧ order.userId = query.userId := by
  unfold admission
  cases read query.orderId with
  | error e => simp
  | ok order => simp [authorize_eq_ok_iff]

variable {order : Order} (hread : read query.orderId = .ok order)
  (howner : order.userId ≠ query.userId)
include hread howner

theorem orderStatus_of_foreign :
    orderStatus read query = .error (.invalidUserId query.orderId query.userId) := by
  simp [orderStatus, hread, authorize_of_foreign howner, Except.map]

theorem admission_of_foreign :
    admission read query = .error (.invalidUserId query.orderId query.userId) := by
  simp [admission, hread, authorize_of_foreign howner]

end Service

/-! ## Stores that look alike -/

/-- Two orders that are the same, or that belong to the same other user. -/
def Order.AlikeFor (user : UserId) (a b : Order) : Prop :=
  a = b ∨ (a.id = b.id ∧ a.userId = b.userId ∧ a.userId ≠ user)

/-- Two stores in which the same identifiers are in use, for orders that look alike to a user. -/
def OrderStore.AlikeFor (user : UserId) (a b : OrderStore) : Prop :=
  ∀ id, (a.get? id = none ∧ b.get? id = none) ∨
    ∃ x y, a.get? id = some x ∧ b.get? id = some y ∧ x.AlikeFor user y

/-- A pass does the same to an order of the user, and moves no order to another owner. -/
theorem Order.AlikeFor.afterPass {user : UserId} {a b : Order} (h : AlikeFor user a b)
    (policy : Policy) (at_ : Instant) :
    AlikeFor user (a.afterPass policy at_) (b.afterPass policy at_) := by
  rcases h with rfl | ⟨hid, howner, hne⟩
  · exact .inl rfl
  · have ha := (a.ages_afterPass policy at_).sameTerms
    have hb := (b.ages_afterPass policy at_).sameTerms
    refine .inr ⟨?_, ?_, ?_⟩
    · rw [ha.id, hid, hb.id]
    · rw [ha.userId, howner, hb.userId]
    · rwa [ha.userId]

namespace OrderStore.AlikeFor

variable {user : UserId} {a b : OrderStore}

theorem contains_eq (h : AlikeFor user a b) (id : OrderId) : a.contains id = b.contains id := by
  unfold contains
  rcases h id with ⟨ha, hb⟩ | ⟨x, y, ha, hb, -⟩
  · rw [ha, hb]
  · rw [ha, hb]
    rfl

/-- The same identifier is drawn for a new order, which is the same then. -/
theorem create (h : AlikeFor user a b) (draws : List OrderId) (new : NewOrder) (now : Instant) :
    AlikeFor user (a.step (.create draws new now)) (b.step (.create draws new now)) := by
  have hfind : (draws.find? fun id => !a.contains id) = draws.find? fun id => !b.contains id := by
    simp only [h.contains_eq]
  simp only [step, OrderStore.create, hfind]
  cases draws.find? fun id => !b.contains id with
  | none => exact h
  | some drawn =>
    intro id
    simp only [Option.map_some, Option.getD_some, get?_mk_append]
    rcases h id with ⟨ha, hb⟩ | ⟨x, y, ha, hb, hxy⟩
    · rw [ha, hb]
      by_cases hid : id = drawn
      · simp [hid, Order.AlikeFor]
      · simp [hid]
    · rw [ha, hb]
      exact .inr ⟨x, y, rfl, rfl, hxy⟩

theorem pass (h : AlikeFor user a b) (policy : Policy) (at_ : Instant) :
    AlikeFor user (a.step (.pass policy at_)) (b.step (.pass policy at_)) := by
  intro id
  simp only [step, get?_advanceOpen]
  rcases h id with ⟨ha, hb⟩ | ⟨x, y, ha, hb, hxy⟩
  · rw [ha, hb]
    exact .inl ⟨rfl, rfl⟩
  · rw [ha, hb]
    exact .inr ⟨_, _, rfl, rfl, hxy.afterPass policy at_⟩

/-- Stores that look alike still do after the same was done to both. -/
theorem run (h : AlikeFor user a b) (ops : List Op) : AlikeFor user (a.run ops) (b.run ops) := by
  induction ops generalizing a b with
  | nil => exact h
  | cons op ops ih =>
    refine ih ?_
    cases op with
    | create draws new now => exact h.create draws new now
    | pass policy at_ => exact h.pass policy at_
    | read id => exact h

variable {query : OrderQuery}

/-- What is read under an identifier: the same error, the same order of the user, or an order that
is not the user's. -/
theorem get_cases (h : AlikeFor user a b) (id : OrderId) :
    a.get id = b.get id ∨
      ∃ x y, a.get id = .ok x ∧ b.get id = .ok y ∧ x.userId ≠ user ∧ y.userId ≠ user := by
  unfold get
  rcases h id with ⟨ha, hb⟩ | ⟨x, y, ha, hb, rfl | ⟨-, howner, hne⟩⟩
  · rw [ha, hb]
    exact .inl rfl
  · rw [ha, hb]
    exact .inl rfl
  · rw [ha, hb]
    exact .inr ⟨x, y, rfl, rfl, hne, howner ▸ hne⟩

theorem orderStatus_eq (h : AlikeFor query.userId a b) :
    Service.orderStatus a.get query = Service.orderStatus b.get query := by
  rcases h.get_cases query.orderId with he | ⟨x, y, ha, hb, hx, hy⟩
  · simp [Service.orderStatus, he]
  · rw [Service.orderStatus_of_foreign ha hx, Service.orderStatus_of_foreign hb hy]

theorem admission_eq (h : AlikeFor query.userId a b) :
    Service.admission a.get query = Service.admission b.get query := by
  rcases h.get_cases query.orderId with he | ⟨x, y, ha, hb, hx, hy⟩
  · simp [Service.admission, he]
  · rw [Service.admission_of_foreign ha hx, Service.admission_of_foreign hb hy]

end OrderStore.AlikeFor

end OrderDesk
