import Mathlib.Data.List.Forall2
import OrderDesk.Wire.Market
import OrderDesk.Wire.Request

/-!
# What decoded messages say

A request to place an order is read exactly when each of its fields is
(`WireCreateRequest.decode_eq_ok_iff`), and the readers of the single fields take a value exactly as
it was written. A market is read exactly when its identifier is (`WireMarket.decode_eq_ok_iff`).
-/

namespace OrderDesk

theorem bind_eq_ok_iff {ε α β : Type} {x : Except ε α} {f : α → Except ε β} {b : β} :
    (x >>= f) = .ok b ↔ ∃ a, x = .ok a ∧ f a = .ok b := by
  cases x with
  | error e => simp [bind, Except.bind]
  | ok a => simp [bind, Except.bind]

theorem mapM_eq_ok_iff {ε α β : Type} {f : α → Except ε β} {l : List α} {l' : List β} :
    l.mapM f = .ok l' ↔ List.Forall₂ (fun a b => f a = .ok b) l l' := by
  induction l generalizing l' with
  | nil => simp [pure, Except.pure, eq_comm]
  | cons a l ih =>
    simp only [List.mapM_cons, bind_eq_ok_iff, ih, List.forall₂_cons_left_iff, pure, Except.pure,
      Except.ok.injEq]
    constructor
    · rintro ⟨b, hb, bs, hbs, rfl⟩
      exact ⟨b, bs, hb, hbs, rfl⟩
    · rintro ⟨b, bs, hb, hbs, rfl⟩
      exact ⟨b, hb, bs, hbs, rfl⟩

theorem WireMarket.decode_eq_ok_iff {wire : WireMarket} {market : Market} :
    wire.decode = .ok market ↔
      Id.parse .market wire.id = .ok market.id ∧ market.name = wire.name ∧
      market.enabled = wire.enabled ∧ market.deletedAt = wire.deletedAt.bind WireTime.toInstant? ∧
      market.allowedRoles = wire.allowedRoles.filterMap Role.ofWire? := by
  unfold decode
  simp only [bind_eq_ok_iff, pure, Except.pure, Except.ok.injEq]
  constructor
  · rintro ⟨id, hid, rfl⟩
    exact ⟨hid, rfl, rfl, rfl, rfl⟩
  · obtain ⟨id, name, enabled, deletedAt, allowedRoles⟩ := market
    rintro ⟨hid, rfl, rfl, rfl, rfl⟩
    exact ⟨id, hid, rfl⟩

theorem WireMarket.exists_decode_eq_ok_iff {wire : WireMarket} :
    (∃ market, wire.decode = .ok market) ↔ ∃ id, Id.parse .market wire.id = .ok id := by
  simp only [decode_eq_ok_iff]
  constructor
  · rintro ⟨market, hid, -⟩
    exact ⟨market.id, hid⟩
  · rintro ⟨id, hid⟩
    exact ⟨⟨id, wire.name, wire.enabled, _, _⟩, hid, rfl, rfl, rfl, rfl⟩

namespace Role

theorem ofWire?_eq_some_iff {n : Int} {role : Role} : ofWire? n = some role ↔ role.toWire = n := by
  constructor
  · intro h
    simpa using List.find?_some h
  · rintro rfl
    exact role.ofWire?_toWire

/-- The numbers that stand for a role. -/
def known : List Int :=
  [0, 1, 2, 3]

theorem ofWire?_eq_none_iff {n : Int} : ofWire? n = none ↔ n ∉ known := by
  constructor
  · intro h hn
    obtain ⟨role, rfl⟩ : ∃ role : Role, role.toWire = n := by
      simp only [known, List.mem_cons, List.not_mem_nil, or_false] at hn
      rcases hn with rfl | rfl | rfl | rfl
      · exact ⟨.unspecified, rfl⟩
      · exact ⟨.trader, rfl⟩
      · exact ⟨.viewer, rfl⟩
      · exact ⟨.admin, rfl⟩
    rw [ofWire?_toWire] at h
    cases h
  · intro hn
    refine List.find?_eq_none.2 fun role _ heq => hn ?_
    rw [← beq_iff_eq.1 heq]
    cases role <;> decide

end Role

namespace WireCreateRequest

theorem readPrice_eq_ok_iff {text : String} {price : Decimal} :
    readPrice text = .ok price ↔ Decimal.parse? (Text.trim text.toList) = some price := by
  unfold readPrice
  cases Text.trim text.toList with
  | nil => simp [show Decimal.parse? [] = none from rfl]
  | cons c cs => cases hp : Decimal.parse? (c :: cs) <;> simp [hp]

theorem readOrderType_eq_ok_iff {n : Int} {orderType : OrderType} :
    readOrderType n = .ok orderType ↔
      OrderType.ofWire? n = some orderType ∧ orderType ≠ .unspecified := by
  unfold readOrderType
  cases OrderType.ofWire? n with
  | none => simp
  | some t => cases t <;> simp <;> rintro rfl <;> simp

theorem readQuantity_eq_ok_iff {n : Int} {quantity : Nat} :
    readQuantity n = .ok quantity ↔ 0 < n ∧ (quantity : Int) = n := by
  unfold readQuantity
  split
  · next hn =>
    simp only [Except.ok.injEq]
    omega
  · next hn => simp [hn]

theorem decode_eq_ok_iff {r : WireCreateRequest} {request : CreateRequest} :
    r.decode = .ok request ↔
      Id.parse .user r.userId = .ok request.userId ∧
      Id.parse .market r.marketId = .ok request.marketId ∧
      readOrderType r.orderType = .ok request.orderType ∧
      readPrice r.price = .ok request.price ∧
      readQuantity r.quantity = .ok request.quantity ∧
      readRoles r.userRoles = .ok request.userRoles ∧ request.requestId = none := by
  unfold decode
  simp only [bind_eq_ok_iff, pure, Except.pure, Except.ok.injEq]
  constructor
  · rintro ⟨userId, hu, marketId, hm, orderType, ht, price, hp, quantity, hq, roles, hr, rfl⟩
    exact ⟨hu, hm, ht, hp, hq, hr, rfl⟩
  · obtain ⟨userId, marketId, orderType, price, quantity, roles, requestId⟩ := request
    rintro ⟨hu, hm, ht, hp, hq, hr, rfl⟩
    exact ⟨userId, hu, marketId, hm, orderType, ht, price, hp, quantity, hq, roles, hr, rfl⟩

end WireCreateRequest

end OrderDesk
