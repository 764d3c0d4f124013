import OrderDesk.Order.Basic

/-!
# The terms of an order

`SoundTerms` is what the terms of an order have to satisfy, with prices compared as numbers.
`NewOrder.make_eq_ok_iff` says that the checks of new terms accept exactly those.
-/

namespace OrderDesk

/-! ## Prices as numbers -/

namespace Decimal

variable (d : Decimal)

theorem mantissa_mul_pos_iff :
    0 < d.mantissa * Nat.pow 10 (maxScale - d.scale) ↔ d.mantissa ≠ 0 := by
  have hpow : 0 < Nat.pow 10 (maxScale - d.scale) := Nat.pow_pos (by decide)
  rw [Nat.mul_pos_iff_of_pos_right hpow]
  exact Nat.pos_iff_ne_zero

theorem isPositive_iff : d.isPositive = true ↔ 0 < d.inSmallestUnits := by
  have hpos := d.mantissa_mul_pos_iff
  unfold isPositive inSmallestUnits
  generalize d.mantissa * Nat.pow 10 (maxScale - d.scale) = n at hpos ⊢
  cases d.negative with
  | false => simp [← hpos]
  | true => simp

theorem isNegative_iff : d.isNegative = true ↔ d.inSmallestUnits < 0 := by
  have hpos := d.mantissa_mul_pos_iff
  unfold isNegative inSmallestUnits
  generalize d.mantissa * Nat.pow 10 (maxScale - d.scale) = n at hpos ⊢
  cases d.negative with
  | false => simp
  | true => simp [← hpos]

end Decimal

/-! ## Terms -/

/-- What the terms of an order have to satisfy. -/
structure SoundTerms (orderType : OrderType) (price : Decimal) (quantity : Nat) : Prop where
  specified : orderType = .limit ∨ orderType = .market
  /-- A limit price is above zero. -/
  limit : orderType = .limit → 0 < price.inSmallestUnits
  /-- The price of a market order is not below zero. -/
  market : orderType = .market → 0 ≤ price.inSmallestUnits
  quantity : 0 < quantity

namespace NewOrder

theorem priceFault?_eq_none_iff {orderType : OrderType} {price : Decimal} :
    priceFault? orderType price = none ↔
      (orderType = .limit → 0 < price.inSmallestUnits) ∧
        (orderType = .market → 0 ≤ price.inSmallestUnits) := by
  cases orderType with
  | unspecified => simp [priceFault?]
  | limit => simp [priceFault?, ← price.isPositive_iff]
  | market => simp [priceFault?, ← Int.not_lt, ← price.isNegative_iff]

variable {userId : UserId} {marketId : MarketId} {orderType : OrderType} {price : Decimal}
  {quantity : Nat} {new : NewOrder}

/-- The checks accept sound terms, as they are, and no others. -/
theorem make_eq_ok_iff : make userId marketId orderType price quantity = .ok new ↔
    SoundTerms orderType price quantity ∧
      new = ⟨userId, marketId, orderType, price, quantity⟩ := by
  unfold make
  constructor
  · intro h
    split at h
    · cases h
    · next htype =>
      split at h
      · cases h
      · next hprice =>
        split at h
        · cases h
        · next hquantity =>
          obtain ⟨hlimit, hmarket⟩ := priceFault?_eq_none_iff.1 hprice
          refine ⟨⟨?_, hlimit, hmarket, Nat.pos_iff_ne_zero.2 hquantity⟩, (Except.ok.inj h).symm⟩
          cases orderType with
          | unspecified => exact absurd rfl htype
          | limit => exact .inl rfl
          | market => exact .inr rfl
  · rintro ⟨⟨hspecified, hlimit, hmarket, hquantity⟩, rfl⟩
    have htype : orderType ≠ .unspecified := by rcases hspecified with rfl | rfl <;> simp
    rw [if_neg htype, priceFault?_eq_none_iff.2 ⟨hlimit, hmarket⟩]
    simp [Nat.pos_iff_ne_zero.1 hquantity]

/-- Terms that passed their checks. -/
def Accepted (new : NewOrder) : Prop :=
  ∃ userId marketId orderType price quantity,
    make userId marketId orderType price quantity = .ok new

theorem Accepted.sound (h : new.Accepted) :
    SoundTerms new.orderType new.price new.quantity := by
  obtain ⟨userId, marketId, orderType, price, quantity, hmake⟩ := h
  obtain ⟨hsound, rfl⟩ := make_eq_ok_iff.1 hmake
  exact hsound

end NewOrder

end OrderDesk
