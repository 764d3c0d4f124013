import OrderDesk.Proofs.Decimal.Numeral
import OrderDesk.Proofs.Rpc.Acceptance
import OrderDesk.Proofs.Text.Trimming

/-!
# Prices are taken exactly

A price is a text in a message. A numeral that fits a decimal, with blanks around it or none, is
read as just the number that it denotes (`readPrice_between`), so orders have the prices that their
callers wrote, and the sign of a price is tested on what was written
(`priceFault?_eq_signFault?`).
-/

namespace OrderDesk

/-! ## One price -/

/-- What is wrong with a number as the price of an order of some type. -/
def signFault? (orderType : OrderType) (v : ℚ) : Option String :=
  match orderType with
  | .limit => if 0 < v then none else some "must be greater than zero"
  | .market => if v < 0 then some "must not be negative" else none
  | .unspecified => none

/-- A price is tested by its number. -/
theorem priceFault?_eq_signFault? (orderType : OrderType) (price : Decimal) :
    NewOrder.priceFault? orderType price = signFault? orderType price.toRat := by
  cases orderType with
  | unspecified => rfl
  | limit => simp [NewOrder.priceFault?, signFault?, Decimal.isPositive_iff_toRat]
  | market => simp [NewOrder.priceFault?, signFault?, Decimal.isNegative_iff_toRat]

namespace WireCreateRequest

/-- A numeral between blanks is read as it is written. -/
theorem readPrice_between {n : Numeral} (h : n.Fits) {before after : List Char}
    (hblank : ∀ c ∈ before ++ after, Text.isBlank c = true) :
    readPrice (String.ofList (before ++ n.text ++ after)) = .ok (n.decimal h) := by
  rw [readPrice_eq_ok_iff, String.toList_ofList,
    Text.trim_between hblank fun c hc => n.isBlank_eq_false_of_mem hc, Numeral.parse?_text h]

-- the sign of a zero is lost, its places are kept
example : (readPrice " -.00 ").map Decimal.toText = .ok "0.00" :=
  rfl

/-- What is printed of a price is read as the price, if it is not a zero with a sign. -/
theorem readPrice_toText {price : Decimal} (h : price.negative = true → price.mantissa ≠ 0) :
    readPrice price.toText = .ok price := by
  have hself : Text.trim price.render = price.render := by
    rw [← price.text_printed]
    exact Text.trim_of_not_blank fun c hc => price.printed.isBlank_eq_false_of_mem hc
  rw [readPrice_eq_ok_iff, Decimal.toText, String.toList_ofList, hself, Decimal.parse?_render h]

end WireCreateRequest

/-! ## The price of an order -/

namespace Rpc

section
variable {σ : Type} {desk : Desk} {source : MarketSource σ} {draws : List OrderId} {fresh : Uuid}
  {wall : Instant} {call : RequestId.Call} {request : WireCreateRequest} {state : σ}
  {reply : CreateReply}

/-- A call concludes with the order that it created, if it concludes with one. -/
theorem exists_create_of_conclude {new : NewOrder} {recorded : List Recording}
    {outcome : Except LookupError (List Market)}
    (h : (conclude desk new draws wall state recorded outcome).answer = .ok reply) :
    ∃ order, reply = createReply order ∧ desk.store.create draws new wall =
      some (order, (conclude desk new draws wall state recorded outcome).desk.store) := by
  cases outcome with
  | error e => cases h
  | ok found =>
    simp only [conclude] at h ⊢
    split at h
    · next hlisted =>
      rw [if_pos hlisted]
      cases hcreate : desk.store.create draws new wall with
      | none =>
        rw [hcreate] at h
        cases h
      | some created =>
        rw [hcreate] at h
        exact ⟨created.1, (Except.ok.inj h).symm, rfl⟩
    · cases h

/-- A call that is answered with an order has stored it, with the price that was read. -/
theorem exists_order_of_answer
    (h : (createOrder desk source draws fresh wall call request state).answer = .ok reply) :
    ∃ order, reply = createReply order ∧
      (createOrder desk source draws fresh wall call request state).desk.store.get? order.id =
        some order ∧
      WireCreateRequest.readPrice request.price = .ok order.price := by
  cases hv : validated request with
  | error e =>
    rw [createOrder_of_error hv] at h
    cases h
  | ok valid =>
    obtain ⟨roles, new⟩ := valid
    rw [createOrder_of_ok hv] at h ⊢
    obtain ⟨order, hreply, hcreate⟩ := exists_create_of_conclude h
    refine ⟨order, hreply, (OrderStore.get?_of_create hcreate order.id).trans (if_pos rfl), ?_⟩
    obtain ⟨decoded, hd, ht, -⟩ := validated_eq_ok_iff.1 hv
    obtain ⟨-, -, -, hprice, -⟩ := WireCreateRequest.decode_eq_ok_iff.1 hd
    obtain ⟨id, -, rfl, -⟩ := OrderStore.create_eq_some_iff.1 hcreate
    rw [Service.checkTerms_eq_ok ht]
    exact hprice

/-- Of a request that can be read, only the sign of its price is tested. -/
theorem refusal?_validated_of_decode {decoded : CreateRequest} (h : request.decode = .ok decoded) :
    refusal? (validated request) =
      (NewOrder.priceFault? decoded.orderType decoded.price).map (⟨"price", ·⟩) := by
  have hfields : request.fieldFaults = [] := by
    rw [← List.head?_eq_none_iff, ← WireCreateRequest.refusal?_decode, h]
    rfl
  rw [refusal?_validated, WireCreateRequest.faults, hfields, List.nil_append, signFaults_head? h]

end

/-- A price is just what a numeral says, is tested as that, and still is that when it is printed and
read again. -/
structure Keeps (n : Numeral) (price : Decimal) : Prop where
  exact : price.IsExactly n
  tested : ∀ orderType, NewOrder.priceFault? orderType price = signFault? orderType n.value
  reread : WireCreateRequest.readPrice price.toText = .ok price

theorem keeps_decimal {n : Numeral} (h : n.Fits) : Keeps n (n.decimal h) where
  exact := Numeral.isExactly_decimal h
  tested orderType := by
    rw [priceFault?_eq_signFault?, (Numeral.isExactly_decimal h).value]
  reread := WireCreateRequest.readPrice_toText (Numeral.isExactly_decimal h).mantissa_ne_zero

/-- How requests are treated that name a text as their price. -/
structure TakenExactly (n : Numeral) (text : String) : Prop where
  read : ∃ price, WireCreateRequest.readPrice text = .ok price ∧ Keeps n price
  /-- The order that is answered is stored with this price. -/
  placed : ∀ {σ : Type} (desk : Desk) (source : MarketSource σ) draws fresh wall call request state
    reply, request.price = text →
    (createOrder desk source draws fresh wall call request state).answer = .ok reply →
    ∃ order, reply = createReply order ∧ Keeps n order.price ∧
      (createOrder desk source draws fresh wall call request state).desk.store.get? order.id =
        some order
  /-- The sign is tested on the number that was written. If it is wrong, a request that can be read
  is refused, -/
  refused : ∀ request decoded detail, request.price = text → request.decode = .ok decoded →
    signFault? decoded.orderType n.value = some detail →
    ∀ {σ : Type} (desk : Desk) (source : MarketSource σ) draws fresh wall call state,
      createOrder desk source draws fresh wall call request state =
        ⟨.error (ServiceError.validation ⟨"price", detail⟩).toStatus,
          countFailure desk (.validation ⟨"price", detail⟩), state⟩
  /-- and if not, the request is valid. -/
  accepted : ∀ request decoded, request.price = text → request.decode = .ok decoded →
    signFault? decoded.orderType n.value = none → ∃ terms, validated request = .ok terms

/-- **Prices are taken exactly.** A numeral with at most 28 digits behind the point, and digits that
make up a number of at most 96 bits, is read as what it denotes, whatever blanks are around it.
Orders have this price, their prices are printed in a form that says the same, and the sign of the
price is tested on the number that was written. -/
theorem prices_taken_exactly (n : Numeral) {before after : List Char} (hplaces : n.places ≤ 28)
    (hmantissa : n.mantissa ≤ 2 ^ 96 - 1)
    (hblank : ∀ c ∈ before ++ after, Text.isBlank c = true) :
    TakenExactly n (String.ofList (before ++ n.text ++ after)) := by
  have hfits : n.Fits := ⟨hplaces, Nat.lt_of_le_of_lt hmantissa (by decide)⟩
  have hread := WireCreateRequest.readPrice_between hfits hblank
  have hkeeps := keeps_decimal hfits
  have htested : ∀ request decoded,
      request.price = String.ofList (before ++ n.text ++ after) → request.decode = .ok decoded →
      refusal? (validated request) =
        (signFault? decoded.orderType n.value).map (⟨"price", ·⟩) := by
    intro request decoded htext hdecode
    obtain ⟨-, -, -, hprice, -⟩ := WireCreateRequest.decode_eq_ok_iff.1 hdecode
    rw [htext, hread] at hprice
    rw [refusal?_validated_of_decode hdecode, ← Except.ok.inj hprice, hkeeps.tested]
  refine ⟨⟨_, hread, hkeeps⟩, ?_, ?_, ?_⟩
  · intro σ desk source draws fresh wall call request state reply htext hanswer
    obtain ⟨order, hreply, hstored, hprice⟩ := exists_order_of_answer hanswer
    rw [htext, hread] at hprice
    exact ⟨order, hreply, Except.ok.inj hprice ▸ hkeeps, hstored⟩
  · intro request decoded detail htext hdecode hfault σ desk source draws fresh wall call state
    refine createOrder_of_error (refusal?_eq_some_iff.1 ?_)
    rw [htested request decoded htext hdecode, hfault]
    rfl
  · intro request decoded htext hdecode hfault
    refine refusal?_eq_none_iff.1 ?_
    rw [htested request decoded htext hdecode, hfault]
    rfl

/-- The number farthest below zero that has 28 places. -/
def lowestPrice : Numeral where
  sign := some .minus
  whole := ['7']
  fraction := some "9228162514264337593543950335".toList
  isDigit_of_mem := List.all_eq_true.1 rfl
  ne_nil := List.cons_ne_nil _ _

theorem lowestPrice_taken_exactly :
    lowestPrice.places ≤ 28 ∧ lowestPrice.mantissa ≤ 2 ^ 96 - 1 ∧
      (∀ c ∈ [' '] ++ ['\t'], Text.isBlank c = true) ∧
      TakenExactly lowestPrice " -7.9228162514264337593543950335\t" := by
  have hplaces : lowestPrice.places ≤ 28 := by decide
  have hmantissa : lowestPrice.mantissa ≤ 2 ^ 96 - 1 := by decide
  have hblank : ∀ c ∈ [' '] ++ ['\t'], Text.isBlank c = true := List.all_eq_true.1 rfl
  exact ⟨hplaces, hmantissa, hblank, prices_taken_exactly lowestPrice hplaces hmantissa hblank⟩

end Rpc

end OrderDesk
