import OrderDesk.Proofs.Rpc.Undisturbed
import OrderDesk.Proofs.Wire.Faults

/-!
# Which requests reach the source

A request to place an order is checked twice: when it is read, and by the service, which checks the
terms once more. `checkTerms_of_decode` says what the second check finds in what was read: the sign
of the price, and nothing else. Both checks together report the first of the faults of a request
(`refusal?_validated`), so the source is asked for acceptable requests and for no others
(`createOrder_screened`).
-/

namespace OrderDesk

open Service

/-! ## The second check -/

section
variable {request : WireCreateRequest} {decoded : CreateRequest}

/-- What was read has a role, a type and a quantity. -/
theorem readsAs_sound (h : request.decode = .ok decoded) :
    decoded.userRoles ≠ [] ∧ decoded.orderType ≠ .unspecified ∧ decoded.quantity ≠ 0 := by
  obtain ⟨-, -, htype, -, hquantity, hroles, -⟩ := WireCreateRequest.decode_eq_ok_iff.1 h
  obtain ⟨hne, hmap⟩ := WireCreateRequest.map_toWire_of_readRoles hroles
  refine ⟨?_, (WireCreateRequest.readOrderType_eq_ok_iff.1 htype).2, ?_⟩
  · intro hnil
    rw [hnil] at hmap
    exact hne hmap.symm
  · obtain ⟨hpos, heq⟩ := WireCreateRequest.readQuantity_eq_ok_iff.1 hquantity
    omega

/-- Of what was read, only the sign of the price is left to check. -/
theorem checkTerms_of_decode (h : request.decode = .ok decoded) (requestId : Option String) :
    checkTerms { decoded with requestId } =
      (NewOrder.priceFault? decoded.orderType decoded.price).elim
        (.ok ⟨decoded.userId, decoded.marketId, decoded.orderType, decoded.price,
          decoded.quantity⟩)
        fun detail => .error ⟨"price", detail⟩ := by
  obtain ⟨hroles, htype, hquantity⟩ := readsAs_sound h
  cases hp : NewOrder.priceFault? decoded.orderType decoded.price with
  | none => simp [checkTerms, NewOrder.make, hroles, htype, hquantity, hp]
  | some detail => simp [checkTerms, NewOrder.make, hroles, htype, hp]

theorem signFaults_head? (h : request.decode = .ok decoded) :
    (WireCreateRequest.signFaults request.orderType request.price).head? =
      (NewOrder.priceFault? decoded.orderType decoded.price).map (⟨"price", ·⟩) := by
  have hreads := WireCreateRequest.readsAs_of_decode h
  have htype := (readsAs_sound h).2.1
  unfold WireCreateRequest.signFaults
  rw [hreads.price, ← hreads.orderType]
  cases ht : decoded.orderType with
  | unspecified => exact absurd ht htype
  | limit =>
    have hpos := decoded.price.isPositive_iff
    by_cases h0 : 0 < decoded.price.inSmallestUnits
    · simp [NewOrder.priceFault?, OrderType.toWire, hpos, h0]
    · simp [NewOrder.priceFault?, OrderType.toWire, hpos, h0, Int.not_lt.1 h0]
  | market =>
    have hneg := decoded.price.isNegative_iff
    by_cases h0 : decoded.price.inSmallestUnits < 0
    · simp [NewOrder.priceFault?, OrderType.toWire, hneg, h0]
    · simp [NewOrder.priceFault?, OrderType.toWire, hneg, h0]

/-- The error of the second check is the fault of the sign. -/
theorem refusal?_checkTerms (h : request.decode = .ok decoded) (requestId : Option String) :
    refusal? (checkTerms { decoded with requestId }) =
      (WireCreateRequest.signFaults request.orderType request.price).head? := by
  rw [checkTerms_of_decode h, signFaults_head? h]
  cases NewOrder.priceFault? decoded.orderType decoded.price <;> rfl

end

namespace Rpc

/-! ## Both checks -/

section
variable {request : WireCreateRequest}

/-- A request is refused with the first of its faults. -/
theorem refusal?_validated : refusal? (validated request) = request.faults.head? := by
  refine refusal?_bind WireCreateRequest.refusal?_decode fun decoded hd => ?_
  exact refusal?_bind_pure.trans (refusal?_checkTerms hd decoded.requestId)

/-- How a call screens its request. -/
structure Screened {σ : Type} (desk : Desk) (call : RequestId.Call) (request : WireCreateRequest)
    (state : σ)
    (answered : Answered (σ × List (List Role × String)) (Except RpcStatus CreateReply)) :
    Prop where
  /-- The source is asked for acceptable requests, and for no others. -/
  asked_iff : answered.state.2 ≠ [] ↔ request.Acceptable
  /-- It is asked with what an acceptable request says. -/
  asked : request.Acceptable → ∃ decoded, request.decode = .ok decoded ∧
    request.ReadsAs decoded ∧ answered.state.2 = [(decoded.userRoles, call.id)]
  /-- Any other request is refused with the first of its faults, and nothing else happens. -/
  refused : ¬ request.Acceptable → ∃ e, request.faults.head? = some e ∧
    answered = ⟨.error (ServiceError.validation e).toStatus, countFailure desk (.validation e),
      (state, [])⟩
  /-- In what was read, the second check finds the sign of the price at fault, or nothing. -/
  signOnly : ∀ decoded requestId, request.decode = .ok decoded →
    decoded.userRoles ≠ [] ∧ decoded.orderType ≠ .unspecified ∧ decoded.quantity ≠ 0 ∧
    refusal? (checkTerms { decoded with requestId }) =
      (WireCreateRequest.signFaults request.orderType request.price).head?

theorem questions_ne_nil_iff {call : RequestId.Call} :
    questions call request ≠ [] ↔ request.Acceptable := by
  rw [← WireCreateRequest.faults_eq_nil_iff, ← List.head?_eq_none_iff, ← refusal?_validated,
    questions]
  cases validated request <;> simp [refusal?]

/-- **Which requests reach the source.** The source is asked for acceptable requests and for no
others, with the roles that the request names, in their order. Any other request is refused with the
first of its faults. What was read has its roles, its type and its quantity, so the service finds at
most the sign of the price at fault. -/
theorem createOrder_screened {σ : Type} (desk : Desk) (source : MarketSource σ)
    (draws : List OrderId) (fresh : Uuid) (wall : Instant) (call : RequestId.Call)
    (request : WireCreateRequest) (state : σ) :
    Screened desk call request state
      (createOrder desk source.logged draws fresh wall call request (state, [])) := by
  rw [createOrder_logged]
  refine ⟨questions_ne_nil_iff, ?_, ?_, ?_⟩
  · intro hacceptable
    cases hv : validated request with
    | error e =>
      have hne : questions call request ≠ [] := questions_ne_nil_iff.2 hacceptable
      simp [questions, hv] at hne
    | ok valid =>
      obtain ⟨decoded, hd, -, hroles⟩ := validated_eq_ok_iff.1 hv
      refine ⟨decoded, hd, WireCreateRequest.readsAs_of_decode hd, ?_⟩
      simp [questions, hv, hroles]
  · intro hunacceptable
    cases hv : validated request with
    | error e =>
      refine ⟨e, ?_, ?_⟩
      · rw [← refusal?_validated, hv]
        rfl
      · simp [createOrder_of_error hv, questions, hv]
    | ok valid =>
      have hne : questions call request ≠ [] := by simp [questions, hv]
      exact absurd (questions_ne_nil_iff.1 hne) hunacceptable
  · intro decoded requestId hd
    obtain ⟨hroles, htype, hquantity⟩ := readsAs_sound hd
    exact ⟨hroles, htype, hquantity, refusal?_checkTerms hd requestId⟩

-- the roles are to blame before the sign of the price
example : (WireCreateRequest.faults { plainRequest with price := "-1.5", userRoles := [1, 9] }).map
    (·.field) = ["user_roles", "price"] :=
  rfl

end

end Rpc

end OrderDesk
