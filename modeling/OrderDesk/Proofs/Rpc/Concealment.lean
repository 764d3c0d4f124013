import OrderDesk.Proofs.Lookup.Failing
import OrderDesk.Proofs.Metrics.Totals
import OrderDesk.Proofs.Rpc.ReadPaths
import OrderDesk.Proofs.Rpc.Undisturbed

/-!
# What callers learn of a failure

When the lookup of a valid request fails, the caller learns that something failed inside, and no
more (`concealed_of_failing`). So two calls whose lookups fail, each in its own way, cannot be told
apart by their answers, by the store or by the failures that are counted (`failures_alike`). The
same status is answered to whoever asks about an order that is not stored.
-/

namespace OrderDesk.Rpc

/-- The status of a failure inside, which says nothing about it. -/
def internalError : RpcStatus :=
  ⟨.internal, "internal error", ⟨"UNKNOWN", "order.service", []⟩, []⟩

/-- A call ended with a failure inside, which is counted, and nothing was stored. -/
structure Concealed {σ : Type} (desk : Desk)
    (answered : Answered σ (Except RpcStatus CreateReply)) : Prop where
  answer : answered.answer = .error internalError
  store : answered.desk.store = desk.store
  counted : ∀ reason, answered.desk.metrics.value (.createFailures reason) =
    desk.metrics.value (.createFailures reason) + if reason = "UNKNOWN" then 1 else 0

/-- How much is counted of a failed lookup besides the failure itself does not matter. -/
theorem concealed_conclude {σ : Type} (desk : Desk) (new : NewOrder) (draws : List OrderId)
    (wall : Instant) (state : σ) {recorded : List Recording}
    (hrecorded : ∀ r ∈ recorded, r = .count (.cacheLookups false)) (e : LookupError) :
    Concealed desk (conclude desk new draws wall state recorded (.error e)) := by
  refine ⟨rfl, rfl, fun reason => ?_⟩
  have htimes : Recording.times (.createFailures reason) recorded = 0 := by
    refine List.countP_eq_zero.2 fun r hr => ?_
    rw [hrecorded r hr]
    simp [Recording.addsTo]
  change ((desk.metrics.recordAll _).recordAll [.count (.createFailures "UNKNOWN")]).value _ = _
  rw [Metrics.value_recordAll, Metrics.value_recordAll]
  simp [htimes, Recording.addsTo]

section
variable {σ : Type} {request : WireCreateRequest} {roles : List Role} {new : NewOrder}

/-- The caller learns nothing about why the lookup of a valid request failed. -/
theorem concealed_of_failing (hv : validated request = .ok (roles, new)) {source : MarketSource σ}
    {state : σ} {call : RequestId.Call} (h : FailingLookup roles call.id source state) (desk : Desk)
    (draws : List OrderId) (fresh : Uuid) (wall : Instant) :
    Concealed desk (createOrder desk source draws fresh wall call request state) := by
  obtain ⟨e, he⟩ := h.exists_error
  rw [createOrder_of_ok hv]
  dsimp only
  rw [he]
  exact concealed_conclude desk new draws wall _ h.recorded e

/-- **Callers cannot tell failures apart.** Whatever two lookups for a valid request fail from, at
the market service or behind a cache, both calls are answered the same status, which says nothing
about the cause; nothing is stored, and the same failure is counted. Whoever asks about an order
that is not stored is answered that status too. -/
theorem failures_alike (hv : validated request = .ok (roles, new)) {σ' : Type}
    {source : MarketSource σ} {source' : MarketSource σ'} {state : σ} {state' : σ'}
    {call call' : RequestId.Call} (h : FailingLookup roles call.id source state)
    (h' : FailingLookup roles call'.id source' state') (desk : Desk) (draws draws' : List OrderId)
    (fresh fresh' : Uuid) (wall wall' : Instant) :
    let answered := createOrder desk source draws fresh wall call request state
    let answered' := createOrder desk source' draws' fresh' wall' call' request state'
    answered.answer = answered'.answer ∧ Concealed desk answered ∧ Concealed desk answered' ∧
      ∀ (other : Desk) (orderId userId : String) (query : OrderQuery),
        OrderQuery.decode orderId userId = .ok query →
        other.store.contains query.orderId = false →
        getOrderStatus other.reader orderId userId = .error internalError := by
  intro answered answered'
  have hconcealed : Concealed desk answered := concealed_of_failing hv h desk draws fresh wall
  have hconcealed' : Concealed desk answered' := concealed_of_failing hv h' desk draws' fresh' wall'
  refine ⟨hconcealed.answer.trans hconcealed'.answer.symm, hconcealed, hconcealed', ?_⟩
  intro other orderId userId query hd hmissing
  exact getOrderStatus_of_missing hd hmissing

end

/-- One lookup is given up, and another one, behind a cache, is answered a market without UUID. -/
theorem failures_alike_givenUpAndUnreadable :
    let sent : List WireMarket := [⟨"BTC", "BTC-USDT", true, none, []⟩]
    let down := MarketSource.remote (scripted fun _ => .failed .unavailable "dial tcp: refused")
      .standard id
    let spoilt :=
      (MarketSource.remote (scripted fun _ => .markets sent) .never id).cached .good 10 0 0
    let desk := Desk.make 10 1 10
    let answered := createOrder desk down [] .nil .epoch (.arriving []) plainRequest []
    let answered' := createOrder desk spoilt [] .nil .epoch (.arriving ["a"]) plainRequest
      ⟨.empty, []⟩
    answered.answer = answered'.answer ∧ Concealed desk answered ∧ Concealed desk answered' := by
  intro sent down spoilt desk answered answered'
  have hv : validated plainRequest = .ok ([.trader],
      { userId := ⟨.nil⟩
        marketId := ⟨.nil⟩
        orderType := .limit
        price := { negative := false, mantissa := 150, scale := 2 }
        quantity := 3 }) := rfl
  have hdown : FailingLookup [.trader] (RequestId.Call.arriving []).id down [] := by
    refine .remote _ _ _ _ (.exhausted fun j _ => ?_)
    rw [repliesOf_scripted]
    rfl
  have hspoilt : FailingLookup [.trader] (RequestId.Call.arriving ["a"]).id spoilt
      ⟨.empty, []⟩ := by
    refine .cached _ _ _ _ _ rfl (.remote _ _ _ _ (.unreadable 0 sent (Nat.zero_le _) ?_ ?_ ?_))
    · exact fun j hj => absurd hj (Nat.not_lt_zero j)
    · rw [repliesOf_scripted]
    · refine ⟨_, List.mem_singleton_self _, fun id hid => ?_⟩
      have hmalformed : Id.parse .market "BTC" =
          .error ⟨"market_id", "must be a valid UUID"⟩ := rfl
      cases hmalformed.symm.trans hid
  obtain ⟨halike, hconcealed, hconcealed', -⟩ :=
    failures_alike hv hdown hspoilt desk [] [] .nil .nil .epoch .epoch
  exact ⟨halike, hconcealed, hconcealed'⟩

end OrderDesk.Rpc
