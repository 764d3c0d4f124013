import OrderDesk.Proofs.Store.History
import OrderDesk.Service.Lifecycle

/-!
# Placing an order

`placeOrder_cases` is all that a request to place an order can come to: it is refused, the lookup
fails, the market is not listed, or the order is stored.

`MarketSource.logged` is a source that keeps a record of what it was asked, and
`placeOrder_logged` says that placing an order asks once if the terms hold, and never otherwise.
-/

namespace OrderDesk

/-- A source that keeps a record of what it was asked. -/
def MarketSource.logged {σ : Type} (source : MarketSource σ) :
    MarketSource (σ × List (List Role × String)) := fun roles requestId state =>
  let found := source roles requestId state.1
  { answer := found.answer
    state := (found.state, state.2 ++ [(roles, requestId)])
    recorded := found.recorded }

namespace Service

theorem lists_iff {markets : List Market} {id : MarketId} :
    lists markets id = true ↔ ∃ m ∈ markets, m.id = id := by
  simp [lists]

/-- The terms that pass are those of the request. -/
theorem checkTerms_eq_ok {request : CreateRequest} {new : NewOrder}
    (h : checkTerms request = .ok new) :
    new = ⟨request.userId, request.marketId, request.orderType, request.price,
      request.quantity⟩ := by
  unfold checkTerms NewOrder.make at h
  split at h
  · cases h
  · split at h
    · cases h
    · split at h
      · cases h
      · split at h
        · cases h
        · exact (Except.ok.inj h).symm

variable {σ : Type} (source : MarketSource σ) (draws : List OrderId) (fresh : Uuid) (now : Instant)
  (request : CreateRequest) (store : OrderStore) (state : σ)

/-- All that a request to place an order can come to: its terms do not hold, the lookup fails, the
market is not listed, no unused identifier is drawn, or the order is stored. -/
theorem placeOrder_cases :
    (∃ e, checkTerms request = .error e ∧
      placeOrder source draws fresh now request store state =
        ⟨.error (.validation e), store, state, []⟩) ∨
    ∃ new found, checkTerms request = .ok new ∧
      source request.userRoles (request.requestId.getD fresh.toText) state = found ∧
      ((∃ e, found.answer = .error e ∧
        placeOrder source draws fresh now request store state =
          ⟨.error (.unknown e.message), store, found.state,
            found.recorded ++ [.count (.marketLookups false)]⟩) ∨
      ∃ markets, found.answer = .ok markets ∧
        ((lists markets request.marketId = false ∧
          placeOrder source draws fresh now request store state =
            ⟨.error (.marketNotFound request.marketId), store, found.state,
              found.recorded ++ [.count (.marketLookups true)]⟩) ∨
        (lists markets request.marketId = true ∧ store.create draws new now = none ∧
          placeOrder source draws fresh now request store state =
            ⟨.error (.unknown "no unused order ID was drawn"), store, found.state,
              found.recorded ++ [.count (.marketLookups true)]⟩) ∨
        ∃ order after, lists markets request.marketId = true ∧
          store.create draws new now = some (order, after) ∧
          placeOrder source draws fresh now request store state =
            ⟨.ok order, after, found.state, found.recorded ++ [.count (.marketLookups true)] ++
              [.count (.ordersCreated order.orderType)]⟩)) := by
  unfold placeOrder
  cases hterms : checkTerms request with
  | error e => exact .inl ⟨e, rfl, rfl⟩
  | ok new =>
    refine .inr ⟨new, _, rfl, rfl, ?_⟩
    have hmarket : new.marketId = request.marketId := by rw [checkTerms_eq_ok hterms]
    simp only [hmarket]
    cases (source request.userRoles (request.requestId.getD fresh.toText) state).answer with
    | error e => exact .inl ⟨e, rfl, rfl⟩
    | ok markets =>
      refine .inr ⟨markets, rfl, ?_⟩
      dsimp only
      cases lists markets request.marketId with
      | false => exact .inl ⟨rfl, rfl⟩
      | true =>
        cases store.create draws new now with
        | none => exact .inr (.inl ⟨rfl, rfl, rfl⟩)
        | some created => exact .inr (.inr ⟨created.1, created.2, rfl, rfl, rfl⟩)

/-- A request to place an order creates an order, or it leaves the store alone. -/
theorem exists_run_placeOrder :
    ∃ ops, (placeOrder source draws fresh now request store state).store = store.run ops := by
  rcases placeOrder_cases source draws fresh now request store state with
    ⟨e, -, h⟩ | ⟨new, found, -, -, ⟨e, -, h⟩ | ⟨markets, -, ⟨-, h⟩ | ⟨-, -, h⟩ |
      ⟨order, after, -, hc, h⟩⟩⟩
  · exact ⟨[], by rw [h]; rfl⟩
  · exact ⟨[], by rw [h]; rfl⟩
  · exact ⟨[], by rw [h]; rfl⟩
  · exact ⟨[], by rw [h]; rfl⟩
  · exact ⟨[.create draws new now], by rw [h]; simp [OrderStore.step, hc]⟩

/-- Placing an order keeps every order. -/
theorem get?_placeOrder {id : OrderId} {order : Order} (ho : store.get? id = some order) :
    (placeOrder source draws fresh now request store state).store.get? id = some order := by
  rcases placeOrder_cases source draws fresh now request store state with
    ⟨e, -, h⟩ | ⟨new, found, -, -, ⟨e, -, h⟩ | ⟨markets, -, ⟨-, h⟩ | ⟨-, -, h⟩ |
      ⟨placed, after, -, hc, h⟩⟩⟩
  · rwa [h]
  · rwa [h]
  · rwa [h]
  · rwa [h]
  · have hstep : store.step (.create draws new now) = after := by simp [OrderStore.step, hc]
    rw [h]
    dsimp only
    rw [← hstep]
    exact OrderStore.get?_step_of_isPass_eq_false rfl ho

/-- What the source of a request is asked: one question if the terms hold, and none otherwise. -/
def questions (fresh : Uuid) (request : CreateRequest) : List (List Role × String) :=
  match checkTerms request with
  | .error _ => []
  | .ok _ => [(request.userRoles, request.requestId.getD fresh.toText)]

/-- Whoever keeps a record of what a source is asked finds these questions. -/
theorem placeOrder_logged (log : List (List Role × String)) :
    placeOrder source.logged draws fresh now request store (state, log) =
      let placed := placeOrder source draws fresh now request store state
      { answer := placed.answer
        store := placed.store
        recorded := placed.recorded
        state := (placed.state, log ++ questions fresh request) } := by
  unfold placeOrder questions MarketSource.logged
  cases checkTerms request with
  | error e => simp
  | ok new =>
    dsimp only
    cases (source request.userRoles (request.requestId.getD fresh.toText) state).answer with
    | error e => rfl
    | ok markets =>
      dsimp only
      cases lists markets new.marketId with
      | false => rfl
      | true => cases store.create draws new now <;> rfl

end Service

end OrderDesk
