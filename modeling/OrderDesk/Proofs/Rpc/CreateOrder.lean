import OrderDesk.Proofs.Desk.History
import OrderDesk.Proofs.Wire.Decoding

/-!
# Placing an order from afar

`Rpc.validated` is what a request asks for once its fields are read and its terms hold.
`createOrder_cases` is all that a call can come to when an unused identifier is drawn sooner or
later. `createOrder_outcome` says from it which answer there is when, what the store gains, and how
often the source is asked.
-/

namespace OrderDesk.Rpc

open Service

/-- What a request asks for: the roles of the caller and the terms of the order. -/
def validated (request : WireCreateRequest) : Except ValidationError (List Role × NewOrder) := do
  let decoded ← request.decode
  let new ← checkTerms decoded
  return (decoded.userRoles, new)

/-- What the source of a call is asked: one question if the request is valid, and none otherwise. -/
def questions (call : RequestId.Call) (request : WireCreateRequest) : List (List Role × String) :=
  match validated request with
  | .error _ => []
  | .ok (roles, _) => [(roles, call.id)]

/-- A call ended with an error of some code. -/
def FailsWith (answer : Except RpcStatus CreateReply) (code : RpcCode) : Prop :=
  ∃ status, answer = .error status ∧ status.code = code

@[simp] theorem failsWith_toStatus (e : ServiceError) (code : RpcCode) :
    FailsWith (.error e.toStatus) code ↔ e.code = code := by
  simp [FailsWith, ServiceError.toStatus]

@[simp] theorem not_failsWith_ok (reply : CreateReply) (code : RpcCode) :
    ¬ FailsWith (.ok reply) code := by
  simp [FailsWith]

/-- A store gained one order, the one that a request asked for, and is otherwise the same. -/
structure Gained (store after : OrderStore) (draws : List OrderId) (request : WireCreateRequest)
    (order : Order) : Prop where
  drawn : order.id ∈ draws
  /-- No stored order had the identifier. -/
  unused : ∀ id other, store.get? id = some other → other.id ≠ order.id
  only : ∀ id, after.get? id = if id = order.id then some order else store.get? id
  size : after.size = store.size + 1
  userId : Id.parse .user request.userId = .ok order.userId
  marketId : Id.parse .market request.marketId = .ok order.marketId
  orderType : OrderType.ofWire? request.orderType = some order.orderType
  price : Decimal.parse? (Text.trim request.price.toList) = some order.price
  quantity : (order.quantity : Int) = request.quantity
  status : order.status = .created
  updatedAt : order.updatedAt = none

/-- Which answer there is when, and what becomes of the store. -/
structure CreateOutcome {σ : Type} (desk : Desk) (source : MarketSource σ) (draws : List OrderId)
    (call : RequestId.Call) (request : WireCreateRequest) (state : σ)
    (answered : Answered σ (Except RpcStatus CreateReply)) : Prop where
  /-- The answer is a new order, which is all that the store gained, or the store is as it was. -/
  placed_or_refused :
    (∃ order, answered.answer = .ok ⟨order.id.toText, OrderStatus.created.toWire⟩ ∧
      Gained desk.store answered.desk.store draws request order) ∨
    ((∃ status, answered.answer = .error status) ∧ answered.desk.store = desk.store)
  placed_iff : (∃ reply, answered.answer = .ok reply) ↔
    ∃ roles new markets, validated request = .ok (roles, new) ∧
      (source roles call.id state).answer = .ok markets ∧ ∃ m ∈ markets, m.id = new.marketId
  notFound_iff : FailsWith answered.answer .notFound ↔
    ∃ roles new markets, validated request = .ok (roles, new) ∧
      (source roles call.id state).answer = .ok markets ∧ ∀ m ∈ markets, m.id ≠ new.marketId
  internal_iff : FailsWith answered.answer .internal ↔
    ∃ roles new e, validated request = .ok (roles, new) ∧
      (source roles call.id state).answer = .error e
  invalidArgument_iff : FailsWith answered.answer .invalidArgument ↔
    ∃ e, validated request = .error e

theorem validated_eq_ok_iff {request : WireCreateRequest} {roles : List Role} {new : NewOrder} :
    validated request = .ok (roles, new) ↔
      ∃ decoded, request.decode = .ok decoded ∧ checkTerms decoded = .ok new ∧
        decoded.userRoles = roles := by
  simp only [validated, bind_eq_ok_iff, pure, Except.pure, Except.ok.injEq, Prod.mk.injEq]
  constructor
  · rintro ⟨decoded, hd, _, hn, hr, rfl⟩
    exact ⟨decoded, hd, hn, hr⟩
  · rintro ⟨decoded, hd, hn, hr⟩
    exact ⟨decoded, hd, new, hn, hr, rfl⟩

variable {σ : Type} {desk : Desk} {source : MarketSource σ} {draws : List OrderId} {fresh : Uuid}
  {wall : Instant} {call : RequestId.Call} {request : WireCreateRequest} {state : σ}

/-- A request that can be read is placed. -/
theorem createOrder_of_decode {decoded : CreateRequest} (hd : request.decode = .ok decoded)
    {placed : Placement σ}
    (hp : placeOrder source draws fresh wall { decoded with requestId := some call.id } desk.store
      state = placed) :
    (createOrder desk source draws fresh wall call request state).desk.store = placed.store ∧
    (createOrder desk source draws fresh wall call request state).state = placed.state ∧
    (∀ e, placed.answer = .error e →
      (createOrder desk source draws fresh wall call request state).answer = .error e.toStatus) ∧
    ∀ order, placed.answer = .ok order →
      (createOrder desk source draws fresh wall call request state).answer =
        .ok (createReply order) := by
  cases ha : placed.answer with
  | error e => simp [createOrder, hd, Desk.placeOrder, hp, ha, countFailure]
  | ok order => simp [createOrder, hd, Desk.placeOrder, hp, ha]

/-- All that a call can come to: the request is refused, the lookup fails, the market is not listed,
or the order is stored. -/
theorem createOrder_cases (hdraws : ∃ id ∈ draws, desk.store.contains id = false)
    {answered : Answered σ (Except RpcStatus CreateReply)}
    (ha : createOrder desk source draws fresh wall call request state = answered) :
    (∃ e, validated request = .error e ∧ answered.state = state ∧
      answered.answer = .error (ServiceError.validation e).toStatus ∧
      answered.desk.store = desk.store) ∨
    ∃ roles new found, validated request = .ok (roles, new) ∧ source roles call.id state = found ∧
      answered.state = found.state ∧
      ((∃ e, found.answer = .error e ∧
        answered.answer = .error (ServiceError.unknown e.message).toStatus ∧
        answered.desk.store = desk.store) ∨
      ∃ markets, found.answer = .ok markets ∧
        (((∀ m ∈ markets, m.id ≠ new.marketId) ∧
          answered.answer = .error (ServiceError.marketNotFound new.marketId).toStatus ∧
          answered.desk.store = desk.store) ∨
        ∃ order, (∃ m ∈ markets, m.id = new.marketId) ∧
          desk.store.create draws new wall = some (order, answered.desk.store) ∧
          answered.answer = .ok (createReply order))) := by
  subst ha
  cases hd : request.decode with
  | error e =>
    have hv : validated request = .error e := by simp [validated, hd, bind, Except.bind]
    refine .inl ⟨e, hv, ?_⟩
    simp [createOrder, hd, countFailure]
  | ok decoded =>
    rcases placeOrder_cases source draws fresh wall { decoded with requestId := some call.id }
      desk.store state with ⟨e, ht, hp⟩ | ⟨new, found, ht, hfound, hrest⟩
    · obtain ⟨hstore, hstate, hanswer, -⟩ := createOrder_of_decode hd hp
      have hv : validated request = .error e := by
        simp [validated, hd, bind, Except.bind, show checkTerms decoded = .error e from ht]
      exact .inl ⟨e, hv, hstate, hanswer _ rfl, hstore⟩
    · obtain rfl := checkTerms_eq_ok ht
      refine .inr ⟨decoded.userRoles, _, found, validated_eq_ok_iff.2 ⟨decoded, hd, ht, rfl⟩,
        hfound, ?_⟩
      rcases hrest with ⟨e, hf, hp⟩ | ⟨markets, hf, ⟨hl, hp⟩ | ⟨-, hc, -⟩ |
        ⟨order, after, hl, hc, hp⟩⟩
      · obtain ⟨hstore, hstate, hanswer, -⟩ := createOrder_of_decode hd hp
        exact ⟨hstate, .inl ⟨e, hf, hanswer _ rfl, hstore⟩⟩
      · obtain ⟨hstore, hstate, hanswer, -⟩ := createOrder_of_decode hd hp
        have hunlisted : ∀ m ∈ markets, m.id ≠ decoded.marketId := by
          intro m hm heq
          rw [lists_iff.2 ⟨m, hm, heq⟩] at hl
          cases hl
        exact ⟨hstate, .inr ⟨markets, hf, .inl ⟨hunlisted, hanswer _ rfl, hstore⟩⟩⟩
      · obtain ⟨id, hm, hu⟩ := hdraws
        obtain ⟨order, after, hcreated⟩ := OrderStore.exists_create
          ⟨id, hm, OrderStore.contains_eq_false_iff.1 hu⟩ _ wall
        rw [hcreated] at hc
        cases hc
      · obtain ⟨hstore, hstate, -, hanswer⟩ := createOrder_of_decode hd hp
        refine ⟨hstate, .inr ⟨markets, hf, .inr ⟨order, lists_iff.1 hl, ?_, hanswer _ rfl⟩⟩⟩
        rw [hstore]
        exact hc

theorem gained_of_create {after : OrderStore} {roles : List Role} {new : NewOrder} {order : Order}
    (hs : desk.store.Coherent) (hv : validated request = .ok (roles, new))
    (hc : desk.store.create draws new wall = some (order, after)) :
    Gained desk.store after draws request order := by
  obtain ⟨decoded, hd, ht, rfl⟩ := validated_eq_ok_iff.1 hv
  obtain rfl := checkTerms_eq_ok ht
  obtain ⟨hu, hm, htype, hp, hq, -, -⟩ := WireCreateRequest.decode_eq_ok_iff.1 hd
  obtain ⟨id, hfind, horder, -⟩ := OrderStore.create_eq_some_iff.1 hc
  have hunused := OrderStore.get?_id_of_create hc
  exact
    { drawn := by rw [horder]; exact List.mem_of_find?_eq_some hfind
      unused := fun k other ho heq => by
        rw [← heq, hs.id_of_get? ho, ho] at hunused
        cases hunused
      only := OrderStore.get?_of_create hc
      size := OrderStore.size_of_create hc
      userId := by rw [horder]; exact hu
      marketId := by rw [horder]; exact hm
      orderType := by rw [horder]; exact (WireCreateRequest.readOrderType_eq_ok_iff.1 htype).1
      price := by rw [horder]; exact WireCreateRequest.readPrice_eq_ok_iff.1 hp
      quantity := by rw [horder]; exact (WireCreateRequest.readQuantity_eq_ok_iff.1 hq).2
      status := by rw [horder]; rfl
      updatedAt := by rw [horder]; rfl }

/-- The source is left as its one answer leaves it, or as it was if the request is not valid. -/
theorem state_createOrder (desk : Desk) (source : MarketSource σ) (draws : List OrderId)
    (fresh : Uuid) (wall : Instant) (call : RequestId.Call) (request : WireCreateRequest)
    (state : σ) : (createOrder desk source draws fresh wall call request state).state =
      match validated request with
      | .error _ => state
      | .ok (roles, _) => (source roles call.id state).state := by
  cases hd : request.decode with
  | error e => simp [createOrder, validated, hd, bind, Except.bind]
  | ok decoded =>
    rcases placeOrder_cases source draws fresh wall { decoded with requestId := some call.id }
      desk.store state with ⟨e, ht, hp⟩ | ⟨new, found, ht, rfl, hrest⟩
    · have hv : validated request = .error e := by
        simp [validated, hd, bind, Except.bind, show checkTerms decoded = .error e from ht]
      rw [(createOrder_of_decode hd hp).2.1, hv]
    · rw [validated_eq_ok_iff.2 ⟨decoded, hd, ht, rfl⟩]
      rcases hrest with ⟨e, -, hp⟩ | ⟨markets, -, ⟨-, hp⟩ | ⟨-, -, hp⟩ | ⟨order, after, -, -, hp⟩⟩
      · exact (createOrder_of_decode hd hp).2.1
      · exact (createOrder_of_decode hd hp).2.1
      · exact (createOrder_of_decode hd hp).2.1
      · exact (createOrder_of_decode hd hp).2.1

/-- Whoever keeps a record of what the source of a call is asked finds these questions. -/
theorem createOrder_logged (desk : Desk) (source : MarketSource σ) (draws : List OrderId)
    (fresh : Uuid) (wall : Instant) (call : RequestId.Call) (request : WireCreateRequest)
    (state : σ) (log : List (List Role × String)) :
    createOrder desk source.logged draws fresh wall call request (state, log) =
      let answered := createOrder desk source draws fresh wall call request state
      { answer := answered.answer
        desk := answered.desk
        state := (answered.state, log ++ questions call request) } := by
  cases hd : request.decode with
  | error e => simp [createOrder, questions, validated, hd, bind, Except.bind]
  | ok decoded =>
    have hq : questions call request =
        Service.questions fresh { decoded with requestId := some call.id } := by
      have hterms : checkTerms { decoded with requestId := some call.id } = checkTerms decoded := rfl
      rw [questions, Service.questions, validated, hd, hterms]
      cases ht : checkTerms decoded <;> simp [ht, bind, Except.bind, pure, Except.pure]
    simp only [createOrder, hd, Desk.placeOrder, placeOrder_logged, hq]
    cases (placeOrder source draws fresh wall { decoded with requestId := some call.id } desk.store
      state).answer with
    | error e => rfl
    | ok order => rfl

theorem createOutcome_of_eq (h : desk.Reachable)
    (hdraws : ∃ id ∈ draws, desk.store.contains id = false)
    {answered : Answered σ (Except RpcStatus CreateReply)}
    (ha : createOrder desk source draws fresh wall call request state = answered) :
    CreateOutcome desk source draws call request state answered := by
  rcases createOrder_cases hdraws ha with ⟨e, hv, -, hanswer, hstore⟩ |
    ⟨roles, new, found, hv, hfound, -, ⟨e, hf, hanswer, hstore⟩ | ⟨markets, hf,
      ⟨hunlisted, hanswer, hstore⟩ | ⟨order, hlisted, hc, hanswer⟩⟩⟩
  · refine ⟨.inr ⟨⟨_, hanswer⟩, hstore⟩, ?_, ?_, ?_, ?_⟩
    · simp [hanswer, hv]
    · simp [hanswer, hv, ServiceError.code]
    · simp [hanswer, hv, ServiceError.code]
    · simp [hanswer, hv, ServiceError.code]
  · refine ⟨.inr ⟨⟨_, hanswer⟩, hstore⟩, ?_, ?_, ?_, ?_⟩
    · simp [hanswer, hv, hfound, hf]
    · simp [hanswer, hv, hfound, hf, ServiceError.code]
    · simp [hanswer, hv, hfound, hf, ServiceError.code]
    · simp [hanswer, hv, ServiceError.code]
  · refine ⟨.inr ⟨⟨_, hanswer⟩, hstore⟩, ?_, ?_, ?_, ?_⟩
    · simpa [hanswer, hv, hfound, hf, and_assoc] using hunlisted
    · simpa [hanswer, hv, hfound, hf, ServiceError.code, and_assoc] using hunlisted
    · simp [hanswer, hv, hfound, hf, ServiceError.code]
    · simp [hanswer, hv, ServiceError.code]
  · have hgained := gained_of_create h.store.coherent hv hc
    refine ⟨.inl ⟨order, ?_, hgained⟩, ?_, ?_, ?_, ?_⟩
    · rw [hanswer, createReply, hgained.status]
    · simpa [hanswer, hv, hfound, hf, and_assoc] using hlisted
    · simpa [hanswer, hv, hfound, hf, and_assoc] using hlisted
    · simp [hanswer, hv, hfound, hf]
    · simp [hanswer, hv]

/-- **What a call comes to.** It answers a new order, which is then all that the store gained, or an
error, and the store is as it was. Which of them, and with which code, is decided by the request and
by what the source answers. The source is asked once if the request is valid, and never if it is
not. -/
theorem createOrder_outcome {desk : Desk} (h : desk.Reachable) (source : MarketSource σ)
    {draws : List OrderId} (hdraws : ∃ id ∈ draws, desk.store.contains id = false) (fresh : Uuid)
    (wall : Instant) (call : RequestId.Call) (request : WireCreateRequest) (state : σ) :
    CreateOutcome desk source draws call request state
      (createOrder desk source draws fresh wall call request state) ∧
    ∀ log, createOrder desk source.logged draws fresh wall call request (state, log) =
      let answered := createOrder desk source draws fresh wall call request state
      { answer := answered.answer
        desk := answered.desk
        state := (answered.state, log ++ questions call request) } :=
  ⟨createOutcome_of_eq h hdraws rfl,
    createOrder_logged desk source draws fresh wall call request state⟩

/-- A source that lists one market. -/
def oneMarket : MarketSource Unit := fun _ _ state =>
  { answer := .ok [⟨⟨.nil⟩, "BTC-USDT", true, none, []⟩], state, recorded := [] }

/-- A request for that market. -/
def plainRequest : WireCreateRequest :=
  { userId := "00000000-0000-0000-0000-000000000000"
    marketId := "00000000000000000000000000000000"
    orderType := 1
    price := " 1.50 "
    quantity := 3
    userRoles := [1] }

/-- A desk where one order was placed. -/
def oneOrderDesk : Desk :=
  (Desk.make 10 1 10).run
    [.createOrder oneMarket [⟨.ofNat 1⟩] .nil .epoch (.arriving []) plainRequest]

theorem createOrder_outcome_takenId :
    CreateOutcome oneOrderDesk oneMarket [⟨.ofNat 1⟩, ⟨.ofNat 2⟩] (.arriving []) plainRequest ()
      (createOrder oneOrderDesk oneMarket [⟨.ofNat 1⟩, ⟨.ofNat 2⟩] .nil .epoch (.arriving [])
        plainRequest ()) ∧
    (createOrder oneOrderDesk oneMarket [⟨.ofNat 1⟩, ⟨.ofNat 2⟩] .nil .epoch (.arriving [])
      plainRequest ()).answer = .ok ⟨"00000000-0000-0000-0000-000000000002", 1⟩ :=
  ⟨(createOrder_outcome ⟨10, 1, 10, _, rfl⟩ oneMarket ⟨⟨.ofNat 2⟩, by simp, by decide⟩ .nil .epoch
    (.arriving []) plainRequest ()).1, rfl⟩

end OrderDesk.Rpc
