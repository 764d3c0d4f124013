import OrderDesk.Proofs.Rpc.Turns

/-!
# A call by itself

A call to place an order that nobody interferes with does in its turns what `Rpc.createOrder` does
in one go: it comes to the same answer and leaves the same desk, metrics and all, and the same cache
(`exists_run_eq_createOrder`).

`Traffic.Comes` says what a call comes to when it is left to itself. It is shown for a call that has
its answer, and then for every phase before, from the last one back to the first.
-/

namespace OrderDesk

/-- A call after a step, once all that it owes is recorded. -/
def PlacingCall.after {σ : Type} (c : PlacingCall) (next : PlacingStep σ) : PlacingCall :=
  { c with phase := next.phase, recorded := c.recorded ++ next.owed, owed := [] }

theorem Desk.record_append (desk : Desk) (rs rs' : List Recording) :
    desk.record (rs ++ rs') = (desk.record rs).record rs' := by
  simp [Desk.record, Metrics.recordAll]

/-! ## Turns in a row -/

namespace Traffic

section
variable {σ : Type} (source : MarketSource σ) (ttl : Nanos) (cached : Bool)

/-- The traffic once a call and what it worked on have changed. -/
def put (t : Traffic σ) (k : Nat) (c : PlacingCall) (desk : Desk) (markets : Cached σ) :
    Traffic σ :=
  { t with desk, markets, calls := t.calls.set k c }

/-- Turns of one call, with nothing in between, lead from one state to another. -/
def Leads (k : Nat) (chances : Chances) (t t' : Traffic σ) : Prop :=
  ∃ n, t.run source ttl cached (List.replicate n (.turn k chances)) = t'

variable {source ttl cached}

namespace Leads

variable {k : Nat} {chances : Chances} {t t' t'' : Traffic σ}

theorem refl (t : Traffic σ) : Leads source ttl cached k chances t t :=
  ⟨0, rfl⟩

theorem trans (h : Leads source ttl cached k chances t t')
    (h' : Leads source ttl cached k chances t' t'') : Leads source ttl cached k chances t t'' := by
  obtain ⟨n, rfl⟩ := h
  obtain ⟨n', rfl⟩ := h'
  exact ⟨n + n', by rw [List.replicate_add, run_append]⟩

theorem turn (h : t.step source ttl cached (.turn k chances) = t') :
    Leads source ttl cached k chances t t' :=
  ⟨1, h⟩

end Leads

variable {t : Traffic σ} {k : Nat} {chances : Chances} {c : PlacingCall} {desk : Desk}
  {markets : Cached σ}

theorem step_put (hk : k < t.calls.length) :
    (t.put k c desk markets).step source ttl cached (.turn k chances) =
      (t.put k c desk markets).callTurn source ttl cached k c chances := by
  simp [step, put, hk]

/-- A call records what it owes. -/
theorem leads_owed (hk : k < t.calls.length) : Leads source ttl cached k chances
    (t.put k c desk markets)
    (t.put k { c with recorded := c.recorded ++ c.owed, owed := [] } (desk.record c.owed)
      markets) := by
  obtain ⟨call, request, phase, recorded, owed⟩ := c
  induction owed generalizing desk recorded with
  | nil =>
    rw [List.append_nil]
    exact .refl _
  | cons r owed ih =>
    have hfirst : (t.put k ⟨call, request, phase, recorded, r :: owed⟩ desk markets).step source
        ttl cached (.turn k chances) =
          t.put k ⟨call, request, phase, recorded ++ [r], owed⟩ (desk.record [r]) markets := by
      rw [step_put hk]
      simp [callTurn, put]
    have hrest := @ih (desk.record [r]) (recorded ++ [r])
    rw [List.append_assoc] at hrest
    exact (Leads.turn hfirst).trans hrest

/-- A call that owes nothing takes a step, and records what it owes then. -/
theorem leads_act (hk : k < t.calls.length) (howed : c.owed = []) {next : PlacingStep σ}
    (hnext : c.act source ttl cached chances desk.store markets = next) :
    Leads source ttl cached k chances (t.put k c desk markets)
      (t.put k (c.after next) (Desk.record { desk with store := next.store } next.owed)
        next.markets) := by
  have hstep : (t.put k c desk markets).step source ttl cached (.turn k chances) =
      t.put k { c with phase := next.phase, owed := next.owed } { desk with store := next.store }
        next.markets := by
    rw [step_put hk, ← hnext]
    simp [callTurn, put, howed]
  exact (Leads.turn hstep).trans (leads_owed hk)

variable (source ttl cached t k chances)

/-- Left to itself, a call comes to an answer. -/
def Comes (c : PlacingCall) (desk : Desk) (markets : Cached σ)
    (answered : Answered (Cached σ) (Except RpcStatus CreateReply)) : Prop :=
  ∃ recorded, Leads source ttl cached k chances (t.put k c desk markets)
    (t.put k ⟨c.call, c.request, .answered answered.answer, recorded, []⟩ answered.desk
      answered.state)

variable {source ttl cached t k chances}

theorem comes_of_answered {answer : Except RpcStatus CreateReply} (howed : c.owed = [])
    (hphase : c.phase = .answered answer) :
    Comes source ttl cached t k chances c desk markets ⟨answer, desk, markets⟩ := by
  obtain ⟨call, request, phase, recorded, owed⟩ := c
  subst howed hphase
  exact ⟨recorded, .refl _⟩

theorem comes_of_act (hk : k < t.calls.length) (howed : c.owed = []) {next : PlacingStep σ}
    (hnext : c.act source ttl cached chances desk.store markets = next)
    {answered : Answered (Cached σ) (Except RpcStatus CreateReply)}
    (h : Comes source ttl cached t k chances (c.after next)
      (Desk.record { desk with store := next.store } next.owed) next.markets answered) :
    Comes source ttl cached t k chances c desk markets answered := by
  obtain ⟨recorded, hleads⟩ := h
  exact ⟨recorded, (leads_act hk howed hnext).trans hleads⟩

end

end Traffic

/-! ## What the desk does in one go -/

namespace Rpc

/-- What a call comes to, given the outcome of its lookup and what was recorded until then. -/
def conclude {σ : Type} (desk : Desk) (new : NewOrder) (draws : List OrderId) (wall : Instant)
    (state : σ) (recorded : List Recording) :
    Except LookupError (List Market) → Answered σ (Except RpcStatus CreateReply)
  | .error e =>
    let e := ServiceError.unknown e.message
    ⟨.error e.toStatus, countFailure (desk.record (recorded ++ [.count (.marketLookups false)])) e,
      state⟩
  | .ok found =>
    let recorded := recorded ++ [.count (.marketLookups true)]
    if Service.lists found new.marketId then
      match desk.store.create draws new wall with
      | some (order, store) =>
        ⟨.ok (createReply order), Desk.record { desk with store }
          (recorded ++ [.count (.ordersCreated order.orderType)]), state⟩
      | none =>
        let e := ServiceError.unknown "no unused order ID was drawn"
        ⟨.error e.toStatus, countFailure (desk.record recorded) e, state⟩
    else
      let e := ServiceError.marketNotFound new.marketId
      ⟨.error e.toStatus, countFailure (desk.record recorded) e, state⟩

variable {σ : Type} {desk : Desk} {source : MarketSource σ} {draws : List OrderId} {fresh : Uuid}
  {wall : Instant} {call : RequestId.Call} {request : WireCreateRequest} {state : σ}

theorem createOrder_of_error {e : ValidationError} (h : validated request = .error e) :
    createOrder desk source draws fresh wall call request state =
      ⟨.error (ServiceError.validation e).toStatus, countFailure desk (.validation e), state⟩ := by
  unfold createOrder
  cases hd : request.decode with
  | error e' =>
    obtain rfl : e' = e := by simpa [validated, hd, bind, Except.bind] using h
    rfl
  | ok decoded =>
    have hterms : Service.checkTerms { decoded with requestId := some call.id } = .error e := by
      simp only [validated, hd, bind, Except.bind] at h
      change Service.checkTerms decoded = .error e
      cases ht : Service.checkTerms decoded with
      | error e' => simpa [ht] using h
      | ok new => simp [ht, pure, Except.pure] at h
    simp only [Desk.placeOrder, Service.placeOrder, hterms]
    rfl

theorem createOrder_of_ok {roles : List Role} {new : NewOrder}
    (h : validated request = .ok (roles, new)) :
    createOrder desk source draws fresh wall call request state =
      let found := source roles call.id state
      conclude desk new draws wall found.state found.recorded found.answer := by
  obtain ⟨decoded, hd, ht, rfl⟩ := validated_eq_ok_iff.1 h
  obtain rfl := Service.checkTerms_eq_ok ht
  rcases Service.placeOrder_cases source draws fresh wall { decoded with requestId := some call.id }
    desk.store state with ⟨e, hterms, -⟩ | ⟨new, found, hterms, hfound, hrest⟩
  · cases hterms.symm.trans ht
  · obtain rfl := Except.ok.inj (hterms.symm.trans ht)
    have hasked : source decoded.userRoles call.id state = found := hfound
    simp only [createOrder, hd, Desk.placeOrder, hasked]
    rcases hrest with ⟨e, hf, hp⟩ | ⟨markets, hf, ⟨hl, hp⟩ | ⟨hl, hc, hp⟩ |
      ⟨order, after, hl, hc, hp⟩⟩
    · rw [hp, hf]
      rfl
    · rw [hp, hf]
      simp only [conclude, hl, if_neg Bool.false_ne_true]
    · rw [hp, hf]
      simp only [conclude, hl, if_true, hc]
    · rw [hp, hf]
      simp only [conclude, hl, if_true, hc]

/-- What was recorded before the lookup came to an end is recorded first. -/
theorem conclude_record (earlier recorded : List Recording) {new : NewOrder}
    (outcome : Except LookupError (List Market)) :
    conclude (desk.record earlier) new draws wall state recorded outcome =
      conclude desk new draws wall state (earlier ++ recorded) outcome := by
  cases outcome with
  | error e => simp only [conclude, Desk.record_append]
  | ok found =>
    simp only [conclude, Desk.store_record, Desk.record_append]
    rfl

end Rpc

/-! ## From the last phase back to the first -/

/-- The source that calls ask, at one time: through a cache or not. -/
def MarketSource.through {σ : Type} (source : MarketSource σ) (cached : Bool) (health : CacheHealth)
    (ttl now : Nanos) : MarketSource (Cached σ) :=
  if cached then source.cached health ttl now now else source.uncached

/-- A source that records nothing by itself. -/
def MarketSource.Silent {σ : Type} (source : MarketSource σ) : Prop :=
  ∀ roles requestId state, (source roles requestId state).recorded = []

namespace Traffic

section
variable {σ : Type} {source : MarketSource σ} {ttl : Nanos} {cached : Bool} {t : Traffic σ}
  {k : Nat} {chances : Chances} {c : PlacingCall} {desk : Desk} {markets : Cached σ}
  {new : NewOrder} {roles : List Role} {requestId : String}

theorem comes_of_failed (hk : k < t.calls.length) (howed : c.owed = []) {e : ServiceError}
    {state : Cached σ} {owed : List Recording}
    (hnext : c.act source ttl cached chances desk.store markets =
      PlacingCall.failed e desk.store state owed) :
    Comes source ttl cached t k chances c desk markets
      ⟨.error e.toStatus, Rpc.countFailure (desk.record owed) e, state⟩ := by
  refine comes_of_act hk howed hnext ?_
  have hdesk : Rpc.countFailure (desk.record owed) e =
      Desk.record { desk with store := desk.store } (owed ++ [.count (.createFailures e.reason)]) :=
    (Desk.record_append ..).symm
  rw [hdesk]
  exact comes_of_answered rfl rfl

/-- A call whose lookup is through concludes with its outcome. -/
theorem comes_of_afterLookup (hk : k < t.calls.length) (howed : c.owed = [])
    (hdraws : ∃ id ∈ chances.draws, desk.store.contains id = false) {state : Cached σ}
    {owed : List Recording} {outcome : Except LookupError (List Market)}
    (hnext : c.act source ttl cached chances desk.store markets =
      PlacingCall.afterLookup new desk.store state owed outcome) :
    Comes source ttl cached t k chances c desk markets
      (Rpc.conclude desk new chances.draws chances.wall state owed outcome) := by
  cases outcome with
  | error e => exact comes_of_failed hk howed hnext
  | ok found =>
    rw [PlacingCall.afterLookup] at hnext
    rw [Rpc.conclude]
    by_cases hlists : Service.lists found new.marketId = true
    · obtain ⟨id, hmem, hunused⟩ := hdraws
      obtain ⟨order, store, hcreate⟩ := OrderStore.exists_create
        ⟨id, hmem, OrderStore.contains_eq_false_iff.1 hunused⟩ new chances.wall
      rw [if_pos hlists] at hnext
      simp only [hlists, if_true, hcreate]
      refine comes_of_act hk howed hnext ?_
      have hplaced : PlacingCall.act source ttl cached
          (c.after ⟨.placing new, desk.store, state, owed ++ [.count (.marketLookups true)]⟩)
          chances
          (Desk.record { desk with store := desk.store }
            (owed ++ [.count (.marketLookups true)])).store state =
          ⟨.answered (.ok (Rpc.createReply order)), store, state,
            [.count (.ordersCreated order.orderType)]⟩ := by
        simp only [PlacingCall.act, PlacingCall.after, Desk.store_record, hcreate]
      refine comes_of_act hk rfl hplaced ?_
      rw [Desk.record_append { desk with store }]
      exact comes_of_answered rfl rfl
    · rw [if_neg hlists] at hnext
      simp only [hlists]
      exact comes_of_failed hk howed hnext

/-- Without a cache, a lookup asks the source at once and is through. -/
theorem comes_of_asking_uncached (hk : k < t.calls.length) (howed : c.owed = [])
    (hdraws : ∃ id ∈ chances.draws, desk.store.contains id = false)
    (hphase : c.phase = .lookingUp new ⟨roles, requestId, .asking⟩) (hsilent : source.Silent) :
    let found := source.uncached roles requestId markets
    Comes source ttl false t k chances c desk markets
      (Rpc.conclude desk new chances.draws chances.wall found.state found.recorded
        found.answer) := by
  intro found
  have hnone : found.recorded = [] := hsilent roles requestId markets.inner
  rw [hnone]
  have hact : c.act source ttl false chances desk.store markets =
      PlacingCall.afterLookup new desk.store found.state [] found.answer := by
    simp only [PlacingCall.act, hphase, LookupCall.turn, found, MarketSource.uncached]
    cases (source roles requestId markets.inner).answer <;> rfl
  exact comes_of_afterLookup hk howed hdraws hact

/-- Behind a cache, a lookup that missed keeps what the source found. -/
theorem comes_of_asking_cached (hk : k < t.calls.length) (howed : c.owed = []) {missed : Desk}
    (hmissed : missed = desk.record [.count (.cacheLookups false)])
    (hdraws : ∃ id ∈ chances.draws, missed.store.contains id = false)
    (hphase : c.phase = .lookingUp new ⟨roles, requestId, .asking⟩) {state : Cached σ}
    (hmiss : state.cache.readFor chances.health roles chances.now = (none, markets.cache))
    (hinner : state.inner = markets.inner) (hsilent : source.Silent) :
    let found := source.cached chances.health ttl chances.now chances.now roles requestId state
    Comes source ttl true t k chances c missed markets
      (Rpc.conclude desk new chances.draws chances.wall found.state found.recorded
        found.answer) := by
  intro found
  have hfound : found = source.cached chances.health ttl chances.now chances.now roles requestId
    state := rfl
  rw [MarketSource.cached, hmiss] at hfound
  dsimp only at hfound
  rw [hinner, hsilent] at hfound
  -- The miss is recorded by now. In one go it is recorded with the rest, before everything else.
  have hconclude : ∀ outcome, Rpc.conclude missed new chances.draws chances.wall found.state []
      outcome = Rpc.conclude desk new chances.draws chances.wall found.state
        [.count (.cacheLookups false)] outcome := by
    intro outcome
    rw [hmissed, Rpc.conclude_record]
    rfl
  have hrecorded : found.recorded = [.count (.cacheLookups false)] := by
    rw [hfound]
    cases (source roles requestId markets.inner).answer <;> rfl
  rw [hrecorded, ← hconclude]
  cases hanswer : (source roles requestId markets.inner).answer with
  | error e =>
    rw [hanswer] at hfound
    have hact : c.act source ttl true chances missed.store markets =
        PlacingCall.afterLookup new missed.store found.state [] found.answer := by
      rw [hfound]
      simp only [PlacingCall.act, hphase, LookupCall.turn, hanswer]
      rfl
    exact comes_of_afterLookup hk howed hdraws hact
  | ok listed =>
    rw [hanswer] at hfound
    have hact : c.act source ttl true chances missed.store markets =
        ⟨.lookingUp new ⟨roles, requestId, .keeping listed⟩, missed.store,
          ⟨markets.cache, (source roles requestId markets.inner).state⟩, []⟩ := by
      simp only [PlacingCall.act, hphase, LookupCall.turn, hanswer]
      rfl
    have hkept : PlacingCall.act source ttl true
        (c.after ⟨.lookingUp new ⟨roles, requestId, .keeping listed⟩, missed.store,
          ⟨markets.cache, (source roles requestId markets.inner).state⟩, []⟩) chances missed.store
        ⟨markets.cache, (source roles requestId markets.inner).state⟩ =
        PlacingCall.afterLookup new missed.store found.state [] found.answer := by
      rw [hfound]
      rfl
    refine comes_of_act hk howed hact ?_
    exact comes_of_afterLookup hk rfl hdraws hkept

/-- Behind a cache, a lookup that begins does in its turns what a caching source does at once. -/
theorem comes_of_reading (hk : k < t.calls.length) (howed : c.owed = [])
    (hdraws : ∃ id ∈ chances.draws, desk.store.contains id = false)
    (hphase : c.phase = .lookingUp new ⟨roles, requestId, .reading⟩) (hsilent : source.Silent) :
    let found := source.cached chances.health ttl chances.now chances.now roles requestId markets
    Comes source ttl true t k chances c desk markets
      (Rpc.conclude desk new chances.draws chances.wall found.state found.recorded
        found.answer) := by
  intro found
  have hread := markets.cache.readFor_eq chances.health roles chances.now
  have hact : c.act source ttl true chances desk.store markets =
      let found := markets.cache.lookFor chances.health roles chances.now
      PlacingCall.goOn true new ⟨roles, requestId, .reading⟩ desk.store
        ⟨.afterRead chances.now found, markets, [.read chances.now found]⟩ := by
    simp only [PlacingCall.act, hphase, LookupCall.turn]
  cases hl : markets.cache.lookFor chances.health roles chances.now with
  | none =>
    rw [hl] at hread hact
    refine comes_of_act hk howed hact ?_
    exact comes_of_asking_cached hk rfl rfl hdraws rfl hread rfl hsilent
  | some look =>
    cases look with
    | absent =>
      rw [hl] at hread hact
      refine comes_of_act hk howed hact ?_
      exact comes_of_asking_cached hk rfl rfl hdraws rfl hread rfl hsilent
    | live listed =>
      rw [hl] at hread hact
      have hfound : found = ⟨.ok listed, markets, [.count (.cacheLookups true)]⟩ := by
        simp only [found, MarketSource.cached, hread]
      rw [hfound]
      exact comes_of_afterLookup hk howed hdraws hact
    | expired =>
      rw [hl] at hread hact
      refine comes_of_act hk howed hact (comes_of_act hk rfl rfl ?_)
      exact comes_of_asking_cached hk rfl rfl hdraws rfl hread rfl hsilent

/-- A call that nobody interferes with does in its turns what the desk does at once. -/
theorem exists_run_eq_createOrder {call : RequestId.Call} {request : WireCreateRequest}
    (hk : t.calls[k]? = some (.start call request)) (hsilent : source.Silent)
    (hdraws : ∃ id ∈ chances.draws, t.desk.store.contains id = false) (fresh : Uuid) :
    let answered := Rpc.createOrder t.desk (source.through cached chances.health ttl chances.now)
      chances.draws fresh chances.wall call request t.markets
    ∃ n recorded, t.run source ttl cached (List.replicate n (.turn k chances)) =
      t.put k ⟨call, request, .answered answered.answer, recorded, []⟩ answered.desk
        answered.state := by
  intro answered
  obtain ⟨hlt, hcall⟩ := List.getElem?_eq_some_iff.1 hk
  have hself : t.put k (.start call request) t.desk t.markets = t := by
    rw [put, ← hcall, List.set_getElem_self]
  suffices hcomes : Comes source ttl cached t k chances (.start call request) t.desk t.markets
      answered by
    obtain ⟨recorded, n, hrun⟩ := hcomes
    rw [hself] at hrun
    exact ⟨n, recorded, hrun⟩
  cases hvalid : Rpc.validated request with
  | error e =>
    have hanswered : answered = _ := Rpc.createOrder_of_error hvalid
    rw [hanswered]
    have hact : (PlacingCall.start call request).act source ttl cached chances t.desk.store
        t.markets = PlacingCall.failed (.validation e) t.desk.store t.markets [] := by
      simp only [PlacingCall.act, PlacingCall.start, hvalid]
    exact comes_of_failed hlt rfl hact
  | ok valid =>
    obtain ⟨roles, new⟩ := valid
    have hanswered : answered = _ := Rpc.createOrder_of_ok hvalid
    rw [hanswered]
    have hact : (PlacingCall.start call request).act source ttl cached chances t.desk.store
        t.markets =
          ⟨.lookingUp new ⟨roles, call.id, .first cached⟩, t.desk.store, t.markets, []⟩ := by
      simp only [PlacingCall.act, PlacingCall.start, hvalid]
    refine comes_of_act hlt rfl hact ?_
    cases cached with
    | true => exact comes_of_reading hlt rfl hdraws rfl hsilent
    | false => exact comes_of_asking_uncached hlt rfl hdraws rfl hsilent

end

end Traffic

end OrderDesk
