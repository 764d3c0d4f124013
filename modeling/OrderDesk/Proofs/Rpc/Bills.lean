import OrderDesk.Proofs.Rpc.Turns

/-!
# What a call has to record

`Incurs` says for every phase of a call to place an order what the call has recorded or still has to
record by then, item by item: nothing before the lookup, whether the cache had an answer, how the
lookup ended, and at last either the order or the reason of the failure. Every step of a call keeps
to it (`Incurs.act`).

The items of a call that has its answer agree with each other (`Incurs.reconciled`), and so do the
items of any number of such calls (`reconciled_flatMap_bill`).
-/

namespace OrderDesk

namespace Counter

/-- Whether a counter is about calls to place an order. -/
def isOfCalls : Counter → Bool
  | .ordersCreated _ => true
  | .createFailures _ => true
  | .marketLookups _ => true
  | .cacheLookups _ => true
  | .statusTransitions _ => false
  | .updatesStreamed _ => false

/-- Whether a counter is that of the orders of some types. -/
def isOrder (pick : OrderType → Bool) : Counter → Bool
  | .ordersCreated orderType => pick orderType
  | _ => false

/-- Whether a counter is one of the failures, for whatever reason. -/
def isFailure : Counter → Bool
  | .createFailures _ => true
  | _ => false

theorem isOfCalls_of_isOrder {pick : OrderType → Bool} {c : Counter} (h : c.isOrder pick = true) :
    c.isOfCalls = true := by
  cases c <;> first | rfl | cases h

theorem isOfCalls_of_isFailure {c : Counter} (h : c.isFailure = true) : c.isOfCalls = true := by
  cases c <;> first | rfl | cases h

end Counter

/-- Whether something recorded is a count about calls to place an order. -/
def Recording.isOfCalls : Recording → Bool
  | .count c => c.isOfCalls
  | .setActive _ => false

/-! ## Items, phase by phase -/

/-- What a lookup that is through has recorded of its cache, if it has one. -/
def cacheItems (cached hit : Bool) : List Recording :=
  if cached then [.count (.cacheLookups hit)] else []

/-- What a call has to record by the time it comes to a phase. -/
inductive Incurs (cached : Bool) : PlacingPhase → List Recording → Prop
  | arrived : Incurs cached .arrived []
  | reading {new : NewOrder} {roles : List Role} {requestId : String} (hcached : cached = true) :
      Incurs cached (.lookingUp new ⟨roles, requestId, .reading⟩) []
  | evicting {new : NewOrder} {roles : List Role} {requestId : String} {readAt : Nanos}
      (hcached : cached = true) :
      Incurs cached (.lookingUp new ⟨roles, requestId, .evicting readAt⟩) []
  | asking {new : NewOrder} {roles : List Role} {requestId : String} :
      Incurs cached (.lookingUp new ⟨roles, requestId, .asking⟩) (cacheItems cached false)
  | keeping {new : NewOrder} {roles : List Role} {requestId : String} {markets : List Market} :
      Incurs cached (.lookingUp new ⟨roles, requestId, .keeping markets⟩) (cacheItems cached false)
  | placing {new : NewOrder} (hit : Bool) :
      Incurs cached (.placing new) (cacheItems cached hit ++ [.count (.marketLookups true)])
  | invalid (e : ValidationError) :
      Incurs cached (.answered (.error (ServiceError.validation e).toStatus))
        [.count (.createFailures "VALIDATION_FAILED")]
  | notFetched (hit : Bool) (e : LookupError) :
      Incurs cached (.answered (.error (ServiceError.unknown e.message).toStatus))
        (cacheItems cached hit ++
          [.count (.marketLookups false), .count (.createFailures "UNKNOWN")])
  | notListed (hit : Bool) (id : MarketId) :
      Incurs cached (.answered (.error (ServiceError.marketNotFound id).toStatus))
        (cacheItems cached hit ++
          [.count (.marketLookups true), .count (.createFailures "MARKET_NOT_FOUND")])
  | placed (hit : Bool) (order : Order) :
      Incurs cached (.answered (.ok (Rpc.createReply order)))
        (cacheItems cached hit ++
          [.count (.marketLookups true), .count (.ordersCreated order.orderType)])

namespace Incurs

variable {σ : Type} {source : MarketSource σ} {ttl : Nanos} {cached : Bool} {c : PlacingCall}
  {chances : Chances} {store : OrderStore} {markets : Cached σ} {recorded owed : List Recording}

theorem first {new : NewOrder} {roles : List Role} {requestId : String} :
    Incurs cached (.lookingUp new ⟨roles, requestId, .first cached⟩) [] := by
  cases cached with
  | true => exact reading rfl
  | false => exact asking

/-- What a call does with the outcome of its lookup adds how the lookup ended. -/
theorem afterLookup (hit : Bool) (hitems : recorded ++ owed = cacheItems cached hit)
    (new : NewOrder) (outcome : Except LookupError (List Market)) :
    let next := PlacingCall.afterLookup new store markets owed outcome
    Incurs cached next.phase (recorded ++ next.owed) := by
  cases outcome with
  | error e =>
    have hnext : Incurs cached _ (cacheItems cached hit ++ _) := notFetched hit e
    rw [← hitems] at hnext
    simpa [PlacingCall.afterLookup, PlacingCall.failed, ServiceError.reason] using hnext
  | ok found =>
    simp only [PlacingCall.afterLookup]
    split
    · have hnext : Incurs cached (.placing new) (cacheItems cached hit ++ _) := placing hit
      rw [← hitems] at hnext
      simpa using hnext
    · have hnext : Incurs cached _ (cacheItems cached hit ++ _) := notListed hit new.marketId
      rw [← hitems] at hnext
      simpa [PlacingCall.failed, ServiceError.reason] using hnext

/-- A step of a call that owes nothing adds what the next phase asks for. -/
theorem act (h : Incurs cached c.phase c.recorded) :
    let next := c.act source ttl cached chances store markets
    Incurs cached next.phase (c.recorded ++ next.owed) := by
  obtain ⟨call, request, phase, recorded, owed⟩ := c
  cases h with
  | arrived =>
    simp only [PlacingCall.act]
    cases Rpc.validated request with
    | error e => exact invalid e
    | ok valid => exact first
  | reading hcached =>
    subst hcached
    simp only [PlacingCall.act, PlacingCall.goOn, LookupCall.turn]
    cases markets.cache.lookFor chances.health _ chances.now with
    | none => exact asking
    | some look =>
      cases look with
      | absent => exact asking
      | live found => exact afterLookup true rfl _ (.ok found)
      | expired => exact evicting rfl
  | evicting hcached =>
    subst hcached
    exact asking
  | asking =>
    simp only [PlacingCall.act, PlacingCall.goOn, LookupCall.turn]
    cases (source _ _ markets.inner).answer with
    | error e => exact afterLookup false (List.append_nil _) _ (.error e)
    | ok found =>
      cases cached with
      | true => exact keeping
      | false =>
        -- There is no cache to keep it in, so the lookup is through.
        exact afterLookup false rfl _ (.ok found)
  | keeping => exact afterLookup false (List.append_nil _) _ (.ok _)
  | placing hit =>
    simp only [PlacingCall.act]
    cases store.create chances.draws _ chances.wall with
    | none => simpa using placing hit
    | some created => simpa using placed hit created.1
  | invalid e => exact invalid e
  | notFetched hit e => simpa [PlacingCall.act] using notFetched hit e
  | notListed hit id => simpa [PlacingCall.act] using notListed hit id
  | placed hit order => simpa [PlacingCall.act] using placed hit order

/-- A call records nothing but the counters of calls. -/
theorem all_isOfCalls {phase : PlacingPhase} {items : List Recording}
    (h : Incurs cached phase items) : items.all Recording.isOfCalls = true := by
  cases h <;> cases cached <;> rfl

end Incurs

namespace PlacingCall

variable {σ : Type} (source : MarketSource σ) (ttl : Nanos) (cached : Bool) (c : PlacingCall)
  (chances : Chances) (store : OrderStore) (markets : Cached σ)

theorem afterLookup_store (new : NewOrder) {owed : List Recording}
    (howed : ∀ pick, Recording.total (Counter.isOrder pick) owed = 0)
    (outcome : Except LookupError (List Market)) :
    let next := afterLookup new store markets owed outcome
    next.store = store ∧ ∀ pick, Recording.total (Counter.isOrder pick) next.owed = 0 := by
  cases outcome with
  | error e =>
    refine ⟨rfl, fun pick => ?_⟩
    simp [afterLookup, failed, howed pick, Recording.addsTo, Counter.isOrder]
  | ok found =>
    simp only [afterLookup]
    split
    · refine ⟨rfl, fun pick => ?_⟩
      simp [howed pick, Recording.addsTo, Counter.isOrder]
    · refine ⟨rfl, fun pick => ?_⟩
      simp [failed, howed pick, Recording.addsTo, Counter.isOrder]

/-- A step of a call stores an order, which it has to record, or neither. -/
theorem act_store :
    let next := c.act source ttl cached chances store markets
    (next.store = store ∧ ∀ pick, Recording.total (Counter.isOrder pick) next.owed = 0) ∨
    ∃ draws new order, store.create draws new chances.wall = some (order, next.store) ∧
      next.owed = [.count (.ordersCreated order.orderType)] := by
  have hlookup : ∀ before after : LookupPhase, ∀ pick,
      Recording.total (Counter.isOrder pick) (before.recordings after) = 0 := by
    intro before after pick
    unfold LookupPhase.recordings
    split <;> rfl
  unfold act
  cases c.phase with
  | arrived =>
    cases Rpc.validated c.request with
    | error e => exact .inl ⟨rfl, fun _ => rfl⟩
    | ok valid => exact .inl ⟨rfl, fun _ => rfl⟩
  | lookingUp new lookup =>
    dsimp only [goOn]
    split
    · exact .inl ⟨rfl, hlookup _ _⟩
    · exact .inl (afterLookup_store _ _ new (hlookup _ _) _)
  | placing new =>
    dsimp only
    cases hcreate : store.create chances.draws new chances.wall with
    | none => exact .inl ⟨rfl, fun _ => rfl⟩
    | some created => exact .inr ⟨_, _, created.1, hcreate, rfl⟩
  | answered answer => exact .inl ⟨rfl, fun _ => rfl⟩

end PlacingCall

/-! ## Items that agree -/

/-- Of some recordings those of calls agree with each other, when so many calls are over. -/
structure Reconciled (cached : Bool) (answered : Nat) (recorded : List Recording) : Prop where
  /-- Every call made an order or failed. -/
  answers : answered = Recording.total (Counter.isOrder fun _ => true) recorded +
    Recording.total Counter.isFailure recorded
  /-- A lookup that succeeded led to an order, unless the market was not listed. -/
  found : Recording.times (.marketLookups true) recorded =
    Recording.total (Counter.isOrder fun _ => true) recorded +
      Recording.times (.createFailures "MARKET_NOT_FOUND") recorded
  /-- A lookup that failed is why the call did. -/
  unfound : Recording.times (.marketLookups false) recorded =
    Recording.times (.createFailures "UNKNOWN") recorded
  /-- If there is a cache, it was asked in every lookup. -/
  lookups : cached = true →
    Recording.times (.cacheLookups true) recorded + Recording.times (.cacheLookups false) recorded =
      Recording.times (.marketLookups true) recorded +
        Recording.times (.marketLookups false) recorded

namespace Reconciled

variable {cached : Bool} {n n' : Nat} {recorded recorded' : List Recording}

theorem nil : Reconciled cached 0 [] :=
  ⟨rfl, rfl, rfl, fun _ => rfl⟩

theorem append (h : Reconciled cached n recorded) (h' : Reconciled cached n' recorded') :
    Reconciled cached (n + n') (recorded ++ recorded') := by
  obtain ⟨hanswers, hfound, hunfound, hlookups⟩ := h
  obtain ⟨hanswers', hfound', hunfound', hlookups'⟩ := h'
  refine ⟨?_, ?_, ?_, fun hcached => ?_⟩
  · rw [Recording.total_append, Recording.total_append]
    omega
  · rw [Recording.times_append, Recording.total_append, Recording.times_append]
    omega
  · rw [Recording.times_append, Recording.times_append, hunfound, hunfound']
  · have hlookups := hlookups hcached
    have hlookups' := hlookups' hcached
    simp only [Recording.times_append]
    omega

end Reconciled

/-- The items of a call that has its answer agree. -/
theorem Incurs.reconciled {cached : Bool} {answer : Except RpcStatus CreateReply}
    {items : List Recording} (h : Incurs cached (.answered answer) items) :
    Reconciled cached 1 items := by
  cases h with
  | invalid e => exact ⟨rfl, rfl, rfl, fun _ => rfl⟩
  | notFetched hit e =>
    cases cached <;> cases hit <;> exact ⟨rfl, rfl, rfl, by simp [cacheItems, Recording.addsTo]⟩
  | notListed hit id =>
    cases cached <;> cases hit <;> exact ⟨rfl, rfl, rfl, by simp [cacheItems, Recording.addsTo]⟩
  | placed hit order =>
    cases cached <;> cases hit <;> exact ⟨rfl, rfl, rfl, by simp [cacheItems, Recording.addsTo]⟩

/-! ## The items of all calls -/

section
variable {α β : Type}

/-- What changes at one place of a list changes what is made of the list by as much. -/
theorem flatMap_set_perm {f : α → List β} {l : List α} {k : Nat} {a b : α} {more : List β}
    (hk : l[k]? = some a) (hb : (f b).Perm (f a ++ more)) :
    ((l.set k b).flatMap f).Perm (l.flatMap f ++ more) := by
  induction l generalizing k with
  | nil => cases hk
  | cons x l ih =>
    cases k with
    | zero =>
      obtain rfl : x = a := by simpa using hk
      rw [List.set_cons_zero, List.flatMap_cons, List.flatMap_cons, List.append_assoc]
      refine (hb.append_right _).trans ?_
      rw [List.append_assoc]
      exact List.perm_append_comm.append_left _
    | succ k =>
      rw [List.set_cons_succ, List.flatMap_cons, List.flatMap_cons, List.append_assoc]
      exact (ih (by simpa using hk)).append_left _

end

/-- The items of calls that have their answers agree. -/
theorem reconciled_flatMap_bill {cached : Bool} {calls : List PlacingCall}
    (h : ∀ c ∈ calls, ∃ answer, Incurs cached (.answered answer) c.bill) :
    Reconciled cached calls.length (calls.flatMap PlacingCall.bill) := by
  induction calls with
  | nil => exact .nil
  | cons c calls ih =>
    obtain ⟨hc, hcalls⟩ := List.forall_mem_cons.1 h
    obtain ⟨answer, hitems⟩ := hc
    rw [List.flatMap_cons, List.length_cons, Nat.add_comm]
    exact hitems.reconciled.append (ih hcalls)

end OrderDesk
