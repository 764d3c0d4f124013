import OrderDesk.Proofs.Rpc.Bills
import OrderDesk.Proofs.Store.Census

/-!
# The metrics tell what happened

Calls to place orders come and go at a desk that was just set up, each of them in turns, while
passes move the orders on and subscriptions come and go. `Traffic.Kept` is what holds at every
moment: the metrics tell of what was recorded, by the calls or elsewhere; every stored order is an
item of some call, and every status that an order came to was recorded, as was every update that was
put on a queue (`Kept.step`, `Kept.run`).

Whenever no call is under way, the metrics therefore agree with the store and with each other
(`accounts_of_isOver`).
-/

namespace OrderDesk.Traffic

variable {σ : Type}

/-! ## What is kept -/

/-- What holds at every moment. -/
structure Kept (cached : Bool) (t : Traffic σ) : Prop where
  told : t.desk.metrics.Tell (t.calls.flatMap PlacingCall.recorded ++ t.elsewhere)
  /-- Every stored order is an item of a call, to be recorded if it was not yet. -/
  orders : ∀ pick : OrderType → Bool, t.desk.store.count (fun order => pick order.orderType) =
    Recording.total (Counter.isOrder pick) (t.calls.flatMap PlacingCall.bill)
  /-- Every status that an order came to was recorded. -/
  moved : ∀ status, Recording.times (.statusTransitions status) t.elsewhere =
    t.desk.store.count fun order => status.cameBy order.status
  /-- Every update was recorded that was put on a queue. -/
  streamed : ∀ status, Recording.times (.updatesStreamed status) t.elsewhere =
    t.queued.countP fun update => decide (update.status = status)
  /-- The counters of calls are the business of calls alone. -/
  apart : ∀ pick : Counter → Bool, (∀ c, pick c = true → c.isOfCalls = true) →
    Recording.total pick t.elsewhere = 0
  incurred : ∀ c ∈ t.calls, Incurs cached c.phase c.bill

namespace Kept

variable {source : MarketSource σ} {ttl : Nanos} {cached : Bool} {t : Traffic σ}

theorem start (pollInterval : Nanos) (bufferCapacity : Nat) (simulatorInterval : Nanos)
    (inner : σ) : Kept cached (Traffic.start pollInterval bufferCapacity simulatorInterval inner) :=
  { told := .initial
    orders := fun _ => rfl
    moved := fun _ => rfl
    streamed := fun _ => rfl
    apart := fun _ _ => rfl
    incurred := fun _ hc => absurd hc List.not_mem_nil }

/-- A call comes in with nothing recorded and nothing to record. -/
theorem call (h : t.Kept cached) (call : RequestId.Call) (request : WireCreateRequest) :
    Kept cached { t with calls := t.calls ++ [.start call request] } := by
  have hbill : (t.calls ++ [PlacingCall.start call request]).flatMap PlacingCall.bill =
      t.calls.flatMap PlacingCall.bill := by
    rw [List.flatMap_append]
    exact List.append_nil _
  have hrecorded : (t.calls ++ [PlacingCall.start call request]).flatMap PlacingCall.recorded =
      t.calls.flatMap PlacingCall.recorded := by
    rw [List.flatMap_append]
    exact List.append_nil _
  refine ⟨?_, ?_, h.moved, h.streamed, h.apart, ?_⟩
  · rw [hrecorded]
    exact h.told
  · rw [hbill]
    exact h.orders
  · exact List.forall_mem_append.2 ⟨h.incurred, List.forall_mem_singleton.2 .arrived⟩

section
variable {k : Nat} {c c' : PlacingCall}

theorem incurred_set (h : t.Kept cached) (hc' : Incurs cached c'.phase c'.bill) :
    ∀ d ∈ t.calls.set k c', Incurs cached d.phase d.bill := by
  intro d hd
  rcases List.mem_or_eq_of_mem_set hd with hd | rfl
  · exact h.incurred d hd
  · exact hc'

theorem total_bills_set (hk : t.calls[k]? = some c) {more : List Recording}
    (hbill : c'.bill = c.bill ++ more) (pick : Counter → Bool) :
    Recording.total pick ((t.calls.set k c').flatMap PlacingCall.bill) =
      Recording.total pick (t.calls.flatMap PlacingCall.bill) + Recording.total pick more := by
  rw [← Recording.total_append]
  exact Recording.total_perm pick (flatMap_set_perm hk (.of_eq hbill))

/-- What calls have recorded goes before what was recorded elsewhere. -/
theorem told_set {m : Metrics} (hk : t.calls[k]? = some c) {more : List Recording}
    (hrecorded : c'.recorded = c.recorded ++ more)
    (h : m.Tell (t.calls.flatMap PlacingCall.recorded ++ t.elsewhere ++ more)) :
    m.Tell ((t.calls.set k c').flatMap PlacingCall.recorded ++ t.elsewhere) := by
  refine h.of_perm (List.Perm.symm ?_)
  refine ((flatMap_set_perm hk (.of_eq hrecorded)).append_right t.elsewhere).trans ?_
  rw [List.append_assoc, List.append_assoc]
  exact List.perm_append_comm.append_left _

/-- A call records the first thing that it owes. -/
theorem record (h : t.Kept cached) (hk : t.calls[k]? = some c) {r : Recording}
    {owed : List Recording} (howed : c.owed = r :: owed) :
    Kept cached { t with
      desk := t.desk.record [r]
      calls := t.calls.set k { c with recorded := c.recorded ++ [r], owed } } := by
  -- What is owed becomes recorded, and the bill stays the same.
  have hbill : PlacingCall.bill { c with recorded := c.recorded ++ [r], owed } = c.bill := by
    simp [PlacingCall.bill, howed]
  have hincurs := h.incurred c (List.mem_of_getElem? hk)
  refine { told := ?_, orders := fun pick => ?_, moved := h.moved, streamed := h.streamed,
           apart := h.apart, incurred := h.incurred_set ?_ }
  · exact told_set hk rfl (h.told.record r)
  · rw [total_bills_set hk (hbill.trans (List.append_nil _).symm)]
    exact h.orders pick
  · rw [hbill]
    exact hincurs

/-- A call takes its next step. -/
theorem act (h : t.Kept cached) (hk : t.calls[k]? = some c) (howed : c.owed = [])
    (chances : Chances) :
    let next := c.act source ttl cached chances t.desk.store t.markets
    Kept cached { t with
      desk := { t.desk with store := next.store }
      markets := next.markets
      calls := t.calls.set k { c with phase := next.phase, owed := next.owed } } := by
  intro next
  -- Nothing is owed before the step, so the bill grows by what is owed after it.
  have hpaid : c.bill = c.recorded := by rw [PlacingCall.bill, howed, List.append_nil]
  have hbill : PlacingCall.bill { c with phase := next.phase, owed := next.owed } =
      c.bill ++ next.owed := by rw [hpaid, PlacingCall.bill]
  have hincurs := h.incurred c (List.mem_of_getElem? hk)
  rw [hpaid] at hincurs
  have hstore := c.act_store source ttl cached chances t.desk.store t.markets
  refine { told := ?_, orders := fun pick => ?_, moved := fun status => ?_,
           streamed := h.streamed, apart := h.apart, incurred := h.incurred_set ?_ }
  · refine told_set hk (List.append_nil _).symm ?_
    rw [List.append_nil]
    exact h.told
  · rw [total_bills_set hk hbill, ← h.orders pick]
    rcases hstore with ⟨hsame, hnone⟩ | ⟨draws, new, order, hcreate, howes⟩
    · rw [hnone pick, Nat.add_zero]
      exact congrArg (OrderStore.count · _) hsame
    · rw [howes, Recording.total_singleton]
      exact OrderStore.count_of_create hcreate _
  · rw [h.moved status]
    rcases hstore with ⟨hsame, -⟩ | ⟨draws, new, order, hcreate, -⟩
    · exact congrArg (OrderStore.count · _) hsame.symm
    · -- A new order has come to no status that is counted.
      have hcount := OrderStore.count_of_create hcreate fun order => status.cameBy order.status
      have hnew : order.status = .created := by
        obtain ⟨id, -, rfl, -⟩ := OrderStore.create_eq_some_iff.1 hcreate
        exact Order.status_create ..
      rw [hnew, status.cameBy_created] at hcount
      exact hcount.symm
  · rw [hbill, hpaid]
    exact hincurs.act

end

/-- Something else happens at the desk. -/
theorem atDesk (h : t.Kept cached) {event : Desk.Event} (hevent : event.isRoutine = true) :
    Kept cached { t with
      desk := t.desk.step event
      elsewhere := t.elsewhere ++ t.desk.recordings event
      queued := t.queued ++ t.desk.queued event } := by
  have htotal := t.desk.total_recordings hevent
  refine { told := ?_, orders := fun pick => ?_, moved := fun status => ?_,
           streamed := fun status => ?_, apart := fun pick hpick => ?_, incurred := h.incurred }
  · rw [t.desk.metrics_step hevent, ← List.append_assoc]
    exact h.told.recordAll _
  · rw [← h.orders pick]
    exact t.desk.count_step_of_sameTerms hevent fun a b hab => by rw [hab.orderType]
  · have hchanges : Recording.times (.statusTransitions status) (t.desk.recordings event) =
        (t.desk.transitions event).countP fun change => decide (change.after = status) := by
      rw [Recording.times, htotal]
      simp [eq_comm]
    rw [Recording.times_append, h.moved, hchanges]
    exact (t.desk.count_step_cameBy hevent status).symm
  · have hupdates : Recording.times (.updatesStreamed status) (t.desk.recordings event) =
        (t.desk.queued event).countP fun update => decide (update.status = status) := by
      rw [Recording.times, htotal]
      simp [eq_comm]
    rw [Recording.times_append, h.streamed, hupdates, List.countP_append]
  · have hnone : ∀ c : Counter, c.isOfCalls = false → pick c = false := by
      intro c hc
      cases hp : pick c with
      | false => rfl
      | true => exact absurd (hpick c hp) (by rw [hc]; exact Bool.false_ne_true)
    have hchange : ∀ status, pick (.statusTransitions status) = false := fun _ => hnone _ rfl
    have hupdate : ∀ status, pick (.updatesStreamed status) = false := fun _ => hnone _ rfl
    rw [Recording.total_append, h.apart pick hpick, htotal]
    simp [hchange, hupdate]

theorem step (h : t.Kept cached) (event : Event) :
    (t.step source ttl cached event).Kept cached := by
  cases event with
  | call call request => exact h.call call request
  | atDesk event routine => exact h.atDesk routine
  | turn k chances =>
    rw [Traffic.step]
    cases hk : t.calls[k]? with
    | none => exact h
    | some c =>
      dsimp only
      unfold callTurn
      split
      · next r owed howed => exact h.record hk howed
      · next howed => exact h.act hk howed chances

/-- At every moment of every run, the books are kept. -/
theorem run (h : t.Kept cached) (events : List Event) :
    (t.run source ttl cached events).Kept cached := by
  induction events generalizing t with
  | nil => exact h
  | cons event events ih => exact ih (h.step event)

end Kept

/-! ## When no call is under way -/

/-- The metrics agree with the store, with the queues and with each other. -/
structure Accounts (cached : Bool) (t : Traffic σ) : Prop where
  orders : t.desk.metrics.total (Counter.isOrder fun _ => true) = t.desk.store.size
  ordersOfType : ∀ orderType, t.desk.metrics.value (.ordersCreated orderType) =
    t.desk.store.count fun order => decide (order.orderType = orderType)
  pending : t.desk.metrics.value (.statusTransitions .pending) =
    t.desk.store.count fun order => decide (order.status ≠ .created)
  filled : t.desk.metrics.value (.statusTransitions .filled) =
    t.desk.store.count fun order => decide (order.status = .filled)
  rejected : t.desk.metrics.value (.statusTransitions .rejected) =
    t.desk.store.count fun order => decide (order.status = .rejected)
  /-- Every call made an order or failed. -/
  calls : t.calls.length = t.desk.metrics.total (Counter.isOrder fun _ => true) +
    t.desk.metrics.total Counter.isFailure
  /-- A lookup that succeeded led to an order, unless the market was not listed. -/
  found : t.desk.metrics.value (.marketLookups true) =
    t.desk.metrics.total (Counter.isOrder fun _ => true) +
      t.desk.metrics.value (.createFailures "MARKET_NOT_FOUND")
  /-- A lookup that failed is why a call did. -/
  unfound : t.desk.metrics.value (.marketLookups false) =
    t.desk.metrics.value (.createFailures "UNKNOWN")
  /-- If there is a cache, it was asked in every lookup. -/
  lookups : cached = true →
    t.desk.metrics.value (.cacheLookups true) + t.desk.metrics.value (.cacheLookups false) =
      t.desk.metrics.value (.marketLookups true) + t.desk.metrics.value (.marketLookups false)
  updates : ∀ status, t.desk.metrics.value (.updatesStreamed status) =
    t.queued.countP fun update => decide (update.status = status)

namespace Kept

variable {cached : Bool} {t : Traffic σ} (h : t.Kept cached)
  (hover : ∀ c ∈ t.calls, c.isOver = true)
include h

/-- A status or an update is counted wherever calls are not. -/
theorem value_of_not_isOfCalls {c : Counter} (hc : c.isOfCalls = false) :
    t.desk.metrics.value c = Recording.times c t.elsewhere := by
  have hnone : Recording.times c (t.calls.flatMap PlacingCall.recorded) = 0 := by
    refine List.countP_eq_zero.2 fun r hr => ?_
    obtain ⟨d, hd, hrd⟩ := List.mem_flatMap.1 hr
    have hcalls : r.isOfCalls = true :=
      List.all_eq_true.1 (h.incurred d hd).all_isOfCalls r (List.mem_append_left _ hrd)
    intro hadds
    cases r with
    | setActive n => cases hadds
    | count c' =>
      obtain rfl : c = c' := of_decide_eq_true hadds
      rw [Recording.isOfCalls, hc] at hcalls
      cases hcalls
  rw [h.told.value, Recording.times_append, hnone, Nat.zero_add]

include hover

/-- Calls that are over have recorded all that they had to. -/
theorem told_bills : t.desk.metrics.Tell (t.calls.flatMap PlacingCall.bill ++ t.elsewhere) := by
  have hbills : t.calls.flatMap PlacingCall.bill = t.calls.flatMap PlacingCall.recorded := by
    rw [List.flatMap_def, List.flatMap_def]
    refine congrArg List.flatten (List.map_congr_left fun c hc => ?_)
    obtain ⟨-, -, howed⟩ := PlacingCall.isOver_eq_true_iff.1 (hover c hc)
    rw [PlacingCall.bill, howed, List.append_nil]
  rw [hbills]
  exact h.told

theorem reconciled : Reconciled cached t.calls.length (t.calls.flatMap PlacingCall.bill) := by
  refine reconciled_flatMap_bill fun c hc => ?_
  obtain ⟨answer, hphase, -⟩ := PlacingCall.isOver_eq_true_iff.1 (hover c hc)
  exact ⟨answer, hphase ▸ h.incurred c hc⟩

theorem total_of_isOfCalls {pick : Counter → Bool}
    (hpick : ∀ c, pick c = true → c.isOfCalls = true) :
    t.desk.metrics.total pick = Recording.total pick (t.calls.flatMap PlacingCall.bill) := by
  rw [(h.told_bills hover).total, Recording.total_append, h.apart pick hpick, Nat.add_zero]

theorem value_of_isOfCalls {c : Counter} (hc : c.isOfCalls = true) :
    t.desk.metrics.value c = Recording.times c (t.calls.flatMap PlacingCall.bill) := by
  have hnone : Recording.times c t.elsewhere = 0 :=
    h.apart _ fun d hd => of_decide_eq_true hd ▸ hc
  rw [(h.told_bills hover).value, Recording.times_append, hnone, Nat.add_zero]

/-- What was recorded by calls agrees because their bills do, and the rest because it was kept. -/
theorem accounts : t.Accounts cached := by
  have horders : t.desk.metrics.total (Counter.isOrder fun _ => true) =
      Recording.total (Counter.isOrder fun _ => true) (t.calls.flatMap PlacingCall.bill) :=
    h.total_of_isOfCalls hover fun _ => Counter.isOfCalls_of_isOrder
  have hfailures : t.desk.metrics.total Counter.isFailure =
      Recording.total Counter.isFailure (t.calls.flatMap PlacingCall.bill) :=
    h.total_of_isOfCalls hover fun _ => Counter.isOfCalls_of_isFailure
  have hcounter : ∀ c : Counter, c.isOfCalls = true → t.desk.metrics.value c =
      Recording.times c (t.calls.flatMap PlacingCall.bill) := fun c hc =>
    h.value_of_isOfCalls hover hc
  have hagree := h.reconciled hover
  refine { orders := ?_, ordersOfType := fun orderType => ?_, pending := ?_, filled := ?_,
           rejected := ?_, calls := ?_, found := ?_, unfound := ?_, lookups := fun hcached => ?_,
           updates := fun status => ?_ }
  · rw [horders, ← h.orders fun _ => true]
    exact congrFun List.countP_true _
  · have hpick : (fun d => decide (Counter.ordersCreated orderType = d)) =
        Counter.isOrder fun other => decide (other = orderType) := by
      funext d
      cases d <;> simp [Counter.isOrder, eq_comm]
    rw [hcounter _ rfl, Recording.times, hpick]
    exact (h.orders fun other => decide (other = orderType)).symm
  · rw [h.value_of_not_isOfCalls rfl]
    exact h.moved .pending
  · rw [h.value_of_not_isOfCalls rfl]
    exact h.moved .filled
  · rw [h.value_of_not_isOfCalls rfl]
    exact h.moved .rejected
  · rw [horders, hfailures]
    exact hagree.answers
  · rw [hcounter _ rfl, horders, hcounter _ rfl]
    exact hagree.found
  · rw [hcounter _ rfl, hcounter _ rfl]
    exact hagree.unfound
  · rw [hcounter _ rfl, hcounter _ rfl, hcounter _ rfl, hcounter _ rfl]
    exact hagree.lookups hcached
  · rw [h.value_of_not_isOfCalls rfl]
    exact h.streamed status

end Kept

/-- **The metrics tell what happened.** Whatever calls came to a desk that was just set up, however
they took their turns, and whatever passes and subscriptions came between: whenever no call is under
way, the metrics agree with the store, with what was put on queues, and with each other. -/
theorem accounts_of_isOver (source : MarketSource σ) (ttl : Nanos) (cached : Bool)
    (pollInterval : Nanos) (bufferCapacity : Nat) (simulatorInterval : Nanos) (inner : σ)
    (events : List Event) :
    let t := (start pollInterval bufferCapacity simulatorInterval inner).run source ttl cached
      events
    (∀ c ∈ t.calls, c.isOver = true) → t.Accounts cached := by
  intro t hover
  have hkept : t.Kept cached :=
    (Kept.start pollInterval bufferCapacity simulatorInterval inner).run events
  exact hkept.accounts hover

/-- A source that fails until it was asked once, and lists one market from then on. -/
def slowToWake : MarketSource Bool := fun _ _ awake =>
  { answer :=
      if awake then .ok [⟨⟨.nil⟩, "BTC-USDT", true, none, []⟩] else .error (.unavailable "down")
    state := true
    recorded := [] }

/-- Four calls that end in all four ways, two of them side by side, and a pass between the order of
the third and its recording. -/
def fourCalls : List Event :=
  let turns (k n : Nat) (now : Nanos) : List Event :=
    List.replicate n (.turn k ⟨now, .good, [⟨.ofNat 1⟩], .epoch⟩)
  let pass : Event := .atDesk (.pass (Policy.fixed .fill) .epoch) rfl
  let plain := Rpc.plainRequest
  let elsewhere := "00000000000000000000000000000009"
  [.call (.arriving []) plain, .call (.arriving []) { plain with marketId := elsewhere }] ++
    turns 0 2 0 ++ turns 1 2 0 ++ turns 0 2 0 ++ turns 1 3 0 ++ turns 0 2 0 ++ turns 1 2 0 ++
    [.call (.arriving []) plain, .call (.arriving []) { plain with quantity := 0 }] ++
    turns 2 5 1 ++ [pass] ++ turns 3 2 1 ++ turns 2 1 1 ++
    [.atDesk (.subscribe ⟨⟨.ofNat 1⟩, ⟨.nil⟩⟩ 0) rfl, pass, .atDesk (.pollerTurn 0 0) rfl,
      .atDesk (.pollerTurn 0 0) rfl, .atDesk (.pollerTurn 0 10) rfl, .atDesk (.pollerTurn 0 10) rfl]

theorem accounts_of_isOver_fourCalls :
    let t := (start 10 1 10 false).run slowToWake 100 true fourCalls
    (∀ c ∈ t.calls, c.isOver = true) ∧ t.Accounts true ∧
      t.desk.metrics.counts =
        [(.cacheLookups false, 2), (.marketLookups false, 1), (.createFailures "UNKNOWN", 1),
          (.marketLookups true, 2), (.createFailures "MARKET_NOT_FOUND", 1),
          (.cacheLookups true, 1), (.statusTransitions .pending, 1),
          (.createFailures "VALIDATION_FAILED", 1), (.ordersCreated .limit, 1),
          (.statusTransitions .filled, 1), (.updatesStreamed .filled, 1)] :=
  ⟨by decide, accounts_of_isOver slowToWake 100 true 10 1 10 false fourCalls (by decide), by decide⟩

end OrderDesk.Traffic
