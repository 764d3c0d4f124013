import OrderDesk.Order.Policy
import OrderDesk.Proofs.Desk.History
import OrderDesk.Proofs.Subscription.Tracks

/-!
# Following an order

What a subscription that was accepted shows in the course of any history of the desk, with any other
subscriptions, creations, passes, turns and touches in between. `Desk.trace` collects what its
poller shows, and `updates_follow_order` is what a subscriber may count on.
-/

namespace OrderDesk.Desk

open Signal Subscription

/-- What an event shows of a subscription. -/
def signals (desk : Desk) (i : Nat) (event : Event) : List Signal :=
  match desk.subscriptions[i]?, event.moveOf i with
  | some s, some move => s.signals desk.reader move
  | _, _ => []

/-- What a history shows of a subscription. -/
def trace (desk : Desk) (i : Nat) : List Event → List Signal
  | [] => []
  | event :: events => desk.signals i event ++ (desk.step event).trace i events

theorem trace_append (desk : Desk) (i : Nat) (events later : List Event) :
    desk.trace i (events ++ later) = desk.trace i events ++ (desk.run events).trace i later := by
  induction events generalizing desk with
  | nil => rfl
  | cons event events ih => rw [List.cons_append, trace, ih, trace, List.append_assoc, run_cons]

/-- What a subscriber may count on, given the subscription as it is and what was shown of it. -/
structure Follows (s : Subscription) (shown : List Signal) : Prop where
  /-- Every update says of the order what the poll right before it found. -/
  faithful : Faithful s.query.orderId shown
  /-- The statuses go on along the lifecycle, and nothing comes after a last one. -/
  rising : (updates shown ++ s.phase.pending).Pairwise fun u v =>
    u.status.stage < v.status.stage ∧ u.status.isTerminal = false
  /-- An order is not told to be both filled and rejected. -/
  oneEnd : ∀ u ∈ updates shown, ∀ v ∈ updates shown, u.status = .filled → v.status ≠ .rejected
  /-- Three updates are made at most. -/
  atMostThree : (updates shown ++ s.phase.pending).length ≤ 3
  /-- What waits in the queue is the end of what was put there. -/
  queue : s.queue <:+ updates shown
  /-- The poller does not end before one side gives the subscription up. -/
  lives : s.cancelled = false → s.receiverOpen = true → s.period ≠ 0 → s.phase ≠ .ended
  /-- A queue for three has always room for what is to be queued. -/
  neverWaits : 3 ≤ s.capacity → s.cancelled = false → s.receiverOpen = true → ∀ update,
    s.phase = .sending update → ∀ read now, (s.turn read now).2 = .queued update
  /-- Once a poll and its update are through, the last update says what the poll found. -/
  latest : s.phase = .waiting → ∀ found, (polls shown).getLast? = some found →
    ∃ order, found = .ok order ∧
      (updates shown).getLast? = some ⟨s.query.orderId, order.status, order.updatedAt⟩

theorem follows_of_tracks {store : OrderStore} {s : Subscription} {shown : List Signal}
    (h : Tracks store s shown) : Follows s shown := by
  have hmost := h.rising.length_le h.specified
  refine
    { faithful := h.faithful
      rising := h.rising.imp fun hlt => ⟨hlt, OrderStatus.isTerminal_eq_false_of_stage_lt hlt⟩
      oneEnd := fun u hu v hv hfilled hrejected => ?_
      atMostThree := hmost
      queue := h.queue
      lives := fun hcancelled hopen hperiod hp => ?_
      neverWaits := fun hc hcancelled hopen update hp read now => ?_
      latest := fun hp found hf => ?_ }
  · have hstage : u.status.stage = v.status.stage := by rw [hfilled, hrejected]; rfl
    have huv := h.rising.eq_of_stage_eq (List.mem_append_left _ hu) (List.mem_append_left _ hv)
      hstage
    rw [huv, hrejected] at hfilled
    cases hfilled
  · rcases h.lives hp with hw | h0
    · simp [isWanted, hcancelled, hopen] at hw
    · exact hperiod h0
  · have hroom : s.hasRoom = true := by
      have hle := h.queue.length_le
      simp only [hp, PollerPhase.pending, List.length_append, List.length_singleton] at hmost
      simp only [hasRoom, decide_eq_true_eq]
      omega
    simp [turn, hp, hcancelled, hopen, hroom]
  · have hlatest := h.latest (by simp [hp])
    simp only [hp, PollerPhase.pending, List.append_nil, hf] at hlatest
    rcases hlatest with ⟨hnone, -, -⟩ | ⟨order, current, hfound, hget, hages, -, hlast⟩
    · cases hnone
    · cases hfound
      have hid := h.coherent.id_of_get? (OrderStore.get_eq_ok_iff.1 hget)
      refine ⟨order, rfl, ?_⟩
      rw [hlast, Order.toUpdate, ← hages.sameTerms.id, hid]

/-! ## The invariant at a desk -/

theorem tracks_step {desk : Desk} {i : Nat} {s : Subscription} {shown : List Signal}
    (hs : desk.subscriptions[i]? = some s) (h : Tracks desk.store s shown) (event : Event) :
    ∃ s', (desk.step event).subscriptions[i]? = some s' ∧ s'.query = s.query ∧
      Tracks (desk.step event).store s' (shown ++ desk.signals i event) := by
  obtain ⟨ops, hops⟩ := desk.exists_run_step event
  refine ⟨_, getElem?_step hs event, ?_⟩
  rw [hops, signals, hs]
  cases event.moveOf i with
  | none =>
    refine ⟨rfl, ?_⟩
    rw [List.append_nil]
    exact h.run ops
  | some move => exact ⟨s.query_step _ move, (h.step move).run ops⟩

theorem tracks_run {desk : Desk} {i : Nat} {s : Subscription} {shown : List Signal}
    (hs : desk.subscriptions[i]? = some s) (h : Tracks desk.store s shown) (events : List Event) :
    ∃ s', (desk.run events).subscriptions[i]? = some s' ∧ s'.query = s.query ∧
      Tracks (desk.run events).store s' (shown ++ desk.trace i events) := by
  induction events generalizing desk s shown with
  | nil => exact ⟨s, hs, rfl, by rwa [trace, List.append_nil]⟩
  | cons event events ih =>
    obtain ⟨s₁, hs₁, hq₁, h₁⟩ := tracks_step hs h event
    obtain ⟨s₂, hs₂, hq₂, h₂⟩ := ih hs₁ h₁
    refine ⟨s₂, hs₂, hq₂.trans hq₁, ?_⟩
    rwa [trace, ← List.append_assoc]

/-- Every poll that is shown found what the store of the desk held at that point of the history. -/
theorem exists_run_of_mem_polls {desk : Desk} {i : Nat} {s : Subscription}
    (hs : desk.subscriptions[i]? = some s) {events : List Event} {found : Except StoreError Order}
    (hf : found ∈ polls (desk.trace i events)) :
    ∃ part, part <+: events ∧ found = (desk.run part).store.get s.query.orderId := by
  induction events generalizing desk s with
  | nil => cases hf
  | cons event events ih =>
    rw [trace, polls, List.filterMap_append] at hf
    rcases List.mem_append.1 hf with hf | hf
    · refine ⟨[], List.nil_prefix, ?_⟩
      rw [signals, hs] at hf
      cases hm : event.moveOf i with
      | none => simp [hm] at hf
      | some move =>
        rw [hm] at hf
        exact eq_read_of_mem_polls hf
    · obtain ⟨part, hpart, hfound⟩ := ih (getElem?_step hs event) hf
      have hquery : (((event.moveOf i).map (s.step desk.reader)).getD s).query = s.query := by
        cases event.moveOf i <;> simp
      rw [hquery] at hfound
      exact ⟨event :: part, List.cons_prefix_cons.2 ⟨rfl, hpart⟩, hfound⟩

/-- A subscription that is accepted is the last one in the list, and begins. -/
theorem subscribe_eq_ok {desk : Desk} {read : OrderReader} {query : OrderQuery} {now : Nanos}
    {i : Nat} (h : (desk.subscribe read query now).1 = .ok i) :
    Service.admission read query = .ok () ∧
      (desk.subscribe read query now).2.store = desk.store ∧
      (desk.subscribe read query now).2.subscriptions[i]? = some
        (Subscription.start query desk.pollInterval desk.bufferCapacity now desk.isShutDown) := by
  unfold subscribe at h ⊢
  cases ha : Service.admission read query with
  | error e => simp [ha] at h
  | ok u =>
    simp only [ha, Except.ok.injEq] at h
    subst h
    exact ⟨rfl, rfl, by simp⟩

/-- **What a subscriber may count on.** Whatever happens at the desk after a subscription was
accepted, its updates tell what its polls found of the order at the time, they go on along the
lifecycle, and they end with what the last poll found. -/
theorem updates_follow_order {desk : Desk} (h : desk.Reachable) {query : OrderQuery} {now : Nanos}
    {i : Nat} (hi : (desk.subscribe desk.reader query now).1 = .ok i) (events : List Event) :
    ∃ s, ((desk.subscribe desk.reader query now).2.run events).subscriptions[i]? = some s ∧
      s.query = query ∧
      Follows s ((desk.subscribe desk.reader query now).2.trace i events) ∧
      ∀ found ∈ polls ((desk.subscribe desk.reader query now).2.trace i events),
        ∃ part, part <+: events ∧ found =
          ((desk.subscribe desk.reader query now).2.run part).store.get query.orderId := by
  obtain ⟨ha, hstore, hs⟩ := subscribe_eq_ok hi
  have hstart := Tracks.start h.store.coherent ha desk.pollInterval desk.bufferCapacity now
    desk.isShutDown
  rw [← hstore] at hstart
  obtain ⟨s, hsub, hquery, htracks⟩ := tracks_run hs hstart events
  exact ⟨s, hsub, hquery, follows_of_tracks htracks, fun found hf => exists_run_of_mem_polls hs hf⟩

/-- A desk with one order, whose subscriptions have room for one update. -/
def narrowDesk : Desk :=
  (Desk.make 10 1 10).run
    [.atStore (.create [⟨.ofNat 1⟩] ⟨⟨.nil⟩, ⟨.nil⟩, .limit, .ofNat 3, 5⟩ .epoch)]

/-- The query of the owner of that order. -/
def ownQuery : OrderQuery := ⟨⟨.ofNat 1⟩, ⟨.nil⟩⟩

/-- The poller stalls on the full queue while the order is filled. -/
def stall : List Event :=
  let fill := Event.pass (Policy.fixed .fill) .epoch
  [.pollerTurn 0 0, .pollerTurn 0 0, fill, .pollerTurn 0 10, .pollerTurn 0 10, fill,
    .receive 0, .pollerTurn 0 10, .receive 0, .pollerTurn 0 20, .pollerTurn 0 20]

theorem updates_follow_order_through_stall :
    (∃ s, ((narrowDesk.subscribe narrowDesk.reader ownQuery 0).2.run stall).subscriptions[0]? =
        some s ∧ s.query = ownQuery ∧
      Follows s ((narrowDesk.subscribe narrowDesk.reader ownQuery 0).2.trace 0 stall) ∧
      ∀ found ∈ polls ((narrowDesk.subscribe narrowDesk.reader ownQuery 0).2.trace 0 stall),
        ∃ part, part <+: stall ∧ found =
          ((narrowDesk.subscribe narrowDesk.reader ownQuery 0).2.run part).store.get
            ownQuery.orderId) ∧
    (updates ((narrowDesk.subscribe narrowDesk.reader ownQuery 0).2.trace 0 stall)).map
      OrderUpdate.status = [.created, .pending, .filled] :=
  ⟨updates_follow_order ⟨10, 1, 10, _, rfl⟩ rfl stall, by decide⟩

end OrderDesk.Desk
