import Mathlib.Data.List.Pairwise
import OrderDesk.Proofs.Store.History
import OrderDesk.Proofs.Subscription.Moves

/-!
# How a subscription follows its order

`Subscription.Tracks store s shown` links a subscription to the order that it follows and to what
its poller has shown so far. It holds from the start of a subscription that was admitted
(`Tracks.start`), whatever happens to the store (`Tracks.run`) and to the subscription
(`Tracks.step`).

The updates that were queued and the one about to be queued make one list. Its last entry is what
the last poll found, although the cursor moves before an update is queued: until then the poller
does not read again.
-/

namespace OrderDesk.Subscription

open Signal

/-- Every update is put on the queue right after a poll, and says what this poll found. -/
def Faithful (id : OrderId) (shown : List Signal) : Prop :=
  ∀ before update rest, shown = before ++ .queued update :: rest →
    ∃ order, before.getLast? = some (.polled (.ok order)) ∧
      update = ⟨id, order.status, order.updatedAt⟩

/-- The statuses of some updates rise. -/
def Rising (made : List OrderUpdate) : Prop :=
  made.Pairwise fun u v => u.status.stage < v.status.stage

/-- The last update made says what the last poll found, and the cursor stands there too. -/
def CaughtUp (store : OrderStore) (s : Subscription) (made : List OrderUpdate)
    (found : Option (Except StoreError Order)) : Prop :=
  (found = none ∧ s.lastSeen = none ∧ made = []) ∨
  ∃ order current, found = some (.ok order) ∧ store.get s.query.orderId = .ok current ∧
    order.Ages current ∧ s.lastSeen = some order.status ∧ made.getLast? = some order.toUpdate

/-- What links a subscription to its order and to what was shown of it. -/
structure Tracks (store : OrderStore) (s : Subscription) (shown : List Signal) : Prop where
  coherent : store.Coherent
  /-- The order is there and belongs to the subscriber. -/
  stored : ∃ order, store.get s.query.orderId = .ok order ∧ order.userId = s.query.userId
  faithful : Faithful s.query.orderId shown
  /-- What is about to be queued is what was found just before. -/
  sends : ∀ update, s.phase = .sending update → ∃ order,
    shown.getLast? = some (.polled (.ok order)) ∧
      update = ⟨s.query.orderId, order.status, order.updatedAt⟩
  rising : Rising (updates shown ++ s.phase.pending)
  specified : ∀ update ∈ updates shown ++ s.phase.pending, update.status ≠ .unspecified
  /-- What waits in the queue is the end of what was put there. -/
  queue : s.queue <:+ updates shown
  /-- No poller ends while it is wanted. -/
  lives : s.phase = .ended → s.isWanted = false ∨ s.period = 0
  /-- A poller that has not ended is caught up. -/
  latest : s.phase ≠ .ended →
    CaughtUp store s (updates shown ++ s.phase.pending) (polls shown).getLast?

/-! ## Updates that rise -/

theorem Rising.stage_le {made : List OrderUpdate} (h : Rising made) {last : OrderUpdate}
    (hl : made.getLast? = some last) {u : OrderUpdate} (hu : u ∈ made) :
    u.status.stage ≤ last.status.stage := by
  obtain ⟨init, rfl⟩ := List.getLast?_eq_some_iff.1 hl
  rcases List.mem_append.1 hu with hu | hu
  · exact Nat.le_of_lt ((List.pairwise_append.1 h).2.2 u hu last (by simp))
  · obtain rfl := List.mem_singleton.1 hu
    exact Nat.le_refl _

/-- What lies further along than the last update rises too. -/
theorem Rising.concat {made : List OrderUpdate} (h : Rising made) {next : OrderUpdate}
    (hn : ∀ last, made.getLast? = some last → last.status.stage < next.status.stage) :
    Rising (made ++ [next]) := by
  refine List.pairwise_append.2 ⟨h, List.pairwise_singleton _ _, fun u hu v hv => ?_⟩
  rw [List.mem_singleton.1 hv]
  obtain ⟨last, hl⟩ := Option.ne_none_iff_exists'.1
    (mt List.getLast?_eq_none_iff.1 (List.ne_nil_of_mem hu))
  exact Nat.lt_of_le_of_lt (h.stage_le hl hu) (hn last hl)

theorem Rising.eq_of_stage_eq {made : List OrderUpdate} (h : Rising made) {u v : OrderUpdate}
    (hu : u ∈ made) (hv : v ∈ made) (hs : u.status.stage = v.status.stage) : u = v := by
  have hdistinct : made.Pairwise fun u v => u.status.stage ≠ v.status.stage :=
    h.imp Nat.ne_of_lt
  have hsymm : Std.Symm fun u v : OrderUpdate => u.status.stage ≠ v.status.stage :=
    ⟨fun _ _ => Ne.symm⟩
  by_contra hne
  exact hdistinct.forall hu hv hne hs

/-- There are three stages, so at most three updates. -/
theorem Rising.length_le {made : List OrderUpdate} (h : Rising made)
    (hs : ∀ update ∈ made, update.status ≠ .unspecified) : made.length ≤ 3 := by
  have hn : (made.map fun u => u.status.stage).Nodup := by
    rw [List.Nodup, List.pairwise_map]
    exact h.imp fun hlt => Nat.ne_of_lt hlt
  have hsub : (made.map fun u => u.status.stage) ⊆ [1, 2, 3] := by
    intro n hm
    obtain ⟨u, hu, rfl⟩ := List.mem_map.1 hm
    have h1 := OrderStatus.one_le_stage (hs u hu)
    have h3 := u.status.stage_le
    simp only [List.mem_cons, List.not_mem_nil, or_false]
    omega
  simpa using hn.length_le_of_subset hsub

/-! ## Faithful signals -/

theorem Faithful.nil (id : OrderId) : Faithful id [] := by
  intro before update rest h
  simp at h

theorem Faithful.polled {id : OrderId} {shown : List Signal} (h : Faithful id shown)
    (found : Except StoreError Order) : Faithful id (shown ++ [.polled found]) := by
  intro before update rest heq
  rcases List.eq_nil_or_concat rest with rfl | ⟨rest, last, rfl⟩
  · simp at heq
  · rw [List.concat_eq_append, ← List.cons_append, ← List.append_assoc] at heq
    exact h before update rest (List.append_inj_left' heq rfl)

theorem Faithful.queued {id : OrderId} {shown : List Signal} (h : Faithful id shown)
    {order : Order} (hl : shown.getLast? = some (.polled (.ok order))) :
    Faithful id (shown ++ [.queued ⟨id, order.status, order.updatedAt⟩]) := by
  intro before update rest heq
  rcases List.eq_nil_or_concat rest with rfl | ⟨rest, last, rfl⟩
  · obtain ⟨rfl, hu⟩ := List.append_inj' heq rfl
    cases hu
    exact ⟨order, hl, rfl⟩
  · rw [List.concat_eq_append, ← List.cons_append, ← List.append_assoc] at heq
    exact h before update rest (List.append_inj_left' heq rfl)

/-! ## The start -/

namespace Tracks

theorem start {store : OrderStore} (hs : store.Coherent) {query : OrderQuery}
    (ha : Service.admission store.get query = .ok ()) (period : Nanos) (capacity : Nat)
    (now : Nanos) (cancelled : Bool) :
    Tracks store (Subscription.start query period capacity now cancelled) [] := by
  have hstored : ∃ order, store.get query.orderId = .ok order ∧ order.userId = query.userId := by
    unfold Service.admission Service.authorize at ha
    cases hg : store.get query.orderId with
    | error e => simp [hg] at ha
    | ok order => exact ⟨order, rfl, by simpa [hg, Order.isOwnedBy] using ha⟩
  exact
    { coherent := hs
      stored := hstored
      faithful := .nil _
      sends := fun _ h => by cases h
      rising := List.Pairwise.nil
      specified := fun _ h => by cases h
      queue := List.nil_suffix
      lives := fun h => by cases h
      latest := fun _ => .inl ⟨rfl, rfl, rfl⟩ }

variable {store : OrderStore} {s : Subscription} {shown : List Signal}

/-! ## The store moves on -/

theorem run (h : Tracks store s shown) (ops : List OrderStore.Op) :
    Tracks (store.run ops) s shown := by
  obtain ⟨order, hget, howner⟩ := h.stored
  obtain ⟨later, hlater, hages⟩ := OrderStore.get_run hget ops
  refine { h with
    coherent := OrderStore.run_keeps (fun _ op hs => hs.step op) h.coherent ops
    stored := ⟨later, hlater, hages.sameTerms.userId.trans howner⟩
    latest := fun hp => ?_ }
  rcases h.latest hp with hnone | ⟨seen, current, hf, hc, hsc, hls, hlast⟩
  · exact .inl hnone
  · obtain ⟨next, hnext, hcn⟩ := OrderStore.get_run hc ops
    exact .inr ⟨seen, next, hf, hnext, hsc.trans hcn, hls, hlast⟩

/-! ## The subscription moves on -/

/-- Nothing is lost by what touches neither cursor nor phase and puts nothing on the queue. -/
theorem of_same {s' : Subscription} (h : Tracks store s shown) (hquery : s'.query = s.query)
    (hphase : s'.phase = s.phase) (hseen : s'.lastSeen = s.lastSeen)
    (hqueue : s'.queue <:+ s.queue) (hperiod : s'.period = s.period)
    (hwanted : s.isWanted = false → s'.isWanted = false) : Tracks store s' shown := by
  refine
    { coherent := h.coherent
      stored := by rw [hquery]; exact h.stored
      faithful := by rw [hquery]; exact h.faithful
      sends := by rw [hquery, hphase]; exact h.sends
      rising := by rw [hphase]; exact h.rising
      specified := by rw [hphase]; exact h.specified
      queue := hqueue.trans h.queue
      lives := by rw [hphase, hperiod]; exact fun hp => (h.lives hp).imp_left hwanted
      latest := ?_ }
  unfold CaughtUp
  rw [hquery, hphase, hseen]
  exact h.latest

theorem finish (h : Tracks store s shown) (he : s.Ends) : Tracks store s.finish shown := by
  have hinit : updates shown ++ s.finish.phase.pending <+: updates shown ++ s.phase.pending := by
    simp [Subscription.finish, PollerPhase.pending]
  exact
    { h with
      sends := fun _ hp => by cases hp
      rising := h.rising.sublist hinit.sublist
      specified := fun u hu => h.specified u (hinit.subset hu)
      lives := fun _ => he.unwanted
      latest := fun hp => absurd rfl hp }

/-- An update that is queued was about to be, so no update is made. -/
theorem queued (h : Tracks store s shown) {update : OrderUpdate}
    (hp : s.phase = .sending update) :
    Tracks store { s with queue := s.queue ++ [update], phase := .waiting }
      (shown ++ [.queued update]) := by
  have hmade : updates (shown ++ [.queued update]) ++ PollerPhase.waiting.pending =
      updates shown ++ s.phase.pending := by
    simp [hp, PollerPhase.pending]
  obtain ⟨order, hlast, rfl⟩ := h.sends update hp
  have hlatest := h.latest (by simp [hp])
  obtain ⟨front, hfront⟩ := h.queue
  exact
    { coherent := h.coherent
      stored := h.stored
      faithful := h.faithful.queued hlast
      sends := fun _ hp => by cases hp
      rising := by rw [hmade]; exact h.rising
      specified := by rw [hmade]; exact h.specified
      queue := ⟨front, by rw [updates_concat_queued, ← hfront, List.append_assoc]⟩
      lives := fun hp => by cases hp
      latest := fun _ => by rw [hmade, polls_concat_queued]; exact hlatest }

/-- A poll that sees nothing new found the order as the last update told it. -/
theorem polled_same (h : Tracks store s shown) (hp : s.phase = .waiting) {order : Order}
    (hget : store.get s.query.orderId = .ok order) (hl : s.lastSeen = some order.status) :
    Tracks store s (shown ++ [.polled (.ok order)]) := by
  have hlatest : CaughtUp store s (updates shown ++ s.phase.pending) (some (.ok order)) := by
    rcases h.latest (by simp [hp]) with ⟨-, hnone, -⟩ | ⟨seen, current, -, hc, hsc, hls, hlast⟩
    · rw [hnone] at hl
      cases hl
    · obtain rfl : current = order := Except.ok.inj (hc.symm.trans hget)
      rw [hls, Option.some.injEq] at hl
      -- the status is the same, so nothing else of the order changed since the last poll
      rcases hsc.eq_or_stage_lt with rfl | hlt
      · exact .inr ⟨current, current, rfl, hget, .refl, hls, hlast⟩
      · rw [hl] at hlt
        exact absurd hlt (Nat.lt_irrefl _)
  exact
    { coherent := h.coherent
      stored := h.stored
      faithful := h.faithful.polled _
      sends := fun _ hs => by rw [hp] at hs; cases hs
      rising := by rw [updates_concat_polled]; exact h.rising
      specified := by rw [updates_concat_polled]; exact h.specified
      queue := by rw [updates_concat_polled]; exact h.queue
      lives := h.lives
      latest := fun _ => by
        rw [updates_concat_polled, polls_concat_polled, List.getLast?_concat]
        exact hlatest }

/-- A poll that sees something new makes an update that lies further along. -/
theorem polled_new (h : Tracks store s shown) (hp : s.phase = .waiting) {order : Order}
    (hget : store.get s.query.orderId = .ok order) (hl : s.lastSeen ≠ some order.status) :
    Tracks store { s with lastSeen := some order.status, phase := .sending order.toUpdate }
      (shown ++ [.polled (.ok order)]) := by
  have hget? := OrderStore.get_eq_ok_iff.1 hget
  have hid := h.coherent.id_of_get? hget?
  have hmade : updates (shown ++ [.polled (.ok order)]) ++
      (PollerPhase.sending order.toUpdate).pending =
        (updates shown ++ s.phase.pending) ++ [order.toUpdate] := by
    simp [hp, PollerPhase.pending]
  have hrises : ∀ last, (updates shown ++ s.phase.pending).getLast? = some last →
      last.status.stage < order.toUpdate.status.stage := by
    intro last hlast
    rcases h.latest (by simp [hp]) with ⟨-, -, hnil⟩ | ⟨seen, current, -, hc, hsc, hls, htold⟩
    · rw [hnil] at hlast
      cases hlast
    · obtain rfl : current = order := Except.ok.inj (hc.symm.trans hget)
      obtain rfl : seen.toUpdate = last := Option.some.inj (htold.symm.trans hlast)
      rcases hsc.eq_or_stage_lt with rfl | hlt
      · exact absurd hls hl
      · exact hlt
  exact
    { coherent := h.coherent
      stored := h.stored
      faithful := h.faithful.polled _
      sends := fun update hs => by
        cases hs
        exact ⟨order, List.getLast?_concat, by simp [Order.toUpdate, hid]⟩
      rising := by
        rw [hmade]
        exact h.rising.concat hrises
      specified := by
        rw [hmade]
        intro u hu
        rcases List.mem_append.1 hu with hu | hu
        · exact h.specified u hu
        · rw [List.mem_singleton.1 hu]
          exact h.coherent.status_of_get? hget?
      queue := by rw [updates_concat_polled]; exact h.queue
      lives := fun hp => by cases hp
      latest := fun _ => by
        rw [hmade, polls_concat_polled, List.getLast?_concat]
        exact .inr ⟨order, order, rfl, hget, .refl, rfl, List.getLast?_concat⟩ }

/-- Whatever is done to a subscription, it keeps track of its order. -/
theorem step (h : Tracks store s shown) (move : Move) :
    Tracks store (s.step store.get move) (shown ++ s.signals store.get move) := by
  cases move with
  | turn now =>
    unfold Subscription.step signals
    rcases s.turn_cases store.get now with ⟨-, ht⟩ | ⟨he, ht⟩ | ⟨hp, -, -, -, ht⟩ |
      ⟨update, hp, -, -, ht⟩
    · simpa [ht] using h
    · simpa [ht] using h.finish he
    · obtain ⟨order, hget, howner⟩ := h.stored
      have hdue : Tracks store { s with nextPoll := nextDue s.nextPoll s.period now } shown :=
        h.of_same rfl rfl rfl (List.suffix_refl _) rfl id
      simp only [ht, hget]
      rcases poll_cases { s with nextPoll := nextDue s.nextPoll s.period now } store.get with
        ⟨hpoll, hsame⟩ | ⟨found, hfound, -, hnew, hpoll⟩
      · rw [hpoll]
        exact hdue.polled_same hp hget (hsame order hget howner)
      · obtain rfl : found = order := Except.ok.inj (hfound.symm.trans hget)
        rw [hpoll]
        exact hdue.polled_new hp hget hnew
    · simpa [ht] using h.queued hp
  | receive =>
    rw [signals, List.append_nil]
    rcases s.receive_cases with ⟨-, hr⟩ | ⟨update, rest, hqueue, hr⟩
    · rw [Subscription.step, hr]
      exact h
    · rw [Subscription.step, hr]
      exact h.of_same rfl rfl rfl (hqueue ▸ List.suffix_cons update rest) rfl id
  | cancel =>
    rw [signals, List.append_nil]
    exact h.of_same rfl rfl rfl (List.suffix_refl _) rfl fun _ => rfl
  | dropReceiver =>
    rw [signals, List.append_nil]
    exact h.of_same rfl rfl rfl List.nil_suffix rfl fun _ => isWanted_dropReceiver s
  | drop =>
    rw [signals, List.append_nil]
    exact h.of_same rfl rfl rfl List.nil_suffix rfl fun _ => rfl

end Tracks

end OrderDesk.Subscription
