import OrderDesk.Proofs.Desk.Following
import OrderDesk.Proofs.Metrics.Totals
import OrderDesk.Proofs.Store.Census

/-!
# What is recorded at a desk

`Desk.recordings` is what a routine event records, that is one that is neither a call to place an
order nor somebody's work on the store itself.

* `metrics_step`: a routine event records just that.
* `store_step`: it changes the store by a pass or not at all.
* `total_recordings`: it counts every change of status once, and every update that is put on the
  queue of a subscription, and nothing else.
-/

namespace OrderDesk

namespace Desk

/-- Whether an event is neither a call to place an order nor somebody's work on the store. -/
def Event.isRoutine : Event → Bool
  | .atStore _ => false
  | .createOrder .. => false
  | _ => true

/-- The changes of status in an event. -/
def transitions (desk : Desk) : Event → List Transition
  | .pass policy wall => (desk.pass policy wall).1
  | .simulatorTurn k policy now wall =>
    match (desk.simulatorTurn k policy now wall).1 with
    | .passed transitions => transitions
    | .rested => []
    | .ended => []
  | _ => []

/-- What a turn of a poller records. -/
def recordingsOf (desk : Desk) : PollerTurn → List Recording
  | .rested => []
  | .polled => []
  | .queued update => [.count (.updatesStreamed update.status)]
  | .ended => [.setActive (desk.active - 1)]

/-- What an event records. -/
def recordings (desk : Desk) : Event → List Recording
  | .subscribe query _ =>
    match Service.admission desk.reader query with
    | .ok () => [.setActive (desk.active + 1)]
    | .error _ => []
  | .pollerTurn i now =>
    match desk.subscriptions[i]? with
    | some s => desk.recordingsOf (s.turn desk.reader now).2
    | none => []
  | .pass policy wall => Simulator.recordings (desk.transitions (.pass policy wall))
  | .simulatorTurn k policy now wall =>
    Simulator.recordings (desk.transitions (.simulatorTurn k policy now wall))
  | _ => []

/-- The updates that an event puts on the queues of all subscriptions. -/
def queued (desk : Desk) (event : Event) : List OrderUpdate :=
  (List.range desk.subscriptions.length).flatMap fun i => Signal.updates (desk.signals i event)

variable (desk : Desk)

/-! ## Metrics -/

theorem metrics_afterTurn (turn : PollerTurn) :
    (desk.afterTurn turn).metrics = desk.metrics.recordAll (desk.recordingsOf turn) := by
  cases turn <;> rfl

/-- A routine event records what it is said to record. -/
theorem metrics_step {event : Event} (h : event.isRoutine = true) :
    (desk.step event).metrics = desk.metrics.recordAll (desk.recordings event) := by
  cases event with
  | atStore op => cases h
  | createOrder => cases h
  | subscribe query now =>
    rw [step, subscribe, recordings]
    cases Service.admission desk.reader query with
    | error e => rfl
    | ok u => rfl
  | pollerTurn i now =>
    rw [step, pollerTurn, recordings]
    cases desk.subscriptions[i]? with
    | none => rfl
    | some s => exact metrics_afterTurn _ _
  | receive i =>
    rw [step, receive]
    split <;> rfl
  | simulatorTurn k policy now wall =>
    rw [step, recordings, transitions]
    rcases desk.simulatorTurn_cases k policy now wall with h | ⟨-, -, h⟩ | ⟨due, -, -, -, h⟩
    all_goals
      rw [h]
      rfl
  | pass policy wall => rfl
  | cancel i => rfl
  | dropReceiver i => rfl
  | drop i => rfl
  | startSimulator now => rfl
  | shutDown => rfl

/-! ## The store -/

/-- A routine event leaves the store alone, or it is a pass that tells its changes. -/
theorem store_step {event : Event} (h : event.isRoutine = true) :
    ((desk.step event).store = desk.store ∧ desk.transitions event = []) ∨
    ∃ policy wall, ((desk.step event).store, desk.transitions event) =
      desk.store.advanceOpen policy wall := by
  cases event with
  | atStore op => cases h
  | createOrder => cases h
  | pass policy wall => exact .inr ⟨policy, wall, rfl⟩
  | simulatorTurn k policy now wall =>
    rw [step, transitions]
    rcases desk.simulatorTurn_cases k policy now wall with h | ⟨-, -, h⟩ | ⟨due, -, -, -, h⟩
    · exact .inl (by rw [h]; exact ⟨rfl, rfl⟩)
    · exact .inl (by rw [h]; exact ⟨rfl, rfl⟩)
    · exact .inr ⟨policy, wall, by rw [h]; rfl⟩
  | subscribe query now =>
    refine .inl ⟨?_, rfl⟩
    rw [step, subscribe]
    split <;> rfl
  | pollerTurn i now =>
    refine .inl ⟨?_, rfl⟩
    rw [step, pollerTurn]
    split
    · rfl
    · exact store_afterTurn _ _
  | receive i =>
    refine .inl ⟨?_, rfl⟩
    rw [step, receive]
    split <;> rfl
  | cancel i => exact .inl ⟨rfl, rfl⟩
  | dropReceiver i => exact .inl ⟨rfl, rfl⟩
  | drop i => exact .inl ⟨rfl, rfl⟩
  | startSimulator now => exact .inl ⟨rfl, rfl⟩
  | shutDown => exact .inl ⟨rfl, rfl⟩

/-- A routine event leaves alone how many orders have a property that their terms decide. -/
theorem count_step_of_sameTerms {event : Event} (h : event.isRoutine = true) {p : Order → Bool}
    (hp : ∀ a b : Order, Order.SameTerms a b → p b = p a) :
    (desk.step event).store.count p = desk.store.count p := by
  rcases desk.store_step h with ⟨hsame, -⟩ | ⟨policy, wall, hpass⟩
  · rw [hsame]
  · obtain ⟨hstore, -⟩ := Prod.ext_iff.1 hpass
    rw [show (desk.step event).store = _ from hstore]
    exact OrderStore.count_advanceOpen_of_sameTerms policy wall desk.store hp

/-- In a routine event, one more order has come to a status for every change that leads there. -/
theorem count_step_cameBy {event : Event} (h : event.isRoutine = true) (status : OrderStatus) :
    (desk.step event).store.count (fun order => status.cameBy order.status) =
      desk.store.count (fun order => status.cameBy order.status) +
        (desk.transitions event).countP fun t => decide (t.after = status) := by
  rcases desk.store_step h with ⟨hsame, hnone⟩ | ⟨policy, wall, hpass⟩
  · rw [hsame, hnone]
    rfl
  · obtain ⟨hstore, hchanges⟩ := Prod.ext_iff.1 hpass
    rw [show (desk.step event).store = _ from hstore,
      show desk.transitions event = _ from hchanges]
    exact OrderStore.count_advanceOpen_cameBy policy wall desk.store status

/-! ## Queues -/

theorem flatMap_of_single {α : Type} {f : Nat → List α} {i : Nat} (h : ∀ j, j ≠ i → f j = [])
    {l : List Nat} (hl : l.Nodup) : l.flatMap f = if i ∈ l then f i else [] := by
  induction l with
  | nil => rfl
  | cons j l ih =>
    obtain ⟨hj, hl⟩ := List.nodup_cons.1 hl
    rw [List.flatMap_cons, ih hl]
    by_cases hji : j = i
    · subst hji
      simp [hj]
    · simp [h j hji, Ne.symm hji]

/-- Nothing but a turn of its poller puts updates on the queue of a subscription. -/
theorem updates_signals_of_ne {i : Nat} {event : Event} (h : ∀ now, event ≠ .pollerTurn i now) :
    Signal.updates (desk.signals i event) = [] := by
  unfold signals
  cases desk.subscriptions[i]? with
  | none => rfl
  | some s =>
    cases hmove : event.moveOf i with
    | none => rfl
    | some move =>
      cases move with
      | turn now =>
        cases event with
        | pollerTurn j now' =>
          simp only [Event.moveOf, Option.ite_none_right_eq_some] at hmove
          exact absurd (hmove.1 ▸ rfl) (h now')
        | _ => simp [Event.moveOf] at hmove
      | receive => rfl
      | cancel => rfl
      | dropReceiver => rfl
      | drop => rfl

theorem queued_pollerTurn (i : Nat) (now : Nanos) : desk.queued (.pollerTurn i now) =
    Signal.updates (desk.signals i (.pollerTurn i now)) := by
  have hother : ∀ j, j ≠ i → Signal.updates (desk.signals j (.pollerTurn i now)) = [] :=
    fun j hj => desk.updates_signals_of_ne fun now' heq => hj (by cases heq; rfl)
  rw [queued, flatMap_of_single hother List.nodup_range]
  split
  · rfl
  · next hi =>
    have hnone : desk.subscriptions[i]? = none := by simpa using hi
    simp [signals, hnone]

theorem queued_of_ne {event : Event} (h : ∀ i now, event ≠ .pollerTurn i now) :
    desk.queued event = [] := by
  rw [queued, List.flatMap_eq_nil_iff]
  exact fun i _ => desk.updates_signals_of_ne (h i)

/-- A poller records that it puts an update on the queue, or how many pollers are left. -/
theorem recordings_pollerTurn (i : Nat) (now : Nanos) :
    (∃ n, desk.recordings (.pollerTurn i now) = [.setActive n] ∧
      desk.queued (.pollerTurn i now) = []) ∨
    desk.recordings (.pollerTurn i now) =
      (desk.queued (.pollerTurn i now)).map fun update =>
        .count (.updatesStreamed update.status) := by
  rw [queued_pollerTurn]
  unfold recordings signals
  simp only [Event.moveOf, if_true]
  cases desk.subscriptions[i]? with
  | none => exact .inr rfl
  | some s =>
    simp only [Subscription.signals]
    cases (s.turn desk.reader now).2 with
    | rested => exact .inr rfl
    | polled => exact .inr rfl
    | queued update => exact .inr rfl
    | ended => exact .inl ⟨_, rfl, rfl⟩

/-! ## Counters -/

/-- All that a routine event records: changes of status, queued updates, or how many pollers there
are. -/
theorem recordings_cases {event : Event} (h : event.isRoutine = true) :
    (∃ n, desk.recordings event = [.setActive n] ∧ desk.transitions event = [] ∧
      desk.queued event = []) ∨
    desk.recordings event = Simulator.recordings (desk.transitions event) ++
      (desk.queued event).map fun update => .count (.updatesStreamed update.status) := by
  by_cases hpoll : ∃ i now, event = .pollerTurn i now
  · obtain ⟨i, now, rfl⟩ := hpoll
    rcases desk.recordings_pollerTurn i now with ⟨n, hr, hq⟩ | hr
    · exact .inl ⟨n, hr, rfl, hq⟩
    · exact .inr hr
  · have hqueued := desk.queued_of_ne fun i now heq => hpoll ⟨i, now, heq⟩
    rw [hqueued, List.map_nil, List.append_nil]
    cases event with
    | atStore op => cases h
    | createOrder => cases h
    | pollerTurn i now => exact absurd ⟨i, now, rfl⟩ hpoll
    | subscribe query now =>
      rw [recordings]
      cases Service.admission desk.reader query with
      | error e => exact .inr rfl
      | ok u => exact .inl ⟨_, rfl, rfl, rfl⟩
    | _ => exact .inr rfl

theorem total_recordings_transitions (transitions : List Transition) (pick : Counter → Bool) :
    Recording.total pick (Simulator.recordings transitions) =
      transitions.countP fun t => pick (.statusTransitions t.after) := by
  rw [Simulator.recordings, Recording.total, List.countP_map]
  rfl

/-- How often a routine event counts: for each change of status and each queued update once. -/
theorem total_recordings {event : Event} (h : event.isRoutine = true) (pick : Counter → Bool) :
    Recording.total pick (desk.recordings event) =
      ((desk.transitions event).countP fun t => pick (.statusTransitions t.after)) +
        ((desk.queued event).countP fun update => pick (.updatesStreamed update.status)) := by
  rcases desk.recordings_cases h with ⟨n, hr, ht, hq⟩ | hr
  · rw [hr, ht, hq]
    rfl
  · rw [hr, Recording.total_append, total_recordings_transitions, Recording.total, List.countP_map]
    rfl

end Desk

end OrderDesk
