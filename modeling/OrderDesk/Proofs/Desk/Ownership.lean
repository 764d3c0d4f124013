import OrderDesk.Proofs.Desk.Following
import OrderDesk.Proofs.Service.Ownership

/-!
# Updates are for owners only

A subscription is opened for the owner of an order, and its poller asks again at every read who the
order belongs to. So whatever the orders are answered for in the meantime, its updates tell of
orders of the subscriber only: `Subscription.mem_held_run` finds the turn at which each of them was
read. A turn that finds no order of the subscriber is skipped (`Subscription.turn_of_skipped`), and
no answer ends a poller (`Subscription.Lives.run`).

`shown_to_owner_only` is what holds of all that a user may ask about an order.
-/

namespace OrderDesk

namespace Subscription

/-- The updates that are queued and the one that is about to be. -/
def held (s : Subscription) : List OrderUpdate :=
  s.queue ++ s.phase.pending

/-- No poller ends while it is wanted. -/
def Lives (s : Subscription) : Prop :=
  s.phase = .ended → s.isWanted = false ∨ s.period = 0

variable {s : Subscription} {read : OrderReader}

/-! ## One move -/

theorem poll_of_skipped (s : Subscription)
    (hread : ∀ order, read s.query.orderId = .ok order → order.userId ≠ s.query.userId) :
    s.poll read = s := by
  rcases s.poll_cases read with ⟨hpoll, -⟩ | ⟨order, hfound, howner, -⟩
  · exact hpoll
  · exact absurd howner (hread order hfound)

/-- A turn at which no order of the subscriber is found only makes the next one due. -/
theorem turn_of_skipped {now : Nanos}
    (hread : ∀ order, read s.query.orderId = .ok order → order.userId ≠ s.query.userId)
    (hp : s.phase = .waiting) (hw : s.isWanted = true) (h0 : s.period ≠ 0)
    (hd : s.nextPoll ≤ now) :
    s.turn read now = ({ s with nextPoll := nextDue s.nextPoll s.period now }, .polled) := by
  rcases s.turn_cases read now with ⟨hr, -⟩ | ⟨he, -⟩ | ⟨-, -, -, -, ht⟩ | ⟨update, hs, -⟩
  · simp only [Rests, hp] at hr
    exact absurd hd (Nat.not_le.2 hr.2.2)
  · rcases he.unwanted with hf | hf
    · rw [hw] at hf
      cases hf
    · exact absurd hf h0
  · rw [ht, poll_of_skipped { s with nextPoll := nextDue s.nextPoll s.period now } hread]
  · rw [hp] at hs
    cases hs

/-- What a subscription holds after a move it held before, or a turn of its poller just read it from
an order of the subscriber. -/
theorem mem_held_step {move : Move} {u : OrderUpdate} (hu : u ∈ (s.step read move).held) :
    u ∈ s.held ∨ ∃ now order, move = .turn now ∧ read s.query.orderId = .ok order ∧
      order.userId = s.query.userId ∧ u = order.toUpdate := by
  cases move with
  | turn now =>
    rcases s.turn_cases read now with ⟨-, ht⟩ | ⟨-, ht⟩ | ⟨hp, -, -, -, ht⟩ | ⟨update, hp, -, -, ht⟩
    · rw [step, ht] at hu
      exact .inl hu
    · rw [step, ht] at hu
      exact .inl (List.mem_append_left _ (by simpa [held, finish, PollerPhase.pending] using hu))
    · rw [step, ht] at hu
      rcases poll_cases { s with nextPoll := nextDue s.nextPoll s.period now } read with
        ⟨hpoll, -⟩ | ⟨order, hread, howner, -, hpoll⟩
      · rw [hpoll] at hu
        exact .inl hu
      · rw [hpoll] at hu
        rcases List.mem_append.1 hu with hu | hu
        · exact .inl (List.mem_append_left _ hu)
        · exact .inr ⟨now, order, rfl, hread, howner, List.mem_singleton.1 hu⟩
    · rw [step, ht] at hu
      exact .inl (by simpa [held, hp, PollerPhase.pending] using hu)
  | receive =>
    rcases s.receive_cases with ⟨-, hr⟩ | ⟨update, rest, hqueue, hr⟩
    · rw [step, hr] at hu
      exact .inl hu
    · rw [step, hr] at hu
      refine .inl ?_
      rw [held, hqueue]
      exact List.mem_cons_of_mem _ hu
  | cancel => exact .inl hu
  | dropReceiver => exact .inl (List.mem_append_right _ hu)
  | drop => exact .inl (List.mem_append_right _ hu)

theorem Lives.step (h : s.Lives) (read : OrderReader) (move : Move) : (s.step read move).Lives := by
  intro hp
  rw [(s.settings_step read move).2.1]
  -- the phase moves in turns only, so in all other moves the poller had ended before
  have hold (hphase : s.phase = .ended) : (s.step read move).isWanted = false ∨ s.period = 0 :=
    (h hphase).imp_left fun hw => isWanted_step hw read move
  cases move with
  | turn now =>
    rcases s.turn_cases read now with ⟨-, ht⟩ | ⟨he, ht⟩ | ⟨hw, -, -, -, ht⟩ | ⟨update, -, -, -, ht⟩
    · rw [Subscription.step, ht] at hp
      exact hold hp
    · exact he.unwanted.imp_left fun hw => isWanted_step hw read (.turn now)
    · rw [Subscription.step, ht] at hp
      rcases poll_cases { s with nextPoll := nextDue s.nextPoll s.period now } read with
        ⟨hpoll, -⟩ | ⟨order, -, -, -, hpoll⟩
      · rw [hpoll] at hp
        exact hold hp
      · rw [hpoll] at hp
        cases hp
    · rw [Subscription.step, ht] at hp
      cases hp
  | receive =>
    obtain ⟨queue, hr⟩ := s.exists_receive_eq
    rw [Subscription.step, hr] at hp
    exact hold hp
  | cancel => exact hold hp
  | dropReceiver => exact hold hp
  | drop => exact hold hp

/-! ## Any number of moves -/

theorem mem_held_run {moves : List (OrderReader × Move)} {u : OrderUpdate}
    (hu : u ∈ (s.run moves).held) :
    u ∈ s.held ∨ ∃ read now order, (read, .turn now) ∈ moves ∧ read s.query.orderId = .ok order ∧
      order.userId = s.query.userId ∧ u = order.toUpdate := by
  induction moves generalizing s with
  | nil => exact .inl hu
  | cons move moves ih =>
    obtain ⟨read, move⟩ := move
    rcases ih hu with hu | ⟨read', now, order, hmem, hread, howner, rfl⟩
    · rcases mem_held_step hu with hu | ⟨now, order, rfl, hread, howner, rfl⟩
      · exact .inl hu
      · exact .inr ⟨read, now, order, List.mem_cons_self, hread, howner, rfl⟩
    · rw [query_step] at hread howner
      exact .inr ⟨read', now, order, List.mem_cons_of_mem _ hmem, hread, howner, rfl⟩

theorem Lives.run (h : s.Lives) (moves : List (OrderReader × Move)) : (s.run moves).Lives := by
  induction moves generalizing s with
  | nil => exact h
  | cons move moves ih => exact ih (h.step move.1 move.2)

end Subscription

namespace Desk

open Subscription

theorem mem_movesOf_turn {i : Nat} {readings : List (OrderReader × Event)} {read : OrderReader}
    {now : Nanos} (h : (read, .turn now) ∈ movesOf i readings) :
    (read, .pollerTurn i now) ∈ readings := by
  obtain ⟨⟨read', event⟩, hmem, hmove⟩ := List.mem_filterMap.1 h
  obtain ⟨move, hm, heq⟩ := Option.map_eq_some_iff.1 hmove
  cases heq
  have hevent : event = .pollerTurn i now := by
    cases event <;> simp_all [Event.moveOf]
  rwa [← hevent]

/-- A user may subscribe exactly when the service lets the user in. -/
theorem subscribe_fst_eq (desk : Desk) (read : OrderReader) (query : OrderQuery) (now : Nanos) :
    (desk.subscribe read query now).1 =
      (Service.admission read query).map fun _ => desk.subscriptions.length := by
  unfold subscribe
  cases Service.admission read query <;> rfl

theorem subscribe_of_foreign {read : OrderReader} {query : OrderQuery} {order : Order}
    (hread : read query.orderId = .ok order) (howner : order.userId ≠ query.userId) (desk : Desk)
    (now : Nanos) : desk.subscribe read query now =
      (.error (.invalidUserId query.orderId query.userId), desk) := by
  rw [subscribe, Service.admission_of_foreign hread howner]

/-- What holds of a subscription after a history in which the orders were read through `readings`,
whatever these answered. -/
structure Confined (i : Nat) (query : OrderQuery) (readings : List (OrderReader × Event))
    (s : Subscription) : Prop where
  query_eq : s.query = query
  /-- Every update was read, in a turn of the poller, from an order of the subscriber. -/
  own : ∀ u ∈ s.queue ++ s.phase.pending, ∃ read now order,
    (read, .pollerTurn i now) ∈ readings ∧ read query.orderId = .ok order ∧
      order.userId = query.userId ∧ u = order.toUpdate
  /-- A turn that finds no such order moves neither the cursor nor anything else but the time of the
  next one. -/
  skips : ∀ read now, (∀ order, read query.orderId = .ok order → order.userId ≠ query.userId) →
    s.phase = .waiting → s.isWanted = true → s.period ≠ 0 → s.nextPoll ≤ now →
      s.turn read now = ({ s with nextPoll := nextDue s.nextPoll s.period now }, .polled)
  /-- No answer ends the poller. -/
  lives : s.phase = .ended → s.isWanted = false ∨ s.period = 0

theorem confined_runWith {desk : Desk} {read : OrderReader} {query : OrderQuery} {now : Nanos}
    {i : Nat} (hi : (desk.subscribe read query now).1 = .ok i)
    (readings : List (OrderReader × Event)) : ∃ s,
      ((desk.subscribe read query now).2.runWith readings).subscriptions[i]? = some s ∧
        Confined i query readings s := by
  obtain ⟨-, -, hs⟩ := subscribe_eq_ok hi
  refine ⟨_, getElem?_runWith hs readings, ?_⟩
  have hlives : (Subscription.start query desk.pollInterval desk.bufferCapacity now
      desk.isShutDown).Lives := fun hp => by cases hp
  refine
    { query_eq := query_run _ _
      own := fun u hu => ?_
      skips := fun read now hread => turn_of_skipped (by rwa [query_run])
      lives := hlives.run _ }
  rcases mem_held_run hu with hu | ⟨read, now, order, hmem, hread, howner, hu⟩
  · cases hu
  · exact ⟨read, now, order, mem_movesOf_turn hmem, hread, howner, hu⟩

/-- **Whatever the desk tells of an order, it tells the owner.** A user is told the status of an
order, or may follow it, exactly when the order is the user's own, and follows nothing but own
orders then, whatever the orders are answered for later. Others are refused, which changes nothing;
and what the orders of others say makes no difference to any of it. -/
theorem shown_to_owner_only (desk : Desk) (query : OrderQuery) (now : Nanos) :
    (∀ read status, Service.orderStatus read query = .ok status ↔
      ∃ order, read query.orderId = .ok order ∧ order.userId = query.userId ∧
        order.status = status) ∧
    (∀ read, (∃ i, (desk.subscribe read query now).1 = .ok i) ↔
      ∃ order, read query.orderId = .ok order ∧ order.userId = query.userId) ∧
    (∀ read i, (desk.subscribe read query now).1 = .ok i → ∀ readings, ∃ s,
      ((desk.subscribe read query now).2.runWith readings).subscriptions[i]? = some s ∧
        Confined i query readings s) ∧
    (∀ (read : OrderReader) order, read query.orderId = .ok order → order.userId ≠ query.userId →
      Service.orderStatus read query = .error (.invalidUserId query.orderId query.userId) ∧
      desk.subscribe read query now =
        (.error (.invalidUserId query.orderId query.userId), desk)) ∧
    ∀ a b : OrderStore, a.AlikeFor query.userId b → ∀ ops,
      Service.orderStatus (a.run ops).get query = Service.orderStatus (b.run ops).get query ∧
      (desk.subscribe (a.run ops).get query now).1 =
        (desk.subscribe (b.run ops).get query now).1 := by
  refine ⟨fun read status => Service.orderStatus_eq_ok_iff, fun read => ?_,
    fun read i hi readings => confined_runWith hi readings,
    fun read order hread howner => ⟨Service.orderStatus_of_foreign hread howner,
      subscribe_of_foreign hread howner desk now⟩,
    fun a b hab ops => ⟨(hab.run ops).orderStatus_eq, ?_⟩⟩
  · rw [subscribe_fst_eq, ← Service.admission_eq_ok_iff]
    cases Service.admission read query <;> simp [Except.map]
  · rw [subscribe_fst_eq, subscribe_fst_eq, (hab.run ops).admission_eq]

end Desk

end OrderDesk
