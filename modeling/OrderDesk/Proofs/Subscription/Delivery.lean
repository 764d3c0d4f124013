import OrderDesk.Proofs.Subscription.Moves

/-!
# What a receiver gets

`Subscription.shown` collects what the poller shows in a history, `Subscription.answered` what the
receiver is answered.

* `Delivers` says how the two are linked: the receiver gets the updates in the order in which they
  were queued, what it did not get yet lies in the queue, and the queue never grows beyond its
  capacity. It holds from the start (`Delivers.start`) and is kept (`Delivers.run`).
* Once a subscription is cancelled, nothing is queued any more (`shown_of_cancelled`), and
  the receiver gets what lies in the queue, then waits until the poller has ended, and then finds
  the queue closed (`drains_of_cancelled`).
-/

namespace OrderDesk

/-- The updates among what a receiver was answered. -/
def Received.updates (got : List Received) : List OrderUpdate :=
  got.filterMap fun
    | .update told => some told
    | .empty => none
    | .closed => none

namespace Received

@[simp] theorem updates_nil : updates [] = [] := rfl

@[simp] theorem updates_update (told : OrderUpdate) : updates [.update told] = [told] := rfl

@[simp] theorem updates_append (got got' : List Received) :
    updates (got ++ got') = updates got ++ updates got' :=
  List.filterMap_append

theorem mem_updates_iff {got : List Received} {told : OrderUpdate} :
    told ∈ updates got ↔ .update told ∈ got := by
  rw [updates, List.mem_filterMap]
  constructor
  · rintro ⟨received, hmem, heq⟩
    cases received with
    | update told' => cases heq; exact hmem
    | empty => cases heq
    | closed => cases heq
  · exact fun hmem => ⟨_, hmem, rfl⟩

end Received

namespace Subscription

open Signal

/-- What the receiver is answered in a move, if it asks. -/
def answers (s : Subscription) : Move → List Received
  | .receive => [s.receive.1]
  | .turn _ => []
  | .cancel => []
  | .dropReceiver => []
  | .drop => []

/-- What the poller shows in the course of several moves. -/
def shown (s : Subscription) : List (OrderReader × Move) → List Signal
  | [] => []
  | (read, move) :: moves => s.signals read move ++ (s.step read move).shown moves

/-- What the receiver is answered in the course of several moves. -/
def answered (s : Subscription) : List (OrderReader × Move) → List Received
  | [] => []
  | (read, move) :: moves => s.answers move ++ (s.step read move).answered moves

theorem updates_receive_of_empty {s : Subscription} (h : s.queue = []) :
    Received.updates [s.receive.1] = [] := by
  unfold receive
  rw [h]
  cases s.isLive with
  | false => rfl
  | true => rfl

/-- How a subscription delivers, given the updates that were queued and what its receiver was
answered so far. -/
structure Delivers (s : Subscription) (queued : List OrderUpdate) (got : List Received) :
    Prop where
  /-- The queue holds no more than it has room for. -/
  bounded : s.queue.length ≤ s.capacity
  /-- What was received and what waits in the queue was queued in this order. -/
  inOrder : Received.updates got ++ s.queue <+: queued
  /-- Nothing is lost before the receiver is gone. -/
  complete : s.receiverOpen = true → Received.updates got ++ s.queue = queued
  /-- Nothing waits for a receiver that is gone. -/
  gone : s.receiverOpen = false → s.queue = []

/-! ## Everything queued is received in its turn -/

namespace Delivers

variable {s : Subscription} {queued : List OrderUpdate} {got : List Received}

theorem start (query : OrderQuery) (period : Nanos) (capacity : Nat) (now : Nanos)
    (cancelled : Bool) :
    Delivers (Subscription.start query period capacity now cancelled) [] [] :=
  { bounded := Nat.zero_le _
    inOrder := List.nil_prefix
    complete := fun _ => rfl
    gone := fun h => by cases h }

/-- What touches neither the queue nor the receiver changes nothing. -/
theorem of_same {s' : Subscription} (h : Delivers s queued got) (hqueue : s'.queue = s.queue)
    (hcapacity : s'.capacity = s.capacity) (hopen : s'.receiverOpen = s.receiverOpen) :
    Delivers s' queued got :=
  { bounded := by rw [hqueue, hcapacity]; exact h.bounded
    inOrder := by rw [hqueue]; exact h.inOrder
    complete := by rw [hqueue, hopen]; exact h.complete
    gone := by rw [hqueue, hopen]; exact h.gone }

theorem queued_update (h : Delivers s queued got) (hw : s.isWanted = true)
    (hr : s.hasRoom = true) (update : OrderUpdate) (phase : PollerPhase) :
    Delivers { s with queue := s.queue ++ [update], phase } (queued ++ [update]) got := by
  have hopen : s.receiverOpen = true := by
    simp only [isWanted, Bool.and_eq_true] at hw
    exact hw.2
  have hlt : s.queue.length < s.capacity := of_decide_eq_true hr
  have hall : Received.updates got ++ (s.queue ++ [update]) = queued ++ [update] := by
    rw [← List.append_assoc, h.complete hopen]
  exact
    { bounded := by rw [List.length_append]; exact hlt
      inOrder := ⟨[], by rw [List.append_nil, hall]⟩
      complete := fun _ => hall
      gone := fun hgone => by rw [hopen] at hgone; cases hgone }

theorem received (h : Delivers s queued got) {update : OrderUpdate} {rest : List OrderUpdate}
    (hqueue : s.queue = update :: rest) :
    Delivers { s with queue := rest } queued (got ++ [.update update]) := by
  have hall : Received.updates (got ++ [.update update]) ++ rest =
      Received.updates got ++ s.queue := by
    rw [hqueue, Received.updates_append, Received.updates_update, List.append_assoc,
      List.singleton_append]
  have hbounded := h.bounded
  rw [hqueue, List.length_cons] at hbounded
  exact
    { bounded := Nat.le_of_succ_le hbounded
      inOrder := by rw [hall]; exact h.inOrder
      complete := fun hopen => by rw [hall]; exact h.complete hopen
      gone := fun hgone => by have := h.gone hgone; rw [hqueue] at this; cases this }

theorem dropped (h : Delivers s queued got) (cancelled : Bool) :
    Delivers { s with receiverOpen := false, queue := [], cancelled } queued got :=
  { bounded := Nat.zero_le _
    inOrder := by
      rw [List.append_nil]
      exact (List.prefix_append _ _).trans h.inOrder
    complete := fun hopen => by cases hopen
    gone := fun _ => rfl }

theorem step (h : Delivers s queued got) (read : OrderReader) (move : Move) :
    Delivers (s.step read move) (queued ++ updates (s.signals read move))
      (got ++ s.answers move) := by
  cases move with
  | turn now =>
    rw [answers, List.append_nil, Subscription.step]
    rcases s.turn_cases read now with ⟨-, ht⟩ | ⟨-, ht⟩ | ⟨-, -, -, -, ht⟩ |
      ⟨update, -, hw, hr, ht⟩
    · simp only [signals, ht, updates_nil, List.append_nil]
      exact h
    · simp only [signals, ht, updates_nil, List.append_nil]
      exact h.of_same rfl rfl rfl
    · simp only [signals, ht, updates_polled, List.append_nil]
      rcases poll_cases { s with nextPoll := nextDue s.nextPoll s.period now } read with
        ⟨hpoll, -⟩ | ⟨order, -, -, -, hpoll⟩
      · rw [hpoll]
        exact h.of_same rfl rfl rfl
      · rw [hpoll]
        exact h.of_same rfl rfl rfl
    · simp only [signals, ht, updates_queued]
      exact h.queued_update hw hr update .waiting
  | receive =>
    rw [signals, updates_nil, List.append_nil, answers, Subscription.step]
    rcases s.receive_cases with ⟨hqueue, hr⟩ | ⟨update, rest, hqueue, hr⟩
    · rw [hr]
      refine { h with inOrder := ?_, complete := ?_ }
      · rw [Received.updates_append, updates_receive_of_empty hqueue, List.append_nil]
        exact h.inOrder
      · rw [Received.updates_append, updates_receive_of_empty hqueue, List.append_nil]
        exact h.complete
    · rw [hr]
      exact h.received hqueue
  | cancel =>
    rw [signals, updates_nil, List.append_nil, answers, List.append_nil]
    exact h.of_same rfl rfl rfl
  | dropReceiver =>
    rw [signals, updates_nil, List.append_nil, answers, List.append_nil]
    exact h.dropped s.cancelled
  | drop =>
    rw [signals, updates_nil, List.append_nil, answers, List.append_nil]
    exact h.dropped true

theorem run (h : Delivers s queued got) (moves : List (OrderReader × Move)) :
    Delivers (s.run moves) (queued ++ updates (s.shown moves)) (got ++ s.answered moves) := by
  induction moves generalizing s queued got with
  | nil => simpa [shown, answered] using h
  | cons move moves ih =>
    obtain ⟨read, move⟩ := move
    rw [run_cons, shown, answered, updates_append, ← List.append_assoc, ← List.append_assoc]
    exact ih (h.step read move)

end Delivers

/-! ## After a cancellation -/

section
variable {s : Subscription}

theorem isWanted_of_cancelled (h : s.cancelled = true) : s.isWanted = false := by
  simp [isWanted, h]

theorem cancelled_run (h : s.cancelled = true) (moves : List (OrderReader × Move)) :
    (s.run moves).cancelled = true := by
  induction moves generalizing s with
  | nil => exact h
  | cons move moves ih => exact ih ((s.sides_step move.1 move.2).1 h)

/-- A turn after the cancellation ends the poller and does nothing else. -/
theorem turn_of_cancelled (h : s.cancelled = true) (read : OrderReader) (now : Nanos) :
    (s.turn read now).1 = s.finish ∧ s.signals read (.turn now) = [] := by
  have hw := isWanted_of_cancelled h
  rcases s.turn_cases read now with ⟨hr, ht⟩ | ⟨-, ht⟩ | ⟨-, hwanted, -⟩ | ⟨update, -, hwanted, -⟩
  · have hp : s.phase = .ended := by
      unfold Rests at hr
      cases hp : s.phase with
      | waiting => simp [hp, hw] at hr
      | sending update => simp [hp, hw] at hr
      | ended => rfl
    refine ⟨?_, by simp [signals, ht]⟩
    rw [ht, finish, ← hp]
  · exact ⟨by rw [ht], by simp [signals, ht]⟩
  · rw [hw] at hwanted
    cases hwanted
  · rw [hw] at hwanted
    cases hwanted

theorem shown_of_cancelled (h : s.cancelled = true) (moves : List (OrderReader × Move)) :
    s.shown moves = [] := by
  induction moves generalizing s with
  | nil => rfl
  | cons move moves ih =>
    obtain ⟨read, move⟩ := move
    rw [shown, ih ((s.sides_step read move).1 h), List.append_nil]
    cases move with
    | turn now => exact (turn_of_cancelled h read now).2
    | receive => rfl
    | cancel => rfl
    | dropReceiver => rfl
    | drop => rfl

theorem phase_step_of_ended (h : s.phase = .ended) (read : OrderReader) (move : Move) :
    (s.step read move).phase = .ended := by
  cases move with
  | turn now => simp [step, turn, h]
  | receive =>
    obtain ⟨queue, hr⟩ := s.exists_receive_eq
    rw [step, hr]
    exact h
  | cancel => exact h
  | dropReceiver => exact h
  | drop => exact h

/-- A receiver whose poller has ended is never kept waiting. -/
theorem empty_not_mem_answered (h : s.phase = .ended) (moves : List (OrderReader × Move)) :
    Received.empty ∉ s.answered moves := by
  induction moves generalizing s with
  | nil => exact List.not_mem_nil
  | cons move moves ih =>
    obtain ⟨read, move⟩ := move
    rw [answered, List.mem_append, not_or]
    refine ⟨?_, ih (phase_step_of_ended h read move)⟩
    cases move with
    | receive =>
      unfold answers receive
      cases s.queue <;> simp [isLive, h]
    | turn now => exact List.not_mem_nil
    | cancel => exact List.not_mem_nil
    | dropReceiver => exact List.not_mem_nil
    | drop => exact List.not_mem_nil

theorem updates_answered_of_cancelled (h : s.cancelled = true)
    (moves : List (OrderReader × Move)) : Received.updates (s.answered moves) <+: s.queue := by
  induction moves generalizing s with
  | nil => exact List.nil_prefix
  | cons move moves ih =>
    obtain ⟨read, move⟩ := move
    have hrest := ih ((s.sides_step read move).1 h)
    rw [answered, Received.updates_append]
    cases move with
    | turn now =>
      rw [step, (turn_of_cancelled h read now).1] at hrest ⊢
      exact hrest
    | receive =>
      rcases s.receive_cases with ⟨hqueue, hr⟩ | ⟨update, rest, hqueue, hr⟩
      · rw [answers, updates_receive_of_empty hqueue, List.nil_append]
        rwa [step, hr] at hrest ⊢
      · rw [step, hr] at hrest ⊢
        rw [answers, hr, hqueue]
        exact List.cons_prefix_cons.2 ⟨rfl, hrest⟩
    | cancel => exact hrest
    | dropReceiver => exact hrest.trans List.nil_prefix
    | drop => exact hrest.trans List.nil_prefix

/-- How a queue that nothing is put on any more is emptied: its updates come in their order, then
the receiver waits some times, and then it finds the queue closed. -/
def Drains (queue : List OrderUpdate) (waited : Nat) (got : List Received) : Prop :=
  ∃ closed, got = (queue.take got.length).map .update ++ List.replicate waited .empty ++
    List.replicate closed .closed

namespace Drains

variable {queue : List OrderUpdate} {waited : Nat} {got : List Received}

theorem nil (queue : List OrderUpdate) : Drains queue 0 [] :=
  ⟨0, rfl⟩

theorem update (h : Drains queue waited got) (update : OrderUpdate) :
    Drains (update :: queue) waited (.update update :: got) := by
  obtain ⟨closed, h⟩ := h
  exact ⟨closed, by simpa using h⟩

theorem empty (h : Drains [] waited got) : Drains [] (waited + 1) (.empty :: got) := by
  obtain ⟨closed, h⟩ := h
  exact ⟨closed, by simpa [List.replicate_succ] using h⟩

theorem closed (h : Drains [] 0 got) : Drains [] 0 (.closed :: got) := by
  obtain ⟨closed, h⟩ := h
  exact ⟨closed + 1, by simpa [List.replicate_succ] using h⟩

end Drains

/-- A receiver that stays empties the queue after a cancellation. It waits only as long as the
poller has not ended. -/
theorem drains_of_cancelled (h : s.cancelled = true) {moves : List (OrderReader × Move)}
    (hstays : ∀ move ∈ moves, move.2 ≠ .dropReceiver ∧ move.2 ≠ .drop) :
    ∃ waited, Drains s.queue waited (s.answered moves) ∧ (s.phase = .ended → waited = 0) := by
  induction moves generalizing s with
  | nil => exact ⟨0, .nil _, fun _ => rfl⟩
  | cons move moves ih =>
    obtain ⟨read, move⟩ := move
    obtain ⟨hreceiver, hdrop⟩ := hstays _ List.mem_cons_self
    obtain ⟨waited, hdrains, hended⟩ := ih ((s.sides_step read move).1 h)
      fun move hm => hstays move (List.mem_cons_of_mem _ hm)
    rw [answered]
    cases move with
    | turn now =>
      rw [step, (turn_of_cancelled h read now).1] at hdrains hended ⊢
      exact ⟨waited, hdrains, fun _ => hended rfl⟩
    | receive =>
      rcases s.receive_cases with ⟨hqueue, hr⟩ | ⟨update, rest, hqueue, hr⟩
      · rw [step, hr, hqueue] at hdrains
        rw [step, hr] at hended ⊢
        rw [hqueue]
        -- with nothing queued, the answer says whether the poller has ended
        by_cases hp : s.phase = .ended
        · have hclosed : s.receive.1 = .closed := by simp [receive, hqueue, isLive, hp]
          rw [hended hp] at hdrains
          rw [answers, hclosed]
          exact ⟨0, hdrains.closed, fun _ => rfl⟩
        · have hempty : s.receive.1 = .empty := by simp [receive, hqueue, isLive, hp]
          rw [answers, hempty]
          exact ⟨waited + 1, hdrains.empty, fun hphase => absurd hphase hp⟩
      · rw [step, hr] at hdrains hended ⊢
        rw [answers, hr, hqueue]
        exact ⟨waited, hdrains.update update, hended⟩
    | cancel => exact ⟨waited, hdrains, hended⟩
    | dropReceiver => exact absurd rfl hreceiver
    | drop => exact absurd rfl hdrop

end

end Subscription

end OrderDesk
