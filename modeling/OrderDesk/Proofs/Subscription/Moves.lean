import OrderDesk.Subscription

/-!
# What may happen to a subscription

`Subscription.Move` is one thing that its poller, its receiver or somebody else may do to a
subscription; `Subscription.signals` is what a move shows of it: the polls with what they found, and
the updates that are put on the queue.

`turn_cases` is all that a turn of the poller can do.
-/

namespace OrderDesk

/-- One thing that happens to a subscription. -/
inductive Subscription.Move where
  | turn (now : Nanos)
  | receive
  | cancel
  | dropReceiver
  | drop
  deriving DecidableEq, Repr

/-- What can be seen of a poller. -/
inductive Signal where
  /-- It read the order, or failed to. -/
  | polled (found : Except StoreError Order)
  /-- It put an update on the queue. -/
  | queued (update : OrderUpdate)

namespace Signal

/-- What the polls among some signals found. -/
def polls (signals : List Signal) : List (Except StoreError Order) :=
  signals.filterMap fun
    | .polled found => some found
    | .queued _ => none

/-- The updates that were put on the queue. -/
def updates (signals : List Signal) : List OrderUpdate :=
  signals.filterMap fun
    | .polled _ => none
    | .queued update => some update

section
variable (signals : List Signal)

@[simp] theorem polls_nil : polls [] = [] := rfl

@[simp] theorem updates_nil : updates [] = [] := rfl

@[simp] theorem updates_polled (found : Except StoreError Order) :
    updates [.polled found] = [] := rfl

@[simp] theorem updates_queued (update : OrderUpdate) :
    updates [.queued update] = [update] := rfl

@[simp] theorem updates_append (signals signals' : List Signal) :
    updates (signals ++ signals') = updates signals ++ updates signals' :=
  List.filterMap_append

@[simp] theorem polls_concat_polled (found : Except StoreError Order) :
    polls (signals ++ [.polled found]) = polls signals ++ [found] := by
  simp [polls]

@[simp] theorem polls_concat_queued (update : OrderUpdate) :
    polls (signals ++ [.queued update]) = polls signals := by
  simp [polls]

@[simp] theorem updates_concat_polled (found : Except StoreError Order) :
    updates (signals ++ [.polled found]) = updates signals := by
  simp

@[simp] theorem updates_concat_queued (update : OrderUpdate) :
    updates (signals ++ [.queued update]) = updates signals ++ [update] := by
  simp

end

end Signal

/-- The update that is about to be queued. -/
def PollerPhase.pending : PollerPhase → List OrderUpdate
  | .waiting => []
  | .sending update => [update]
  | .ended => []

namespace Subscription

/-- The subscription after a move. Its poller reads with `read`. -/
def step (s : Subscription) (read : OrderReader) : Move → Subscription
  | .turn now => (s.turn read now).1
  | .receive => s.receive.2
  | .cancel => s.cancel
  | .dropReceiver => s.dropReceiver
  | .drop => s.drop

/-- What a move shows. -/
def signals (s : Subscription) (read : OrderReader) : Move → List Signal
  | .turn now =>
    match (s.turn read now).2 with
    | .rested => []
    | .polled => [.polled (read s.query.orderId)]
    | .queued update => [.queued update]
    | .ended => []
  | .receive => []
  | .cancel => []
  | .dropReceiver => []
  | .drop => []

/-- Whether somebody still wants to receive: neither side gave the subscription up. -/
def isWanted (s : Subscription) : Bool :=
  !s.cancelled && s.receiverOpen

/-- When a turn of the poller does nothing. -/
def Rests (s : Subscription) (now : Nanos) : Prop :=
  match s.phase with
  | .waiting => s.isWanted = true ∧ s.period ≠ 0 ∧ now < s.nextPoll
  | .sending _ => s.isWanted = true ∧ s.hasRoom = false
  | .ended => True

/-- When a turn of the poller ends it. -/
def Ends (s : Subscription) : Prop :=
  match s.phase with
  | .waiting => s.isWanted = false ∨ s.period = 0
  | .sending _ => s.isWanted = false
  | .ended => False

theorem Ends.unwanted {s : Subscription} (h : s.Ends) : s.isWanted = false ∨ s.period = 0 := by
  unfold Ends at h
  cases hp : s.phase with
  | waiting => simpa [hp] using h
  | sending update => exact .inl (by simpa [hp] using h)
  | ended => simp [hp] at h

@[simp] theorem isWanted_dropReceiver (s : Subscription) : s.dropReceiver.isWanted = false := by
  simp [isWanted, dropReceiver]

/-- All that a turn of the poller can do: nothing, to end, to poll, or to queue what it is to
send. -/
theorem turn_cases (s : Subscription) (read : OrderReader) (now : Nanos) :
    (s.Rests now ∧ s.turn read now = (s, .rested)) ∨
    (s.Ends ∧ s.turn read now = (s.finish, .ended)) ∨
    (s.phase = .waiting ∧ s.isWanted = true ∧ s.period ≠ 0 ∧ s.nextPoll ≤ now ∧
      s.turn read now =
        ({ s with nextPoll := nextDue s.nextPoll s.period now }.poll read, .polled)) ∨
    ∃ update, s.phase = .sending update ∧ s.isWanted = true ∧ s.hasRoom = true ∧
      s.turn read now =
        ({ s with queue := s.queue ++ [update], phase := .waiting }, .queued update) := by
  have hwanted : (s.cancelled || !s.receiverOpen) = !s.isWanted := by simp [isWanted]
  unfold turn Rests Ends
  cases hp : s.phase with
  | waiting =>
    simp only [hwanted]
    cases hw : s.isWanted with
    | false => simp
    | true =>
      by_cases h0 : s.period = 0
      · simp [h0]
      · by_cases hd : s.nextPoll ≤ now
        · simp [h0, hd]
        · simp [h0, hd, Nat.lt_of_not_le hd]
  | sending update =>
    simp only [hwanted]
    cases hw : s.isWanted with
    | false => simp
    | true => cases hr : s.hasRoom <;> simp
  | ended => simp

/-- A poll sees the order that it finds, or nothing. -/
theorem poll_cases (s : Subscription) (read : OrderReader) :
    (s.poll read = s ∧ ∀ order, read s.query.orderId = .ok order →
      order.userId = s.query.userId → s.lastSeen = some order.status) ∨
    ∃ order, read s.query.orderId = .ok order ∧ order.userId = s.query.userId ∧
      s.lastSeen ≠ some order.status ∧
      s.poll read =
        { s with lastSeen := some order.status, phase := .sending order.toUpdate } := by
  unfold poll
  cases hr : read s.query.orderId with
  | error e => simp
  | ok order =>
    by_cases ho : order.userId = s.query.userId
    · by_cases hl : s.lastSeen = some order.status
      · simp [hl, Order.isOwnedBy]
      · simp [hl, Order.isOwnedBy, ho]
    · simp [Order.isOwnedBy, ho]

/-- A receiver takes the oldest update, if there is one. -/
theorem receive_cases (s : Subscription) :
    (s.queue = [] ∧ s.receive.2 = s) ∨
    ∃ update rest, s.queue = update :: rest ∧
      s.receive = (.update update, { s with queue := rest }) := by
  unfold receive
  cases s.queue <;> simp

/-- What a poll shows is what was read. -/
theorem eq_read_of_mem_polls {s : Subscription} {read : OrderReader} {move : Move}
    {found : Except StoreError Order} (h : found ∈ Signal.polls (s.signals read move)) :
    found = read s.query.orderId := by
  cases move with
  | turn now =>
    unfold signals at h
    cases ht : (s.turn read now).2 with
    | rested => simp [ht] at h
    | polled => simpa [ht, Signal.polls] using h
    | queued update => simp [ht, Signal.polls] at h
    | ended => simp [ht] at h
  | receive => cases h
  | cancel => cases h
  | dropReceiver => cases h
  | drop => cases h

/-- A turn of the poller touches the cursor, the phase and the queue only. -/
theorem exists_turn_eq (s : Subscription) (read : OrderReader) (now : Nanos) :
    ∃ nextPoll lastSeen phase queue,
      (s.turn read now).1 = { s with nextPoll, lastSeen, phase, queue } := by
  rcases s.turn_cases read now with ⟨-, ht⟩ | ⟨-, ht⟩ | ⟨-, -, -, -, ht⟩ | ⟨update, -, -, -, ht⟩
  · exact ⟨_, _, _, _, by rw [ht]⟩
  · exact ⟨_, _, _, _, by rw [ht]; rfl⟩
  · rw [ht]
    rcases poll_cases { s with nextPoll := nextDue s.nextPoll s.period now } read with
      ⟨hp, -⟩ | ⟨order, -, -, -, hp⟩
    · exact ⟨_, _, _, _, hp⟩
    · exact ⟨_, _, _, _, hp⟩
  · exact ⟨_, _, _, _, by rw [ht]⟩

/-- A receiver touches the queue only. -/
theorem exists_receive_eq (s : Subscription) : ∃ queue, s.receive.2 = { s with queue } := by
  rcases s.receive_cases with ⟨-, hr⟩ | ⟨update, rest, -, hr⟩
  · exact ⟨_, hr⟩
  · exact ⟨rest, by rw [hr]⟩

/-- What a subscription was opened with stays. -/
theorem settings_step (s : Subscription) (read : OrderReader) (move : Move) :
    (s.step read move).query = s.query ∧ (s.step read move).period = s.period ∧
      (s.step read move).capacity = s.capacity := by
  cases move with
  | turn now =>
    obtain ⟨_, _, _, _, h⟩ := s.exists_turn_eq read now
    rw [step, h]
    exact ⟨rfl, rfl, rfl⟩
  | receive =>
    obtain ⟨_, h⟩ := s.exists_receive_eq
    rw [step, h]
    exact ⟨rfl, rfl, rfl⟩
  | cancel => exact ⟨rfl, rfl, rfl⟩
  | dropReceiver => exact ⟨rfl, rfl, rfl⟩
  | drop => exact ⟨rfl, rfl, rfl⟩

/-- Neither side takes part again once it gave the subscription up. -/
theorem sides_step (s : Subscription) (read : OrderReader) (move : Move) :
    (s.cancelled = true → (s.step read move).cancelled = true) ∧
      (s.receiverOpen = false → (s.step read move).receiverOpen = false) := by
  cases move with
  | turn now =>
    obtain ⟨_, _, _, _, h⟩ := s.exists_turn_eq read now
    rw [step, h]
    exact ⟨id, id⟩
  | receive =>
    obtain ⟨_, h⟩ := s.exists_receive_eq
    rw [step, h]
    exact ⟨id, id⟩
  | cancel => exact ⟨fun _ => rfl, id⟩
  | dropReceiver => exact ⟨id, fun _ => rfl⟩
  | drop => exact ⟨fun _ => rfl, fun _ => rfl⟩

theorem isWanted_step {s : Subscription} (h : s.isWanted = false) (read : OrderReader)
    (move : Move) : (s.step read move).isWanted = false := by
  obtain ⟨hcancelled, hopen⟩ := s.sides_step read move
  unfold isWanted at h ⊢
  cases hc : s.cancelled with
  | true => simp [hcancelled hc]
  | false => simp [hopen (by simpa [hc] using h)]

@[simp] theorem query_step (s : Subscription) (read : OrderReader) (move : Move) :
    (s.step read move).query = s.query :=
  (s.settings_step read move).1

@[simp] theorem capacity_start (query : OrderQuery) (period : Nanos) (capacity : Nat) (now : Nanos)
    (cancelled : Bool) :
    (start query period capacity now cancelled).capacity = max 1 capacity :=
  Nat.max_comm capacity 1

@[simp] theorem capacity_step (s : Subscription) (read : OrderReader) (move : Move) :
    (s.step read move).capacity = s.capacity :=
  (s.settings_step read move).2.2

/-! ## Several moves -/

/-- The subscription after several moves, each with the reader that its poller reads with then. -/
def run (s : Subscription) (moves : List (OrderReader × Move)) : Subscription :=
  moves.foldl (fun s move => s.step move.1 move.2) s

@[simp] theorem run_nil (s : Subscription) : s.run [] = s := rfl

@[simp] theorem run_cons (s : Subscription) (read : OrderReader) (move : Move)
    (moves : List (OrderReader × Move)) :
    s.run ((read, move) :: moves) = (s.step read move).run moves := rfl

theorem run_append (s : Subscription) (moves moves' : List (OrderReader × Move)) :
    s.run (moves ++ moves') = (s.run moves).run moves' :=
  List.foldl_append

@[simp] theorem query_run (s : Subscription) (moves : List (OrderReader × Move)) :
    (s.run moves).query = s.query := by
  induction moves generalizing s with
  | nil => rfl
  | cons move moves ih => rw [run_cons, ih, query_step]

@[simp] theorem capacity_run (s : Subscription) (moves : List (OrderReader × Move)) :
    (s.run moves).capacity = s.capacity := by
  induction moves generalizing s with
  | nil => rfl
  | cons move moves ih => rw [run_cons, ih, capacity_step]

end Subscription

end OrderDesk
