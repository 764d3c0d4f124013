import OrderDesk.Proofs.Subscription.Delivery

/-!
# The first update

The first poll that a subscription shows decides what its receiver is told first. If it found an
order of the subscriber's, an update about this order is made before anything else
(`Opening.first`), and it stays the first one until it is received (`received_of_head`).
-/

namespace OrderDesk.Subscription

open Signal

/-- What links the first poll of a subscription to its first update. -/
structure Opening (s : Subscription) (shown : List Signal) : Prop where
  /-- No update is made before a poll. -/
  untouched : polls shown = [] → s.lastSeen = none ∧ updates shown ++ s.phase.pending = []
  /-- The first update is about the order that the first poll found. It is missing only when nobody
  wanted it before it was queued. -/
  first : ∀ order, (polls shown).head? = some (.ok order) → order.userId = s.query.userId →
    (updates shown ++ s.phase.pending).head? = some order.toUpdate ∨
      (updates shown = [] ∧ s.phase = .ended ∧ s.isWanted = false)

namespace Opening

variable {s : Subscription} {shown : List Signal}

theorem start (query : OrderQuery) (period : Nanos) (capacity : Nat) (now : Nanos)
    (cancelled : Bool) : Opening (Subscription.start query period capacity now cancelled) [] :=
  ⟨fun _ => ⟨rfl, rfl⟩, fun _ h => by cases h⟩

/-- The first update about an order, as long as it is wanted. -/
theorem head_of_wanted (h : Opening s shown) {order : Order}
    (hf : (polls shown).head? = some (.ok order)) (howner : order.userId = s.query.userId)
    (hw : s.isWanted = true) : (updates shown ++ s.phase.pending).head? = some order.toUpdate := by
  rcases h.first order hf howner with hhead | ⟨-, -, hunwanted⟩
  · exact hhead
  · rw [hw] at hunwanted
    cases hunwanted

/-- The first update that is queued is the one about that order. -/
theorem head_updates (h : Opening s shown) {order : Order}
    (hf : (polls shown).head? = some (.ok order)) (howner : order.userId = s.query.userId)
    {u : OrderUpdate} (hu : (updates shown).head? = some u) : u = order.toUpdate := by
  rcases h.first order hf howner with hhead | ⟨hnil, -⟩
  · rw [List.head?_append, hu] at hhead
    exact Option.some.inj hhead
  · rw [hnil] at hu
    cases hu

/-- Nothing is lost by what touches neither cursor nor phase. -/
theorem of_same {s' : Subscription} (h : Opening s shown) (hquery : s'.query = s.query)
    (hphase : s'.phase = s.phase) (hseen : s'.lastSeen = s.lastSeen)
    (hwanted : s.isWanted = false → s'.isWanted = false) : Opening s' shown := by
  refine ⟨fun hp => ?_, fun order hf howner => ?_⟩
  · rw [hseen, hphase]
    exact h.untouched hp
  · rw [hphase]
    rw [hquery] at howner
    exact (h.first order hf howner).imp_right fun ⟨hnil, hended, hw⟩ =>
      ⟨hnil, hended, hwanted hw⟩

theorem finish (h : Opening s shown) (he : s.Ends) : Opening s.finish shown := by
  refine ⟨fun hp => ?_, fun order hf howner => ?_⟩
  · obtain ⟨hseen, hmade⟩ := h.untouched hp
    rw [List.append_eq_nil_iff] at hmade
    refine ⟨hseen, ?_⟩
    rw [hmade.1]
    rfl
  · rcases h.first order hf howner with hhead | ⟨hnil, hended, -⟩
    · -- an update that was about to be queued is lost, so it was not wanted
      cases hu : updates shown with
      | nil =>
        refine .inr ⟨rfl, rfl, ?_⟩
        unfold Ends at he
        cases hp : s.phase with
        | waiting => simp [hu, hp, PollerPhase.pending] at hhead
        | sending update =>
          simp only [hp] at he
          exact he
        | ended => simp [hp] at he
      | cons u rest =>
        rw [hu] at hhead
        exact .inl hhead
    · simp [Ends, hended] at he

theorem polled (h : Opening s shown) (hp : s.phase = .waiting) (read : OrderReader) :
    Opening (s.poll read) (shown ++ [.polled (read s.query.orderId)]) := by
  refine ⟨fun hnone => by simp at hnone, fun order hf howner => ?_⟩
  rw [polls_concat_polled] at hf
  rw [updates_concat_polled]
  cases hpolls : polls shown with
  | nil =>
    obtain ⟨hseen, hmade⟩ := h.untouched hpolls
    rw [hp, PollerPhase.pending, List.append_nil] at hmade
    rw [hpolls, List.nil_append, List.head?_cons, Option.some.injEq] at hf
    rcases s.poll_cases read with ⟨hpoll, hsame⟩ | ⟨found, hfound, -, -, hpoll⟩
    · rw [hpoll] at howner
      have hnew := hsame order hf howner
      rw [hseen] at hnew
      cases hnew
    · obtain rfl : found = order := Except.ok.inj (hfound.symm.trans hf)
      rw [hpoll, hmade]
      exact .inl rfl
  | cons found rest =>
    rw [hpolls, List.cons_append, List.head?_cons] at hf
    have hquery : (s.poll read).query = s.query := by
      rcases s.poll_cases read with ⟨hpoll, -⟩ | ⟨found, -, -, -, hpoll⟩ <;> rw [hpoll]
    rw [hquery] at howner
    rcases h.first order (by rw [hpolls]; exact hf) howner with hhead | ⟨-, hended, -⟩
    · rw [hp, PollerPhase.pending, List.append_nil] at hhead
      rw [List.head?_append, hhead]
      exact .inl rfl
    · rw [hp] at hended
      cases hended

theorem queued (h : Opening s shown) {update : OrderUpdate} (hp : s.phase = .sending update) :
    Opening { s with queue := s.queue ++ [update], phase := .waiting }
      (shown ++ [.queued update]) := by
  have hmade : updates (shown ++ [.queued update]) ++ PollerPhase.waiting.pending =
      updates shown ++ s.phase.pending := by
    simp [hp, PollerPhase.pending]
  refine ⟨fun hnone => ?_, fun order hf howner => ?_⟩
  · rw [polls_concat_queued] at hnone
    have hnil := (h.untouched hnone).2
    simp [hp, PollerPhase.pending] at hnil
  · rw [polls_concat_queued] at hf
    rw [hmade]
    rcases h.first order hf howner with hhead | ⟨-, hended, -⟩
    · exact .inl hhead
    · rw [hp] at hended
      cases hended

theorem step (h : Opening s shown) (read : OrderReader) (move : Move) :
    Opening (s.step read move) (shown ++ s.signals read move) := by
  cases move with
  | turn now =>
    unfold Subscription.step signals
    rcases s.turn_cases read now with ⟨-, ht⟩ | ⟨he, ht⟩ | ⟨hp, -, -, -, ht⟩ | ⟨update, hp, -, -, ht⟩
    · simpa [ht] using h
    · simpa [ht] using h.finish he
    · have hdue : Opening { s with nextPoll := nextDue s.nextPoll s.period now } shown :=
        h.of_same rfl rfl rfl id
      simpa [ht] using hdue.polled hp read
    · simpa [ht] using h.queued hp
  | receive =>
    obtain ⟨queue, hr⟩ := s.exists_receive_eq
    rw [signals, List.append_nil, Subscription.step, hr]
    exact h.of_same rfl rfl rfl id
  | cancel =>
    rw [signals, List.append_nil]
    exact h.of_same rfl rfl rfl fun _ => rfl
  | dropReceiver =>
    rw [signals, List.append_nil]
    exact h.of_same rfl rfl rfl fun _ => isWanted_dropReceiver s
  | drop =>
    rw [signals, List.append_nil]
    exact h.of_same rfl rfl rfl fun _ => rfl

theorem run (h : Opening s shown) (moves : List (OrderReader × Move)) :
    Opening (s.run moves) (shown ++ s.shown moves) := by
  induction moves generalizing s shown with
  | nil => simpa [Subscription.shown] using h
  | cons move moves ih =>
    obtain ⟨read, move⟩ := move
    rw [run_cons, Subscription.shown, ← List.append_assoc]
    exact ih (h.step read move)

end Opening

/-- What is first among the updates that are queued or about to be is received after the next turn
of the poller. -/
theorem received_of_head {s : Subscription} {u : OrderUpdate}
    (h : (s.queue ++ s.phase.pending).head? = some u) (hw : s.isWanted = true)
    (hc : 0 < s.capacity) (read : OrderReader) (now : Nanos) :
    (s.turn read now).1.receive.1 = .update u := by
  -- the turn puts something at the end of the queue at most
  have hreceive (queue : List OrderUpdate) (hq : queue.head? = some u) {t : Subscription}
      (ht : t.queue = queue) : t.receive.1 = .update u := by
    unfold receive
    cases queue with
    | nil => cases hq
    | cons v rest =>
      rw [ht]
      exact congrArg _ (Option.some.inj hq)
  cases hq : s.queue with
  | nil =>
    have hp : s.phase = .sending u := by
      cases hp : s.phase <;> simp_all [PollerPhase.pending]
    have hroom : s.hasRoom = true := by simpa [hasRoom, hq] using hc
    refine hreceive [u] rfl ?_
    unfold isWanted at hw
    simp_all [turn]
  | cons v rest =>
    have hv : v = u := by simpa [hq] using h
    rcases s.turn_cases read now with ⟨-, ht⟩ | ⟨-, ht⟩ | ⟨-, -, -, -, ht⟩ | ⟨update, -, -, -, ht⟩
    · rw [ht]
      exact hreceive (v :: rest) (congrArg some hv) hq
    · rw [ht]
      exact hreceive (v :: rest) (congrArg some hv) hq
    · rw [ht]
      refine hreceive (v :: rest) (congrArg some hv) ?_
      rcases poll_cases { s with nextPoll := nextDue s.nextPoll s.period now } read with
        ⟨hpoll, -⟩ | ⟨order, -, -, -, hpoll⟩
      · rw [hpoll]
        exact hq
      · rw [hpoll]
        exact hq
    · rw [ht]
      exact hreceive (v :: rest ++ [update]) (congrArg some hv) (by rw [hq])

end OrderDesk.Subscription
