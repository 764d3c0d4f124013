import OrderDesk.Proofs.Subscription.Moves

/-!
# How a poller ends

A poller is live until the turn that ends it (`turn_snd_eq_ended_iff`, `isLive_step`). It may wait
for the next read or for room in the queue then: as soon as one side has given the subscription up,
its next turn is the last one (`ends_of_unwanted`).
-/

namespace OrderDesk.Subscription

variable {s : Subscription} {read : OrderReader}

theorem isLive_eq_true_iff : s.isLive = true ↔ s.phase ≠ .ended := by
  simp [isLive]

theorem isLive_eq_false_iff : s.isLive = false ↔ s.phase = .ended := by
  simp [isLive]

/-- A poller that rests does not end. -/
theorem Rests.not_ends {now : Nanos} (h : s.Rests now) : ¬ s.Ends := by
  unfold Rests at h
  intro he
  unfold Ends at he
  cases hp : s.phase with
  | waiting =>
    simp only [hp] at h he
    obtain ⟨hwanted, hperiod, -⟩ := h
    rcases he with hw | h0
    · rw [hwanted] at hw
      cases hw
    · exact hperiod h0
  | sending update =>
    simp only [hp] at h he
    rw [h.1] at he
    cases he
  | ended => simp [hp] at he

theorem turn_snd_eq_ended_iff {now : Nanos} : (s.turn read now).2 = .ended ↔ s.Ends := by
  rcases s.turn_cases read now with ⟨hr, ht⟩ | ⟨he, ht⟩ | ⟨hp, hw, h0, -, ht⟩ |
    ⟨update, hp, hw, -, ht⟩
  · rw [ht]
    exact iff_of_false (by simp) hr.not_ends
  · rw [ht]
    exact iff_of_true rfl he
  · rw [ht]
    simp [Ends, hp, hw, h0]
  · rw [ht]
    simp [Ends, hp, hw]

theorem turn_of_ends (h : s.Ends) (read : OrderReader) (now : Nanos) :
    s.turn read now = (s.finish, .ended) := by
  rcases s.turn_cases read now with ⟨hr, -⟩ | ⟨-, ht⟩ | ⟨hp, hw, h0, -, -⟩ | ⟨update, hp, hw, -, -⟩
  · exact absurd h hr.not_ends
  · exact ht
  · simp [Ends, hp, hw, h0] at h
  · simp [Ends, hp, hw] at h

theorem isLive_of_ends (h : s.Ends) : s.isLive = true := by
  rw [isLive_eq_true_iff]
  intro hp
  simp [Ends, hp] at h

/-- Whatever a poller is about to do, it ends when it is not wanted. -/
theorem ends_of_unwanted (hl : s.isLive = true) (hw : s.isWanted = false) : s.Ends := by
  unfold Ends
  cases hp : s.phase with
  | waiting => exact .inl hw
  | sending update => exact hw
  | ended => simp [isLive, hp] at hl

theorem isLive_poll (hp : s.phase = .waiting) (read : OrderReader) :
    (s.poll read).isLive = true := by
  rcases s.poll_cases read with ⟨hpoll, -⟩ | ⟨order, -, -, -, hpoll⟩
  · rw [hpoll, isLive, hp]
    rfl
  · rw [hpoll]
    rfl

theorem isWanted_run (h : s.isWanted = false) (moves : List (OrderReader × Move)) :
    (s.run moves).isWanted = false := by
  induction moves generalizing s with
  | nil => exact h
  | cons move moves ih => exact ih (isWanted_step h move.1 move.2)

/-- The next turn of a poller that is not wanted leaves it ended. -/
theorem isLive_turn_of_unwanted (hw : s.isWanted = false) (read : OrderReader) (now : Nanos) :
    (s.turn read now).1.isLive = false := by
  cases hl : s.isLive with
  | true =>
    rw [turn_of_ends (ends_of_unwanted hl hw)]
    rfl
  | false =>
    have hp := isLive_eq_false_iff.1 hl
    simp [turn, hp, hl]

/-- A move that does not end the poller leaves it live, or ended, as it was. -/
theorem isLive_step (read : OrderReader) (move : Move)
    (h : ∀ now, move = .turn now → ¬ s.Ends) : (s.step read move).isLive = s.isLive := by
  cases move with
  | turn now =>
    rw [step]
    rcases s.turn_cases read now with ⟨-, ht⟩ | ⟨he, -⟩ | ⟨hp, -, -, -, ht⟩ | ⟨update, hp, -, -, ht⟩
    · rw [ht]
    · exact absurd he (h now rfl)
    · have hl : s.isLive = true := isLive_eq_true_iff.2 (by simp [hp])
      rw [ht, hl]
      exact isLive_poll (s := { s with nextPoll := nextDue s.nextPoll s.period now }) hp read
    · have hl : s.isLive = true := isLive_eq_true_iff.2 (by simp [hp])
      rw [ht, hl]
      rfl
  | receive =>
    obtain ⟨queue, hr⟩ := s.exists_receive_eq
    rw [step, hr]
    rfl
  | cancel => rfl
  | dropReceiver => rfl
  | drop => rfl

end OrderDesk.Subscription
