import OrderDesk.Lookup.Retry

/-!
# How many attempts there are

To ask for the next delay comes to one of three things: there is no retry left, there is a delay, or
there is nothing to draw it from.

`Retry.run` is a series of attempts that goes on failing: before each of the next ones its delay is
asked for, with some random draw. The attempts are counted up to the last retry and no further,
whatever is drawn (`attempts_run_start`).
-/

namespace OrderDesk

/-- Attempts are counted below this. -/
def countLimit : Nat := 0x100000000

namespace Retry

/-! ## One call -/

section
variable {r : Retry}

theorem next_of_le (h : r.config.maxRetries ≤ r.retries) (draw : Binary64 → Binary64) :
    r.next draw = (.spent, r) :=
  if_pos h

theorem next_of_canDraw (h : r.retries < r.config.maxRetries) (hcan : r.CanDraw)
    (draw : Binary64 → Binary64) :
    r.next draw = (.delay (min (r.jittered draw) r.config.maxDelay), r.advance) :=
  (if_neg (Nat.not_le.2 h)).trans (if_pos hcan)

theorem next_of_not_canDraw (h : r.retries < r.config.maxRetries) (hcannot : ¬ r.CanDraw)
    (draw : Binary64 → Binary64) :
    r.next draw = (.broken, { r with retries := r.retries + 1 }) :=
  (if_neg (Nat.not_le.2 h)).trans (if_neg hcannot)

end

/-! ## A whole series -/

/-- How far a series has come once the next delay was asked for several times. -/
def run (r : Retry) (draws : List (Binary64 → Binary64)) : Retry :=
  draws.foldl (fun r draw => (r.next draw).2) r

@[simp] theorem run_nil (r : Retry) : r.run [] = r := rfl

@[simp] theorem run_cons (r : Retry) (draw : Binary64 → Binary64)
    (draws : List (Binary64 → Binary64)) : r.run (draw :: draws) = (r.next draw).2.run draws := rfl

@[simp] theorem config_run (r : Retry) (draws : List (Binary64 → Binary64)) :
    (r.run draws).config = r.config := by
  induction draws generalizing r with
  | nil => rfl
  | cons draw draws ih => rw [run_cons, ih, config_next]

theorem retries_next (r : Retry) (h : r.retries ≤ r.config.maxRetries)
    (draw : Binary64 → Binary64) :
    (r.next draw).2.retries = min (r.retries + 1) r.config.maxRetries := by
  by_cases hleft : r.retries < r.config.maxRetries
  · rw [Nat.min_eq_left hleft]
    by_cases hcan : r.CanDraw
    · rw [next_of_canDraw hleft hcan, retries_advance]
    · rw [next_of_not_canDraw hleft hcan]
  · rw [next_of_le (Nat.not_lt.1 hleft)]
    dsimp only
    omega

theorem retries_run (r : Retry) (h : r.retries ≤ r.config.maxRetries)
    (draws : List (Binary64 → Binary64)) :
    (r.run draws).retries = min (r.retries + draws.length) r.config.maxRetries := by
  induction draws generalizing r with
  | nil => simp [h]
  | cons draw draws ih =>
    have hnext := r.retries_next h draw
    rw [run_cons, ih _ (by rw [hnext, config_next]; omega), hnext, config_next, List.length_cons]
    omega

/-- The first attempt is counted, and every retry. -/
theorem attempts_run_start (config : RetryConfig) (draws : List (Binary64 → Binary64)) :
    ((start config).run draws).attempts = 1 + min draws.length config.maxRetries := by
  have h := (start config).retries_run (Nat.zero_le _) draws
  rw [attempts, h]
  simp only [start]
  omega

/-- The attempts of every series stay below a limit just when one more than the retries does. -/
theorem attempts_run_lt_iff (config : RetryConfig) (limit : Nat) :
    (∀ draws, ((start config).run draws).attempts < limit) ↔ config.maxRetries + 1 < limit := by
  constructor
  · intro h
    have hlast := h (List.replicate config.maxRetries id)
    rw [attempts_run_start, List.length_replicate] at hlast
    omega
  · intro h draws
    rw [attempts_run_start]
    omega

end Retry

end OrderDesk
