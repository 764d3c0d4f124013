import OrderDesk.Proofs.Binary64.Bounded
import OrderDesk.Proofs.Lookup.Backoff

/-!
# The budget of a series of attempts

`Retry.answers` is what a series returns when its delays are asked for call by call: some delays,
none above the limit, and then nothing any more (`exists_answers_eq`). What is drawn changes the
delays but not the series (`run_congr`), and what there is to draw from is a proper range
(`Sound.drawable`), so that the series never breaks off. `budget_of_fits` puts it together.
-/

namespace OrderDesk

/-- The delays that can be held end before this: 64 bits of seconds. -/
def delayLimit : Nanos := 0x10000000000000000 * nanosPerSecond

/-- A configuration with a delay that can be held, retries that can be counted, and a jitter of at
most the delay itself. -/
structure RetryConfig.Fits (config : RetryConfig) : Prop where
  initialDelay : config.initialDelay < delayLimit
  maxRetries : config.maxRetries + 1 < countLimit
  jitterFactor : config.jitterFactor.le .one = true

namespace Retry

variable {r : Retry} {draw draw' : Binary64 → Binary64} {draws draws' : List (Binary64 → Binary64)}

/-- What a series returns, call by call. -/
def answers (r : Retry) : List (Binary64 → Binary64) → List RetryAnswer
  | [] => []
  | draw :: draws => (r.next draw).1 :: (r.next draw).2.answers draws

/-- Rounding at most doubles a number of milliseconds and its product with the factor. -/
theorem drawable_mul {millis : Nat} {factor : Binary64} (hmillis : millis < 2 ^ 100)
    (hone : factor.le .one = true) (hjitter : factor.le .zero = false) :
    Drawable ((Binary64.ofNat millis).mul factor) := by
  have hbase := Binary64.atMost_ofNat (n := millis) (by omega)
  have hrange := hbase.mul (Binary64.atMost_one_of_le hone hjitter) (by omega)
  exact ⟨hrange.zero_le, hrange.isFinite_add_self (by omega)⟩

/-! ## One call -/

/-- Only the one range is drawn from, and not even that without jitter. -/
theorem next_congr (h : r.config.jitterFactor.le .zero = true ∨
    draw r.jitterRange = draw' r.jitterRange) : r.next draw = r.next draw' := by
  have hjittered : r.jittered draw = r.jittered draw' := by
    unfold jittered
    rcases h with hnone | hsame
    · rw [if_pos hnone, if_pos hnone]
    · rw [hsame]
  simp only [next, hjittered]

theorem next_snd_congr (r : Retry) (draw draw' : Binary64 → Binary64) :
    (r.next draw).2 = (r.next draw').2 := by
  unfold next
  split
  · rfl
  · split <;> rfl

theorem nextDelay_le (r : Retry) : r.nextDelay ≤ r.config.maxDelay :=
  calc r.nextDelay
    _ ≤ r.config.maxDelay / nanosPerMilli * nanosPerMilli :=
        Nat.mul_le_mul_right _ (Nat.le_trans (Nat.min_le_left _ _) (Nat.min_le_right _ _))
    _ ≤ r.config.maxDelay := Nat.div_mul_le_self _ _

theorem nextDelay_lt (r : Retry) : r.nextDelay < delayLimit :=
  calc r.nextDelay
    _ ≤ maxMillis * nanosPerMilli := Nat.mul_le_mul_right _ (Nat.min_le_right _ _)
    _ < delayLimit := by decide

/-! ## A whole series -/

theorem run_congr (r : Retry) (h : draws.length = draws'.length) :
    r.run draws = r.run draws' := by
  induction draws generalizing r draws' with
  | nil => rw [List.eq_nil_of_length_eq_zero h.symm]
  | cons draw draws ih =>
    cases draws' with
    | nil => cases h
    | cons draw' draws' =>
      rw [run_cons, run_cons, r.next_snd_congr draw draw']
      exact ih _ (Nat.succ.inj h)

theorem answers_congr (hnone : r.config.jitterFactor.le .zero = true)
    (h : draws.length = draws'.length) : r.answers draws = r.answers draws' := by
  induction draws generalizing r draws' with
  | nil => rw [List.eq_nil_of_length_eq_zero h.symm]
  | cons draw draws ih =>
    cases draws' with
    | nil => cases h
    | cons draw' draws' =>
      have hsame : r.next draw = r.next draw' := next_congr (.inl hnone)
      have hrest := ih (r := (r.next draw).2) (by rw [config_next]; exact hnone) (Nat.succ.inj h)
      rw [answers, answers, hrest, hsame]

/-- What holds of a series of attempts, however far it has come. -/
structure Sound (r : Retry) : Prop where
  retries : r.retries ≤ r.config.maxRetries
  delay : r.delay < delayLimit
  capped : 0 < r.retries → r.delay ≤ r.config.maxDelay

theorem sound_start {config : RetryConfig} (h : config.initialDelay < delayLimit) :
    (start config).Sound where
  retries := Nat.zero_le _
  delay := h
  capped := fun hpos => absurd hpos (Nat.lt_irrefl 0)

namespace Sound

theorem advance (h : r.retries < r.config.maxRetries) : r.advance.Sound :=
  ⟨h, r.nextDelay_lt, fun _ => r.nextDelay_le⟩

variable (h : r.Sound) (hone : r.config.jitterFactor.le .one = true)
include h hone

/-- There is something to draw from, since the delay is far from the largest double. -/
theorem drawable (hjitter : r.config.jitterFactor.le .zero = false) : Drawable r.jitterRange := by
  have hlimit : delayLimit < 2 ^ 100 := by decide
  exact drawable_mul (Nat.lt_of_le_of_lt (Nat.div_le_self _ _) (Nat.lt_trans h.delay hlimit))
    hone hjitter

theorem canDraw : r.CanDraw := by
  cases hjitter : r.config.jitterFactor.le .zero with
  | true => exact .inl hjitter
  | false => exact .inr (h.drawable hone hjitter)

theorem next_of_lt (hleft : r.retries < r.config.maxRetries) (draw : Binary64 → Binary64) :
    r.next draw = (.delay (min (r.jittered draw) r.config.maxDelay), r.advance) :=
  next_of_canDraw hleft (h.canDraw hone) draw

theorem next (draw : Binary64 → Binary64) : (r.next draw).2.Sound := by
  by_cases hleft : r.retries < r.config.maxRetries
  · rw [h.next_of_lt hone hleft]
    exact advance hleft
  · rw [next_of_le (Nat.not_lt.1 hleft)]
    exact h

theorem run (draws : List (Binary64 → Binary64)) : (r.run draws).Sound := by
  induction draws generalizing r with
  | nil => exact h
  | cons draw draws ih => exact ih (h.next hone draw) (by rw [config_next]; exact hone)

end Sound

/-- The first calls return a delay, none above the limit, as long as there are retries left. All
later ones return nothing. -/
theorem exists_answers_eq (h : r.Sound) (hone : r.config.jitterFactor.le .one = true)
    (draws : List (Binary64 → Binary64)) :
    ∃ delays : List Nanos, r.answers draws = delays.map .delay ++
        List.replicate (draws.length - (r.config.maxRetries - r.retries)) .spent ∧
      delays.length = min draws.length (r.config.maxRetries - r.retries) ∧
      ∀ d ∈ delays, d ≤ r.config.maxDelay := by
  induction draws generalizing r with
  | nil => exact ⟨[], by simp [answers], by simp, by simp⟩
  | cons draw draws ih =>
    obtain ⟨delays, hanswers, hlength, hcapped⟩ :=
      ih (h.next hone draw) (by rw [config_next]; exact hone)
    rw [config_next] at hanswers hlength hcapped
    by_cases hleft : r.retries < r.config.maxRetries
    · rw [h.next_of_lt hone hleft] at hanswers hlength
      dsimp only [retries_advance] at hanswers hlength
      refine ⟨min (r.jittered draw) r.config.maxDelay :: delays, ?_, ?_, ?_⟩
      · rw [answers, h.next_of_lt hone hleft, hanswers, List.map_cons, List.cons_append,
          List.length_cons]
        congr 3
        omega
      · rw [List.length_cons, hlength, List.length_cons]
        omega
      · exact List.forall_mem_cons.2 ⟨Nat.min_le_right _ _, hcapped⟩
    · have hspent : r.config.maxRetries - r.retries = 0 := by omega
      rw [next_of_le (Nat.not_lt.1 hleft), hspent] at hanswers hlength
      have hnone : delays = [] := List.eq_nil_of_length_eq_zero (by omega)
      refine ⟨[], ?_, ?_, by simp⟩
      · rw [answers, next_of_le (Nat.not_lt.1 hleft), hanswers, hnone, hspent]
        rfl
      · rw [hspent]
        rfl

/-! ## The budget -/

/-- What a new series keeps to while its delays are asked for call by call, whatever is drawn. -/
structure Budget (config : RetryConfig) (draws : List (Binary64 → Binary64)) : Prop where
  /-- As many calls as there are retries return a delay, none above the limit, and later calls
  return nothing. -/
  answered : ∃ delays : List Nanos, (start config).answers draws = delays.map .delay ++
      List.replicate (draws.length - config.maxRetries) .spent ∧
    delays.length = min draws.length config.maxRetries ∧ ∀ d ∈ delays, d ≤ config.maxDelay
  /-- The first attempt is counted, and every retry. -/
  attempts : ((start config).run draws).attempts = 1 + min draws.length config.maxRetries ∧
    ((start config).run draws).attempts < countLimit
  /-- When the retries are used up, a further call changes nothing. -/
  spent : config.maxRetries ≤ draws.length → ∀ draw : Binary64 → Binary64,
    ((start config).run draws).next draw = (.spent, (start config).run draws)
  /-- From the second call on even the delay without jitter is within the limit. A series without
  retries has none: no call makes a delay of the first one, and it stays as it is. -/
  capped : 0 < draws.length → 0 < config.maxRetries →
    ((start config).run draws).delay ≤ config.maxDelay
  /-- A call that returns a delay draws from one range, if at all, and that can be drawn from. -/
  drawn : draws.length < config.maxRetries → config.jitterFactor.le .zero = true ∨
    Drawable ((start config).run draws).jitterRange ∧ ∀ draw draw' : Binary64 → Binary64,
      draw ((start config).run draws).jitterRange = draw' ((start config).run draws).jitterRange →
      ((start config).run draws).next draw = ((start config).run draws).next draw'
  /-- Other draws lead to the same delay without jitter and to the same attempts, and without
  jitter to the same answers. -/
  independent : ∀ draws' : List (Binary64 → Binary64), draws'.length = draws.length →
    (start config).run draws' = (start config).run draws ∧ (config.jitterFactor.le .zero = true →
      (start config).answers draws' = (start config).answers draws)

/-- **The budget is kept.** A series of attempts returns as many delays as it has retries, none
above the limit, counts its attempts, and does not let the jitter of one delay into the next. -/
theorem budget_of_fits {config : RetryConfig} (h : config.Fits)
    (draws : List (Binary64 → Binary64)) : Budget config draws := by
  have hsound := (sound_start h.initialDelay).run h.jitterFactor draws
  have hconfig : ((start config).run draws).config = config := config_run _ _
  have hretries : ((start config).run draws).retries = min draws.length config.maxRetries := by
    rw [retries_run _ (Nat.zero_le _)]
    simp only [start, Nat.zero_add]
  have hattempts := attempts_run_start config draws
  have hcount := h.maxRetries
  refine
    { answered := exists_answers_eq (sound_start h.initialDelay) h.jitterFactor draws
      attempts := ⟨hattempts, by omega⟩
      spent := fun hspent draw => next_of_le (by rw [hconfig, hretries]; omega) draw
      capped := fun hcalls hsome => ?_
      drawn := fun _ => ?_
      independent := fun draws' hlength =>
        ⟨run_congr _ hlength, fun hnone => answers_congr hnone hlength⟩ }
  · have hcapped := hsound.capped (by rw [hretries]; omega)
    rwa [hconfig] at hcapped
  · cases hjitter : config.jitterFactor.le .zero with
    | true => exact .inl rfl
    | false =>
      refine .inr ⟨hsound.drawable ?_ ?_, fun draw draw' hsame => next_congr (.inr hsame)⟩
      · rw [hconfig]
        exact h.jitterFactor
      · rw [hconfig]
        exact hjitter

/-- A first delay above the limit, a factor that is no number, and as much jitter as delay. -/
def wild : RetryConfig :=
  { RetryConfig.standard with
    initialDelay := 5 * nanosPerSecond
    multiplier := .nan
    jitterFactor := .one }

theorem budget_of_fits_wild : wild.Fits ∧ Budget wild [id, fun _ => .infinite false, id] := by
  have hfits : wild.Fits :=
    { initialDelay := by decide
      maxRetries := by decide
      jitterFactor := by decide }
  exact ⟨hfits, budget_of_fits hfits _⟩

/-- A first delay above the limit, and no retries. -/
def unretried : RetryConfig :=
  { RetryConfig.never with
    initialDelay := 5 * nanosPerSecond
    jitterFactor := .zero }

/-- Without retries the first delay is never replaced, and stays above the limit. -/
theorem not_capped_unretried : unretried.Fits ∧
    unretried.maxDelay < ((start unretried).run [id]).delay ∧
    unretried.maxDelay < ((start unretried).run [id, id]).delay := by
  refine ⟨⟨by decide, by decide, by decide⟩, ?_, ?_⟩ <;> decide

end Retry

end OrderDesk
