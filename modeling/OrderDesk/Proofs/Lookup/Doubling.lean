import OrderDesk.Proofs.Lookup.Budget

/-!
# Delays that double

With a factor of two and no jitter the delays of a series are `doublings`: whole milliseconds that
double until they reach the limit, and then stay there (`climbs_doublings`). The doubles they are
computed with are exact (`roundNat_twice`), since the limit has at most 53 binary digits; and to cut
every delay to the limit before it is doubled is to cut the last one (`nextDelay_eq`).
-/

namespace OrderDesk

/-- A configuration with a first and a greatest delay of so many milliseconds, the factor two and no
jitter. -/
structure RetryConfig.Doubling (config : RetryConfig) (first cap : Nat) : Prop where
  initialDelay : config.initialDelay = first * nanosPerMilli
  maxDelay : config.maxDelay = cap * nanosPerMilli
  first_le : first ≤ cap
  cap_lt : cap < 2 ^ 53
  multiplier : config.multiplier = .ofNat 2
  jitterFactor : config.jitterFactor.le .zero = true

namespace Retry

/-! ## The delays -/

/-- So many delays in milliseconds, each twice the one before and none above a greatest one. -/
def doublings (first cap count : Nat) : List Nat :=
  (List.range count).map fun k => min (first * 2 ^ k) cap

/-- Delays that never fall, double until they reach a greatest one, and stay there. -/
structure Climbs (delays : List Nat) (cap : Nat) : Prop where
  ascending : delays.Pairwise (· ≤ ·)
  doubling : ∀ k d d' : Nat, delays[k]? = some d → delays[k + 1]? = some d' → d' = min (2 * d) cap
  staying : ∀ j k d : Nat, delays[j]? = some cap → j ≤ k → delays[k]? = some d → d = cap

theorem doublings_succ (first cap count : Nat) :
    doublings first cap (count + 1) = min first cap :: doublings (2 * first) cap count := by
  have hpow (k : Nat) : first * 2 ^ (k + 1) = 2 * first * 2 ^ k := by ring
  simp only [doublings, List.range_succ_eq_map, List.map_cons, List.map_map, Nat.pow_zero,
    Nat.mul_one]
  exact congrArg _ (List.map_congr_left fun k _ => by simp only [Function.comp, hpow])

theorem getElem?_doublings {first cap count k d : Nat}
    (h : (doublings first cap count)[k]? = some d) : d = min (first * 2 ^ k) cap := by
  rw [doublings, List.getElem?_map] at h
  obtain ⟨k', hk', rfl⟩ := Option.map_eq_some_iff.1 h
  rw [(List.getElem?_eq_some_iff.1 hk').2.symm, List.getElem_range]

theorem mul_two_pow_mono {j k : Nat} (first cap : Nat) (h : j ≤ k) :
    min (first * 2 ^ j) cap ≤ min (first * 2 ^ k) cap :=
  min_le_min_right cap (Nat.mul_le_mul_left first (Nat.pow_le_pow_right Nat.two_pos h))

theorem climbs_doublings (first cap count : Nat) : Climbs (doublings first cap count) cap where
  ascending := by
    refine List.pairwise_map.2 (List.pairwise_lt_range.imp fun hlt => ?_)
    exact mul_two_pow_mono first cap hlt.le
  doubling k d d' hd hd' := by
    have htwice : first * 2 ^ (k + 1) = 2 * (first * 2 ^ k) := by ring
    rw [getElem?_doublings hd', getElem?_doublings hd, htwice]
    omega
  staying j k d hcap hjk hd := by
    have hle := mul_two_pow_mono first cap hjk
    rw [← getElem?_doublings hcap, ← getElem?_doublings hd] at hle
    have hcut := getElem?_doublings hd
    omega

/-! ## The series -/

/-- A number of at most 53 binary digits is doubled exactly. -/
theorem roundNat_twice {millis : Nat} (h : millis < 2 ^ 53) :
    ((Binary64.ofNat millis).mul (.ofNat 2)).roundNat = millis * 2 := by
  have hmillis : (Binary64.ofNat millis).Denotes millis := Binary64.denotes_ofNat h
  have htwo : (Binary64.ofNat 2).Denotes 2 := Binary64.denotes_ofNat (by decide)
  have htwice : Binary64.Representable (millis * 2) :=
    ⟨millis, 1, h, by decide, (Nat.shiftLeft_eq millis 1).symm⟩
  exact (hmillis.mul htwo htwice).roundNat

variable {r : Retry} {first cap : Nat}

theorem nextDelay_eq (h : r.config.Doubling first cap) {millis : Nat}
    (hdelay : r.delay = min millis cap * nanosPerMilli) :
    r.nextDelay = min (2 * millis) cap * nanosPerMilli := by
  have hcap := h.cap_lt
  have hunit : 0 < nanosPerMilli := by decide
  have hgrown : ((Binary64.ofNat (r.delay / nanosPerMilli)).mul r.config.multiplier).roundNat =
      min millis cap * 2 := by
    rw [hdelay, Nat.mul_div_cancel _ hunit, h.multiplier]
    exact roundNat_twice (by omega)
  have hlimit : r.config.maxDelay / nanosPerMilli = cap := by
    rw [h.maxDelay, Nat.mul_div_cancel _ hunit]
  rw [nextDelay, hgrown, hlimit]
  congr 1
  unfold maxMillis
  omega

/-- From a delay on, the series returns its doublings as long as there are retries left. -/
theorem answers_eq_doublings (h : r.config.Doubling first cap) {millis : Nat}
    (hdelay : r.delay = min millis cap * nanosPerMilli)
    (draws : List (Binary64 → Binary64)) :
    r.answers draws =
      (doublings millis cap (min draws.length (r.config.maxRetries - r.retries))).map
        (fun d => .delay (d * nanosPerMilli)) ++
      List.replicate (draws.length - (r.config.maxRetries - r.retries)) .spent := by
  induction draws generalizing r millis with
  | nil => simp [answers, doublings]
  | cons draw draws ih =>
    by_cases hleft : r.retries < r.config.maxRetries
    · have hreturned : min (r.jittered draw) r.config.maxDelay =
          min millis cap * nanosPerMilli := by
        rw [jittered, if_pos h.jitterFactor, hdelay, h.maxDelay]
        exact Nat.min_eq_left (Nat.mul_le_mul_right _ (Nat.min_le_right _ _))
      have hrest := ih (r := r.advance) h (nextDelay_eq h hdelay)
      have hcount : min (draws.length + 1) (r.config.maxRetries - r.retries) =
          min draws.length (r.config.maxRetries - (r.retries + 1)) + 1 := by omega
      have hspare : draws.length + 1 - (r.config.maxRetries - r.retries) =
          draws.length - (r.config.maxRetries - (r.retries + 1)) := by omega
      rw [answers, next_of_canDraw hleft (.inl h.jitterFactor), hreturned, hrest, List.length_cons,
        hcount, hspare, doublings_succ]
      rfl
    · have hspent : r.config.maxRetries - r.retries = 0 := by omega
      have hrest := ih h hdelay
      rw [hspent] at hrest ⊢
      rw [answers, next_of_le (Nat.not_lt.1 hleft), hrest, Nat.min_zero, Nat.min_zero]
      rfl

/-- **How the delays grow.** A series with the factor two and no jitter returns the doublings of its
first delay, cut to the limit, as often as it has retries. They are exact however many there are,
never fall, double until they reach the limit, and stay there. -/
theorem answers_start_doubling {config : RetryConfig} (h : config.Doubling first cap)
    (draws : List (Binary64 → Binary64)) :
    (start config).answers draws =
        (doublings first cap (min draws.length config.maxRetries)).map
          (fun millis => .delay (millis * nanosPerMilli)) ++
        List.replicate (draws.length - config.maxRetries) .spent ∧
      Climbs (doublings first cap (min draws.length config.maxRetries)) cap := by
  have hdelay : (start config).delay = min first cap * nanosPerMilli := by
    rw [Nat.min_eq_left h.first_le]
    exact h.initialDelay
  exact ⟨answers_eq_doublings h hdelay draws, climbs_doublings _ _ _⟩

/-- Doubling to the greatest limit there is, and more retries than a delay has binary digits. -/
def steep : RetryConfig :=
  { RetryConfig.standard with
    initialDelay := 3 * nanosPerMilli
    maxDelay := (2 ^ 53 - 1) * nanosPerMilli
    jitterFactor := .zero
    maxRetries := 200 }

theorem answers_start_doubling_steep : steep.Doubling 3 (2 ^ 53 - 1) ∧
    (start steep).answers (List.replicate 300 id) =
        (doublings 3 (2 ^ 53 - 1) 200).map (fun millis => .delay (millis * nanosPerMilli)) ++
        List.replicate 100 .spent ∧
      Climbs (doublings 3 (2 ^ 53 - 1) 200) (2 ^ 53 - 1) := by
  have hdoubling : steep.Doubling 3 (2 ^ 53 - 1) :=
    { initialDelay := rfl
      maxDelay := rfl
      first_le := by decide
      cap_lt := by decide
      multiplier := rfl
      jitterFactor := by decide }
  have hdelays := answers_start_doubling hdoubling (List.replicate 300 id)
  rw [List.length_replicate] at hdelays
  exact ⟨hdoubling, hdelays⟩

end Retry

end OrderDesk
