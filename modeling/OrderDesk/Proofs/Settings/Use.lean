import OrderDesk.Proofs.Desk.Following
import OrderDesk.Proofs.Lookup.Entries
import OrderDesk.Proofs.Lookup.Fetching
import OrderDesk.Proofs.Settings.Variables

/-!
# Whether accepted settings can be used

The clock, the queues and the count of attempts all end somewhere. `Settings.Usable` says that a
service with some settings stays inside: when its simulator starts, when somebody subscribes, when
markets are kept in the cache, and when the market service fails again and again.

The rules for settings keep the zeros out and no large number. `usable_iff` says how much room is
needed beyond the rules, and `largest_not_usable` that settings are accepted which do not leave it.
The jitter of the retries needs none: no lookup ever breaks off (`not_breaksOff_of_load`).
-/

namespace OrderDesk

namespace Settings

/-- A service that begins with some settings. -/
def desk (s : Settings) : Desk :=
  .make s.pollInterval s.bufferCapacity s.simulatorInterval

/-! ## Use -/

/-- From some time on, a service with the settings runs into no limit, whatever happened before. -/
structure Usable (s : Settings) (now : Nanos) : Prop where
  /-- A loop of the simulator can be started: it passes at intervals, first at a time that the clock
  reaches. -/
  simulator : ∀ events,
    let before := (s.desk.run events).simulator
    let started := ((s.desk.run events).startSimulator now).simulator
    started.interval ≠ 0 ∧ ∃ due, started.loops = before.loops ++ [due] ∧ OnClock due
  /-- Whoever subscribes is polled for at intervals, and has a queue that can be made. -/
  subscription : ∀ events query k,
    let opened := (s.desk.run events).subscribe (s.desk.run events).reader query now
    opened.1 = .ok k → ∃ sub, opened.2.subscriptions[k]? = some sub ∧
      sub.period ≠ 0 ∧ 0 < sub.capacity ∧ sub.capacity ≤ queueLimit
  /-- Every list can be kept in the cache, and expires at a time that the clock reaches. -/
  cache : s.cacheEnabled = true → ∀ (cache : MarketsCache) key markets, ∃ kept entry,
    cache.set? key markets s.cacheTtl now = some kept ∧ kept.entry? key = some entry ∧
      OnClock entry.expiresAt
  /-- However often the market service fails, the attempts can be counted. -/
  attempts : ∀ draws, ((Retry.start s.retry).run draws).attempts < countLimit

/-- What the settings have to leave room for, beyond the rules. -/
structure Roomy (s : Settings) (now : Nanos) : Prop where
  simulatorInterval : OnClock (now + s.simulatorInterval)
  bufferCapacity : s.bufferCapacity ≤ queueLimit
  cacheTtl : s.cacheEnabled = true → OnClock (now + s.cacheTtl)
  maxRetries : s.retry.maxRetries + 1 < countLimit

variable {s : Settings} {now : Nanos}

/-- Whatever happens, a service works with its settings. -/
theorem setUp_run_desk (s : Settings) (events : List Desk.Event) :
    let desk := s.desk.run events
    desk.pollInterval = s.pollInterval ∧ desk.bufferCapacity = s.bufferCapacity ∧
      desk.simulator.interval = s.simulatorInterval := by
  have hset := s.desk.setUp_run events
  simp only [Desk.setUp, Prod.mk.injEq] at hset
  exact hset

theorem usable_of_roomy (h : s.Obeys) (hroom : s.Roomy now) : s.Usable now where
  simulator events := by
    obtain ⟨-, -, hinterval⟩ := s.setUp_run_desk events
    have hcan : (s.desk.run events).simulator.CanStart now := by
      rw [Simulator.CanStart, hinterval]
      exact ⟨h.simulatorInterval, hroom.simulatorInterval⟩
    exact ⟨hcan.1, _, Simulator.loops_startLoop hcan, hcan.2⟩
  subscription events query k hok := by
    obtain ⟨hpoll, hbuffer, -⟩ := s.setUp_run_desk events
    obtain ⟨-, -, hsub⟩ := Desk.subscribe_eq_ok hok
    have hpos := h.bufferCapacity
    have hmost := hroom.bufferCapacity
    have hqueue : 1 ≤ queueLimit := by decide
    refine ⟨_, hsub, ?_, ?_, ?_⟩
    · exact hpoll.symm ▸ h.pollInterval
    · simp only [Subscription.start]
      omega
    · simp only [Subscription.start, hbuffer]
      omega
  cache henabled cache key markets := by
    have hclock := hroom.cacheTtl henabled
    obtain ⟨kept, hkept, hentry⟩ := (cache.exists_set?_iff key markets _ _).2 hclock
    exact ⟨kept, _, hkept, hentry, hclock⟩
  attempts := (Retry.attempts_run_lt_iff _ _).2 hroom.maxRetries

/-- Somebody can subscribe once an order is stored. -/
theorem exists_subscribe (s : Settings) (now : Nanos) : ∃ events query k,
    ((s.desk.run events).subscribe (s.desk.run events).reader query now).1 = .ok k :=
  ⟨[.atStore (.create [⟨.nil⟩] ⟨⟨.nil⟩, ⟨.nil⟩, .market, .ofNat 0, 1⟩ .epoch)],
    ⟨⟨.nil⟩, ⟨.nil⟩⟩, 0, rfl⟩

theorem roomy_of_usable (h : s.Usable now) : s.Roomy now where
  simulatorInterval := by
    obtain ⟨-, due, hloops, hclock⟩ := h.simulator []
    by_contra hlate
    have hcannot : ¬ (s.desk.run []).simulator.CanStart now := fun hcan => hlate hcan.2
    rw [Desk.startSimulator, Simulator.loops_startLoop_of_not hcannot] at hloops
    exact absurd (congrArg List.length hloops) (by simp)
  bufferCapacity := by
    obtain ⟨events, query, k, hok⟩ := s.exists_subscribe now
    obtain ⟨-, hbuffer, -⟩ := s.setUp_run_desk events
    obtain ⟨sub, hsub, -, -, hmost⟩ := h.subscription events query k hok
    obtain ⟨-, -, hstart⟩ := Desk.subscribe_eq_ok hok
    obtain rfl := Option.some.inj (hsub.symm.trans hstart)
    simp only [Subscription.start, hbuffer] at hmost
    omega
  cacheTtl henabled := by
    obtain ⟨kept, entry, hkept, hentry, -⟩ := h.cache henabled .empty "" []
    by_contra hlate
    rw [MarketsCache.set?, if_neg hlate] at hkept
    cases hkept
  maxRetries := (Retry.attempts_run_lt_iff _ _).1 h.attempts

/-- **What accepted settings are good for.** They can be used as long as there is room for them on
the clock, in a queue and in the count of attempts; the rules they obey see to the rest. -/
theorem usable_iff {vars : Variables} (hload : load vars = .ok s) (now : Nanos) :
    s.Usable now ↔ s.Roomy now := by
  obtain ⟨-, hobeys⟩ := load_eq_ok_iff.1 hload
  exact ⟨roomy_of_usable, usable_of_roomy hobeys⟩

/-- No lookup breaks off with accepted settings. No variable says anything about the jitter. -/
theorem not_breaksOff_of_load {vars : Variables} (hload : load vars = .ok s)
    (replies : Nat → MarketsReply) (last : Nat) : ¬ BreaksOff replies (.start s.retry) last := by
  have hsaid : s.SaidBy vars := readAll_eq_ok_iff.1 (load_eq_ok_iff.1 hload).1
  obtain ⟨millis, hmillis, hdelay⟩ := hsaid.initialDelay
  have hlt : millis < wordLimit := hmillis.lt (by decide)
  have hunits : wordLimit * nanosPerMilli < delayLimit := by decide
  refine BreaksOff.not_of_jitter ?_ ?_
  · rw [hdelay]
    exact Nat.lt_of_le_of_lt (Nat.mul_le_mul_right _ hlt.le) hunits
  · rw [hsaid.jitterFactor]
    decide

/-- The settings where nothing is said but the address of the market service. -/
def standard (endpoint : String) : Settings :=
  { bindAddress := "0.0.0.0"
    rpcPort := 50051
    healthPort := 8081
    endpoint
    connectTimeout := 5 * nanosPerSecond
    requestTimeout := 3 * nanosPerSecond
    keepAlive := 60 * nanosPerSecond
    retry := .standard
    simulatorInterval := 30 * nanosPerSecond
    fillProbability := .half
    pollInterval := 5 * nanosPerSecond
    bufferCapacity := 10
    cacheEnabled := true
    cacheTtl := 60 * nanosPerSecond }

/-- Nothing is said but the address. -/
def addressOnly : Variables
  | "SPOT_INSTRUMENT_ENDPOINT" => some "http://localhost:1"
  | _ => none

theorem usable_iff_addressOnly :
    load addressOnly = .ok (standard "http://localhost:1") ∧
    (standard "http://localhost:1").Usable 0 := by
  have hload : load addressOnly = .ok (standard "http://localhost:1") := rfl
  have hroom : (standard "http://localhost:1").Roomy 0 :=
    { simulatorInterval := by decide
      bufferCapacity := by decide
      cacheTtl := fun _ => by decide
      maxRetries := by decide }
  exact ⟨hload, (usable_iff hload 0).2 hroom⟩

/-- The largest numbers that can be written down. -/
def largest : Variables
  | "SPOT_INSTRUMENT_ENDPOINT" => some "http://localhost:1"
  | "SPOT_INSTRUMENT_MAX_RETRIES" => some "4294967295"
  | "ORDER_SIMULATOR_INTERVAL_SECS" => some "18446744073709551615"
  | "ORDER_STREAM_BUFFER" => some "18446744073709551615"
  | "MARKETS_CACHE_TTL_SECS" => some "18446744073709551615"
  | _ => none

/-- What the largest numbers say. -/
def boundless : Settings :=
  { standard "http://localhost:1" with
    retry := { RetryConfig.standard with maxRetries := 4294967295 }
    simulatorInterval := (wordLimit - 1) * nanosPerSecond
    bufferCapacity := wordLimit - 1
    cacheTtl := (wordLimit - 1) * nanosPerSecond }

theorem not_onClock_boundless (now : Nanos) :
    ¬ OnClock (now + (wordLimit - 1) * nanosPerSecond) := by
  have hlate : lastSecond < (now + 18446744073709551615 * 1000000000 : Nat) / 1000000000 := by
    unfold lastSecond
    omega
  exact Nat.not_le.2 hlate

/-- The largest numbers are accepted, and there is never room for any of them. -/
theorem largest_not_usable :
    load largest = .ok boundless ∧
    ∀ now, ¬ boundless.Usable now ∧
      ¬ OnClock (now + boundless.simulatorInterval) ∧ ¬ boundless.bufferCapacity ≤ queueLimit ∧
      ¬ OnClock (now + boundless.cacheTtl) ∧ ¬ boundless.retry.maxRetries + 1 < countLimit := by
  have hload : load largest = .ok boundless := by decide +kernel
  have hbuffer : ¬ boundless.bufferCapacity ≤ queueLimit := by decide
  have hretries : ¬ boundless.retry.maxRetries + 1 < countLimit := by decide
  refine ⟨hload, fun now => ⟨fun h => hbuffer (roomy_of_usable h).bufferCapacity, ?_, hbuffer, ?_,
    hretries⟩⟩
  · exact not_onClock_boundless now
  · exact not_onClock_boundless now

end Settings

end OrderDesk
