import OrderDesk.Lookup.Remote
import OrderDesk.Proofs.Lookup.Budget
import OrderDesk.Proofs.Wire.Decoding

/-!
# Fetching markets

How many calls of the market service a lookup makes, and what comes of them. `Attempts` says which
call is the last one: the first that does not fail for a passing reason, or else the one that uses
up the retries. Of any service in any state, a lookup makes the calls up to this one, all with one
request, and concludes from the last one alone, unless it comes to a delay that there is nothing to
draw from: there it `BreaksOff`, and answers nothing (`fetchFrom_cases`).

`fetchMarkets_outcome` spells this out for a service that answers by a script and remembers what it
was asked.
-/

namespace OrderDesk

theorem RpcCode.isRetryable_iff {code : RpcCode} : code.isRetryable = true ↔
    code = .unavailable ∨ code = .deadlineExceeded ∨ code = .resourceExhausted ∨
      code = .aborted := by
  cases code <;> decide

/-- Whether a call failed for a passing reason. -/
def MarketsReply.isPassing : MarketsReply → Bool
  | .markets _ => false
  | .failed code _ => code.isRetryable

/-- What a lookup concludes from its last call. Only the last of all calls it may make is the last
one in spite of a passing failure; `attempts` is their number. -/
def MarketsReply.conclusion (attempts : Nat) : MarketsReply → Except RemoteError (List Market)
  | .markets sent => decodeMarkets sent
  | .failed code text =>
    if code.isRetryable then .error (.retriesExhausted attempts text)
    else .error (.status code text)

/-! ## Reading the markets of an answer -/

theorem decodeMarkets_eq_ok_iff {sent : List WireMarket} {markets : List Market} :
    decodeMarkets sent = .ok markets ↔
      List.Forall₂ (fun wire market => wire.decode = .ok market) sent markets := by
  rw [← mapM_eq_ok_iff]
  unfold decodeMarkets
  cases sent.mapM WireMarket.decode <;> simp

/-- An answer can be read exactly when all its identifiers can. -/
theorem exists_decodeMarkets_eq_ok_iff {sent : List WireMarket} :
    (∃ markets, decodeMarkets sent = .ok markets) ↔
      ∀ wire ∈ sent, ∃ id, Id.parse .market wire.id = .ok id := by
  simp only [decodeMarkets_eq_ok_iff]
  induction sent with
  | nil => exact iff_of_true ⟨[], .nil⟩ (List.forall_mem_nil _)
  | cons wire sent ih =>
    rw [List.forall_mem_cons, ← ih, ← WireMarket.exists_decode_eq_ok_iff]
    constructor
    · rintro ⟨markets, hmarkets⟩
      obtain ⟨market, rest, hmarket, hrest, -⟩ := List.forall₂_cons_left_iff.1 hmarkets
      exact ⟨⟨market, hmarket⟩, rest, hrest⟩
    · rintro ⟨⟨market, hmarket⟩, rest, hrest⟩
      exact ⟨market :: rest, .cons hmarket hrest⟩

theorem exists_decodeMarkets_eq_error {sent : List WireMarket}
    (h : ¬ ∃ markets, decodeMarkets sent = .ok markets) :
    ∃ detail, decodeMarkets sent = .error (.invalidResponse detail) := by
  cases hs : sent.mapM WireMarket.decode with
  | ok markets => exact absurd ⟨markets, by rw [decodeMarkets, hs]⟩ h
  | error e => exact ⟨e.message, by rw [decodeMarkets, hs]⟩

theorem conclusion_cases (reply : MarketsReply) (attempts : Nat) :
    (∃ sent markets, reply = .markets sent ∧ reply.conclusion attempts = .ok markets) ∨
    (∃ sent detail, reply = .markets sent ∧
      reply.conclusion attempts = .error (.invalidResponse detail)) ∨
    (∃ code text, reply = .failed code text ∧ code.isRetryable = true ∧
      reply.conclusion attempts = .error (.retriesExhausted attempts text)) ∨
    ∃ code text, reply = .failed code text ∧ code.isRetryable = false ∧
      reply.conclusion attempts = .error (.status code text) := by
  cases reply with
  | markets sent =>
    by_cases h : ∃ markets, decodeMarkets sent = .ok markets
    · obtain ⟨markets, hm⟩ := h
      exact .inl ⟨sent, markets, rfl, hm⟩
    · obtain ⟨detail, hd⟩ := exists_decodeMarkets_eq_error h
      exact .inr (.inl ⟨sent, detail, rfl, hd⟩)
  | failed code text =>
    cases hc : code.isRetryable with
    | true => exact .inr (.inr (.inl ⟨code, text, rfl, hc, by simp [MarketsReply.conclusion, hc]⟩))
    | false => exact .inr (.inr (.inr ⟨code, text, rfl, hc, by simp [MarketsReply.conclusion, hc]⟩))

theorem conclusion_eq_exhausted_iff {reply : MarketsReply} {attempts n : Nat} {text : String} :
    reply.conclusion attempts = .error (.retriesExhausted n text) ↔
      n = attempts ∧ ∃ code, reply = .failed code text ∧ code.isRetryable = true := by
  rcases conclusion_cases reply attempts with ⟨sent, markets, rfl, h⟩ | ⟨sent, detail, rfl, h⟩ |
    ⟨code, text', rfl, hc, h⟩ | ⟨code, text', rfl, hc, h⟩
  · simp [h]
  · simp [h]
  · rw [h]
    constructor
    · intro heq
      obtain ⟨rfl, rfl⟩ : attempts = n ∧ text' = text := by simpa using heq
      exact ⟨rfl, code, rfl, hc⟩
    · rintro ⟨rfl, code', heq, -⟩
      cases heq
      rfl
  · simp [h, hc]

/-! ## The calls of a lookup -/

/-- Which call is the last one, given what the service would reply to each and how many retries
there are. -/
structure Attempts (replies : Nat → MarketsReply) (retries last : Nat) : Prop where
  within : last ≤ retries
  earlier : ∀ j < last, (replies j).isPassing = true
  final : (replies last).isPassing = true → last = retries

namespace Attempts

variable {replies : Nat → MarketsReply} {retries last : Nat}

theorem zero (h : (replies 0).isPassing = true → retries = 0) : Attempts replies retries 0 :=
  { within := Nat.zero_le _
    earlier := fun j hj => absurd hj (Nat.not_lt_zero j)
    final := fun hp => (h hp).symm }

theorem succ (h0 : (replies 0).isPassing = true)
    (h : Attempts (fun j => replies (j + 1)) retries last) :
    Attempts replies (retries + 1) (last + 1) :=
  { within := Nat.succ_le_succ h.within
    earlier := fun j hj => by
      cases j with
      | zero => exact h0
      | succ j => exact h.earlier j (Nat.lt_of_succ_lt_succ hj)
    final := fun hp => congrArg (· + 1) (h.final hp) }

/-- The last call is the first one that is final, unless there are not retries enough. -/
theorem eq_min (h : Attempts replies retries last) {i : Nat}
    (hpassing : ∀ j < i, (replies j).isPassing = true) (hi : (replies i).isPassing = false) :
    last = min i retries := by
  have hle : last ≤ i := by
    by_contra hlt
    rw [h.earlier i (Nat.lt_of_not_le hlt)] at hi
    cases hi
  rcases Nat.lt_or_eq_of_le hle with hlt | rfl
  · have hlast := h.final (hpassing last hlt)
    rw [hlast] at hlt
    rw [hlast, Nat.min_eq_right (Nat.le_of_lt hlt)]
  · exact (Nat.min_eq_left h.within).symm

theorem eq_retries_iff (h : Attempts replies retries last) :
    (replies last).isPassing = true ↔ ∀ j ≤ retries, (replies j).isPassing = true := by
  constructor
  · intro hp j hj
    rw [← h.final hp] at hj
    rcases Nat.lt_or_eq_of_le hj with hlt | rfl
    · exact h.earlier j hlt
    · exact hp
  · exact fun hall => hall last h.within

end Attempts

/-- Whether every delay up to some retry can be told. -/
def Retry.DrawsUntil (r : Retry) (last : Nat) : Prop :=
  ∀ j < last, (Retry.advance^[j] r).CanDraw

/-- After which call a lookup breaks off, given what the service would reply to each: a retry is
due, and there is nothing to draw its delay from. -/
structure BreaksOff (replies : Nat → MarketsReply) (retry : Retry) (last : Nat) : Prop where
  within : retry.retries + last < retry.config.maxRetries
  passing : ∀ j ≤ last, (replies j).isPassing = true
  earlier : retry.DrawsUntil last
  stuck : ¬ (Retry.advance^[last] retry).CanDraw

namespace Retry

variable {retry : Retry} {last : Nat}

/-- A new series has all its retries left. -/
theorem retries_start_add (config : RetryConfig) :
    (start config).retries + config.maxRetries = (start config).config.maxRetries :=
  Nat.zero_add _

theorem drawsUntil_zero (retry : Retry) : retry.DrawsUntil 0 :=
  fun j hj => absurd hj (Nat.not_lt_zero j)

theorem DrawsUntil.succ (h0 : retry.CanDraw) (h : retry.advance.DrawsUntil last) :
    retry.DrawsUntil (last + 1) := fun j hj => by
  cases j with
  | zero => exact h0
  | succ j => exact h j (Nat.lt_of_succ_lt_succ hj)

theorem Sound.iterate_advance (h : retry.Sound) {j : Nat}
    (hj : retry.retries + j ≤ retry.config.maxRetries) :
    (Retry.advance^[j] retry).Sound ∧ (Retry.advance^[j] retry).config = retry.config := by
  induction j generalizing retry with
  | zero => exact ⟨h, rfl⟩
  | succ j ih =>
    have hleft : retry.retries < retry.config.maxRetries := by omega
    have hrest : retry.advance.retries + j ≤ retry.advance.config.maxRetries := by
      simp only [retries_advance, config_advance]
      omega
    exact ih (Sound.advance hleft) hrest

end Retry

namespace BreaksOff

variable {replies : Nat → MarketsReply} {retry : Retry} {last : Nat}

theorem zero (hlt : retry.retries < retry.config.maxRetries) (h : (replies 0).isPassing = true)
    (hcannot : ¬ retry.CanDraw) : BreaksOff replies retry 0 :=
  { within := hlt
    passing := fun j hj => by rwa [Nat.le_zero.1 hj]
    earlier := retry.drawsUntil_zero
    stuck := hcannot }

theorem succ (h0 : (replies 0).isPassing = true) (hcan : retry.CanDraw)
    (h : BreaksOff (fun j => replies (j + 1)) retry.advance last) :
    BreaksOff replies retry (last + 1) :=
  { within := by
      have hwithin := h.within
      simp only [Retry.retries_advance, Retry.config_advance] at hwithin
      omega
    passing := fun j hj => by
      cases j with
      | zero => exact h0
      | succ j => exact h.passing j (Nat.le_of_succ_le_succ hj)
    earlier := h.earlier.succ hcan
    stuck := h.stuck }

/-- A lookup that has a last call does not break off. -/
theorem not_of_attempts {retries stop : Nat}
    (hr : retry.retries + retries = retry.config.maxRetries)
    (hattempts : Attempts replies retries last) (hdraws : retry.DrawsUntil last) :
    ¬ BreaksOff replies retry stop := by
  intro h
  rcases Nat.lt_or_ge stop last with hlt | hge
  · exact h.stuck (hdraws stop hlt)
  · have hlast := hattempts.final (h.passing last hge)
    have hwithin := h.within
    omega

theorem unique {stop : Nat} (h : BreaksOff replies retry last)
    (h' : BreaksOff replies retry stop) : last = stop := by
  rcases Nat.lt_trichotomy last stop with hlt | heq | hgt
  · exact absurd (h'.earlier last hlt) h.stuck
  · exact heq
  · exact absurd (h.earlier stop hgt) h'.stuck

/-- A jitter of at most the delay never breaks a lookup off. -/
theorem not_of_jitter {config : RetryConfig} (hdelay : config.initialDelay < delayLimit)
    (hone : config.jitterFactor.le .one = true) : ¬ BreaksOff replies (.start config) last := by
  intro h
  obtain ⟨hsound, hconfig⟩ := (Retry.sound_start hdelay).iterate_advance h.within.le
  exact h.stuck (hsound.canDraw (by rw [hconfig]; exact hone))

end BreaksOff

section
variable {σ : Type} (service : MarketService σ) (request : MarketsRequest)

/-- The state of a service after some calls with one request. -/
def served (state : σ) : Nat → σ
  | 0 => state
  | n + 1 => served (service request state).2 n

/-- What a service replies to a request after some calls with the same request. -/
def repliesOf (state : σ) (n : Nat) : MarketsReply :=
  (service request (served service request state n)).1

variable {service request} {draw : Binary64 → Binary64} {retry : Retry} {state : σ}

/-- A call that is final, or for which there is no retry left, is the last. -/
theorem fetchFrom_of_last
    (h : (service request state).1.isPassing = true → retry.config.maxRetries = retry.retries)
    (waits : List Nanos) (fuel : Nat) :
    fetchFrom service request draw retry state waits (fuel + 1) =
      ⟨some ((service request state).1.conclusion (retry.config.maxRetries + 1)),
        (service request state).2, waits⟩ := by
  rw [fetchFrom]
  rcases hs : service request state with ⟨reply, next⟩
  rw [hs] at h
  cases reply with
  | markets sent => rfl
  | failed code text =>
    cases hc : code.isRetryable with
    | false => simp [MarketsReply.conclusion, hc]
    | true =>
      have hle : retry.config.maxRetries = retry.retries := h hc
      simp [MarketsReply.conclusion, hc, Retry.next, Retry.attempts, hle]

/-- A call that failed for a passing reason, while there are retries left, comes to what the next
delay comes to. -/
theorem fetchFrom_of_passing (draw : Binary64 → Binary64)
    (h : (service request state).1.isPassing = true)
    (hlt : retry.retries < retry.config.maxRetries) (waits : List Nanos) (fuel : Nat) :
    fetchFrom service request draw retry state waits (fuel + 1) =
      if retry.CanDraw then
        fetchFrom service request draw retry.advance (service request state).2
          (waits ++ [min (retry.jittered draw) retry.config.maxDelay]) fuel
      else ⟨none, (service request state).2, waits⟩ := by
  rw [fetchFrom]
  rcases hs : service request state with ⟨reply, next⟩
  rw [hs] at h
  cases reply with
  | markets sent => cases h
  | failed code text =>
    have hc : code.isRetryable = true := h
    dsimp only
    rw [if_pos hc]
    by_cases hcan : retry.CanDraw
    · rw [Retry.next_of_canDraw hlt hcan, if_pos hcan]
    · rw [Retry.next_of_not_canDraw hlt hcan, if_neg hcan]

/-- A lookup calls the service up to the last attempt, and concludes from that one alone, or it
breaks off. -/
theorem fetchFrom_cases {retries : Nat}
    (hr : retry.retries + retries = retry.config.maxRetries) (waits : List Nanos) :
    (∃ last, Attempts (repliesOf service request state) retries last ∧ retry.DrawsUntil last ∧
      (fetchFrom service request draw retry state waits (retries + 1)).state =
        served service request state (last + 1) ∧
      (fetchFrom service request draw retry state waits (retries + 1)).answer =
        some ((repliesOf service request state last).conclusion (retry.config.maxRetries + 1))) ∨
    ∃ last, BreaksOff (repliesOf service request state) retry last ∧
      (fetchFrom service request draw retry state waits (retries + 1)).state =
        served service request state (last + 1) ∧
      (fetchFrom service request draw retry state waits (retries + 1)).answer = none := by
  induction retries generalizing retry state waits with
  | zero =>
    refine .inl ⟨0, .zero fun _ => rfl, retry.drawsUntil_zero, ?_⟩
    rw [fetchFrom_of_last fun _ => hr.symm]
    exact ⟨rfl, rfl⟩
  | succ retries ih =>
    cases hp : (service request state).1.isPassing with
    | false =>
      have hfinal : (service request state).1.isPassing ≠ true := by simp [hp]
      refine .inl ⟨0, .zero fun h => absurd h hfinal, retry.drawsUntil_zero, ?_⟩
      rw [fetchFrom_of_last fun h => absurd h hfinal]
      exact ⟨rfl, rfl⟩
    | true =>
      have hlt : retry.retries < retry.config.maxRetries := by omega
      rw [fetchFrom_of_passing draw hp hlt]
      by_cases hcan : retry.CanDraw
      · rw [if_pos hcan]
        have hnext : retry.advance.retries + retries = retry.advance.config.maxRetries := by
          simp only [Retry.retries_advance, Retry.config_advance]
          omega
        -- the replies from here on are those of the service in its next state
        rcases ih hnext _ with ⟨last, hattempts, hdraws, hrest⟩ | ⟨last, hbreaks, hrest⟩
        · exact .inl ⟨last + 1, hattempts.succ hp, hdraws.succ hcan, hrest⟩
        · exact .inr ⟨last + 1, hbreaks.succ hp hcan, hrest⟩
      · rw [if_neg hcan]
        exact .inr ⟨0, .zero hlt hp hcan, rfl, rfl⟩

/-- The same of a lookup from its first call on. -/
theorem fetchMarkets_cases (service : MarketService σ) (config : RetryConfig)
    (draw : Binary64 → Binary64) (roles : List Role) (requestId : String) (state : σ) :
    let replies := repliesOf service (.make roles requestId) state
    let fetched := fetchMarkets service config draw roles requestId state
    (∃ last, Attempts replies config.maxRetries last ∧ (Retry.start config).DrawsUntil last ∧
      fetched.state = served service (.make roles requestId) state (last + 1) ∧
      fetched.answer = some ((replies last).conclusion (config.maxRetries + 1))) ∨
    ∃ last, BreaksOff replies (.start config) last ∧
      fetched.state = served service (.make roles requestId) state (last + 1) ∧
      fetched.answer = none :=
  fetchFrom_cases (Retry.retries_start_add config) []

/-- A lookup answers nothing just when it breaks off. -/
theorem answer_fetchMarkets_eq_none_iff (service : MarketService σ) (config : RetryConfig)
    (draw : Binary64 → Binary64) (roles : List Role) (requestId : String) (state : σ) :
    (fetchMarkets service config draw roles requestId state).answer = none ↔
      ∃ last, BreaksOff (repliesOf service (.make roles requestId) state) (.start config) last := by
  rcases fetchMarkets_cases service config draw roles requestId state with
    ⟨last, hattempts, hdraws, -, hanswer⟩ | ⟨last, hbreaks, -, hanswer⟩
  · rw [hanswer]
    refine iff_of_false (Option.some_ne_none _) ?_
    rintro ⟨stop, hstop⟩
    exact BreaksOff.not_of_attempts (Retry.retries_start_add config) hattempts hdraws hstop
  · exact iff_of_true hanswer ⟨last, hbreaks⟩

end

/-! ## A service that is watched -/

/-- A service that keeps a record of the requests it is sent. -/
def MarketService.logged {σ : Type} (service : MarketService σ) :
    MarketService (σ × List MarketsRequest) := fun request state =>
  ((service request state.1).1, (service request state.1).2, state.2 ++ [request])

theorem served_logged {σ : Type} (service : MarketService σ) (request : MarketsRequest)
    (state : σ × List MarketsRequest) (n : Nat) :
    (served service.logged request state n).2 = state.2 ++ List.replicate n request := by
  induction n generalizing state with
  | zero => rw [served, List.replicate_zero, List.append_nil]
  | succ n ih =>
    rw [served, ih, List.replicate_succ, ← List.singleton_append, ← List.append_assoc]
    rfl

/-- A lookup sends the same request as often as it has to, and once at least. -/
theorem exists_remote_logged {σ : Type} (service : MarketService σ) (config : RetryConfig)
    (draw : Binary64 → Binary64) (roles : List Role) (requestId : String)
    (state : σ × List MarketsRequest) : ∃ n, 0 < n ∧ n ≤ config.maxRetries + 1 ∧
      (MarketSource.remote service.logged config draw roles requestId state).state.2 =
        state.2 ++ List.replicate n (.make roles requestId) := by
  have hcalls : ∃ last ≤ config.maxRetries,
      (fetchMarkets service.logged config draw roles requestId state).state =
        served service.logged (.make roles requestId) state (last + 1) := by
    rcases fetchMarkets_cases service.logged config draw roles requestId state with
      ⟨last, hattempts, -, hstate, -⟩ | ⟨last, hbreaks, hstate, -⟩
    · exact ⟨last, hattempts.within, hstate⟩
    · exact ⟨last, (Nat.le_add_left _ _).trans hbreaks.within.le, hstate⟩
  obtain ⟨last, hwithin, hstate⟩ := hcalls
  refine ⟨last + 1, Nat.succ_pos last, Nat.succ_le_succ hwithin, ?_⟩
  rw [← served_logged service, ← hstate]
  rfl

/-! ## A service that answers by a script -/

/-- A service whose answers are given in advance. Its state is what it was asked. -/
def scripted (outcomes : Nat → MarketsReply) : MarketService (List MarketsRequest) :=
  fun request received => (outcomes received.length, received ++ [request])

theorem served_scripted (outcomes : Nat → MarketsReply) (request : MarketsRequest)
    (received : List MarketsRequest) (n : Nat) :
    served (scripted outcomes) request received n = received ++ List.replicate n request := by
  induction n generalizing received with
  | zero => rw [served, List.replicate_zero, List.append_nil]
  | succ n ih =>
    rw [served, scripted, ih, List.replicate_succ, List.append_assoc, List.singleton_append]

theorem repliesOf_scripted (outcomes : Nat → MarketsReply) (request : MarketsRequest) :
    repliesOf (scripted outcomes) request [] = outcomes := by
  funext n
  rw [repliesOf, served_scripted, scripted, List.nil_append, List.length_replicate]

/-- What a lookup at a service comes to, given what the service was asked and what it would reply to
each call. -/
structure FetchOutcome (outcomes : Nat → MarketsReply) (maxRetries : Nat) (request : MarketsRequest)
    (received : List MarketsRequest) (answer : Except RemoteError (List Market)) : Prop where
  /-- Every attempt carries the same request. -/
  same : received = List.replicate received.length request
  /-- The first outcome that does not pass ends the attempts, and so does the last retry. -/
  attempts : ∀ i, (∀ j < i, (outcomes j).isPassing = true) → (outcomes i).isPassing = false →
    received.length = min (i + 1) (maxRetries + 1)
  allAttempts : (∀ j ≤ maxRetries, (outcomes j).isPassing = true) →
    received.length = maxRetries + 1
  /-- Markets that can be read are all answered, in their order. -/
  decoded : ∀ sent, outcomes (received.length - 1) = .markets sent →
    (∀ wire ∈ sent, ∃ id, Id.parse .market wire.id = .ok id) → ∃ markets, answer = .ok markets ∧
      List.Forall₂ (fun wire market => wire.decode = .ok market) sent markets
  /-- A market that cannot be read spoils the answer. -/
  unreadable : ∀ sent, outcomes (received.length - 1) = .markets sent →
    (∃ wire ∈ sent, ∀ id, Id.parse .market wire.id ≠ .ok id) →
      ∃ detail, answer = .error (.invalidResponse detail)
  refused : ∀ code text, outcomes (received.length - 1) = .failed code text →
    code.isRetryable = false → answer = .error (.status code text)
  exhausted : ∀ n text, answer = .error (.retriesExhausted n text) ↔ n = maxRetries + 1 ∧
    (∀ j ≤ maxRetries, (outcomes j).isPassing = true) ∧
      ∃ code, outcomes maxRetries = .failed code text
  /-- A status that is reported is none that would have passed. -/
  notPassing : ∀ code text, answer = .error (.status code text) → code.isRetryable = false

theorem fetchOutcome_of_attempts {outcomes : Nat → MarketsReply} {maxRetries last : Nat}
    (h : Attempts outcomes maxRetries last) (request : MarketsRequest) :
    FetchOutcome outcomes maxRetries request (List.replicate (last + 1) request)
      ((outcomes last).conclusion (maxRetries + 1)) := by
  have hlast : (List.replicate (last + 1) request).length - 1 = last := by simp
  refine
    { same := by rw [List.length_replicate]
      attempts := fun i hpassing hi => ?_
      allAttempts := fun hall => ?_
      decoded := fun sent hsent hread => ?_
      unreadable := fun sent hsent hspoilt => ?_
      refused := fun code text hfailed hc => ?_
      exhausted := fun n text => ?_
      notPassing := fun code text hstatus => ?_ }
  · rw [List.length_replicate, h.eq_min hpassing hi, Nat.succ_min_succ]
  · rw [List.length_replicate, h.final (h.eq_retries_iff.2 hall)]
  · rw [hlast] at hsent
    obtain ⟨markets, hmarkets⟩ := exists_decodeMarkets_eq_ok_iff.2 hread
    rw [hsent]
    exact ⟨markets, hmarkets, decodeMarkets_eq_ok_iff.1 hmarkets⟩
  · rw [hlast] at hsent
    obtain ⟨wire, hmem, hwire⟩ := hspoilt
    rw [hsent]
    refine exists_decodeMarkets_eq_error fun hok => ?_
    obtain ⟨id, hid⟩ := exists_decodeMarkets_eq_ok_iff.1 hok wire hmem
    exact hwire id hid
  · rw [hlast] at hfailed
    simp [hfailed, MarketsReply.conclusion, hc]
  · rw [conclusion_eq_exhausted_iff]
    constructor
    · rintro ⟨rfl, code, hfailed, hc⟩
      have hpassing : (outcomes last).isPassing = true := by rw [hfailed]; exact hc
      refine ⟨rfl, h.eq_retries_iff.1 hpassing, code, ?_⟩
      rw [← h.final hpassing, hfailed]
    · rintro ⟨rfl, hall, code, hfailed⟩
      rw [h.final (h.eq_retries_iff.2 hall)]
      have hpassing := hall maxRetries (Nat.le_refl _)
      rw [hfailed] at hpassing
      exact ⟨rfl, code, hfailed, hpassing⟩
  · rcases conclusion_cases (outcomes last) (maxRetries + 1) with
      ⟨sent, markets, -, hok⟩ | ⟨sent, detail, -, herr⟩ | ⟨c, t, -, hc, herr⟩ | ⟨c, t, -, hc, herr⟩
    · simp [hok] at hstatus
    · simp [herr] at hstatus
    · simp [herr] at hstatus
    · simp only [herr, Except.error.injEq, RemoteError.status.injEq] at hstatus
      rw [← hstatus.1]
      exact hc

/-- What a source of markets answers, given what came of its lookup at the service. -/
structure Reported (answer : Except RemoteError (List Market))
    (looked : Except LookupError (List Market)) : Prop where
  markets : ∀ markets, answer = .ok markets → looked = .ok markets
  exhausted : ∀ n text, answer = .error (.retriesExhausted n text) →
    looked = .error (.unavailable (RemoteError.retriesExhausted n text).message)
  refused : ∀ code text, answer = .error (.status code text) →
    looked = .error (.rejected (code.name ++ ": " ++ text))
  unreadable : ∀ detail, answer = .error (.invalidResponse detail) →
    looked = .error (.invalidResponse detail)

theorem FetchOutcome.reported {outcomes : Nat → MarketsReply} {maxRetries : Nat}
    {request : MarketsRequest} {received : List MarketsRequest}
    {answer : Except RemoteError (List Market)}
    (h : FetchOutcome outcomes maxRetries request received answer) :
    Reported answer (answer.mapError RemoteError.toLookupError) :=
  { markets := fun markets hok => by rw [hok]; rfl
    exhausted := fun n text herr => by rw [herr]; rfl
    refused := fun code text herr => by
      have hc := h.notPassing code text herr
      simp [herr, Except.mapError, RemoteError.toLookupError, hc]
    unreadable := fun detail herr => by rw [herr]; rfl }

/-- What a lookup that answers something comes to, as the source of markets reports it. -/
theorem outcome_of_attempts {outcomes : Nat → MarketsReply} {config : RetryConfig} {last : Nat}
    {draw : Binary64 → Binary64} {roles : List Role} {requestId : String}
    (hattempts : Attempts outcomes config.maxRetries last)
    (hanswer : (fetchMarkets (scripted outcomes) config draw roles requestId []).answer =
      some ((outcomes last).conclusion (config.maxRetries + 1))) :
    FetchOutcome outcomes config.maxRetries (.make roles requestId)
      (List.replicate (last + 1) (.make roles requestId))
      ((outcomes last).conclusion (config.maxRetries + 1)) ∧
    Reported ((outcomes last).conclusion (config.maxRetries + 1))
      (MarketSource.remote (scripted outcomes) config draw roles requestId []).answer := by
  have houtcome := fetchOutcome_of_attempts hattempts (.make roles requestId)
  refine ⟨houtcome, ?_⟩
  rw [MarketSource.remote, hanswer]
  exact houtcome.reported

/-- **What comes of a lookup at the market service**, whatever the service replies to each call, and
whatever is drawn for the delays between them. The lookup calls until a reply is no passing failure
or the retries are used up, always with one and the same request, and the last reply alone decides
what is answered: all its markets, that they cannot be read, the status, or that the retries are
exhausted. Only a lookup that comes to a delay with nothing to draw it from breaks off there and
answers nothing, and a configuration that fits never leads to such a delay. -/
theorem fetchMarkets_outcome (outcomes : Nat → MarketsReply) (config : RetryConfig)
    (draw : Binary64 → Binary64) (roles : List Role) (requestId : String) :
    let fetched := fetchMarkets (scripted outcomes) config draw roles requestId []
    let looked := MarketSource.remote (scripted outcomes) config draw roles requestId []
    (∀ code : RpcCode, code.isRetryable = true ↔ code = .unavailable ∨ code = .deadlineExceeded ∨
      code = .resourceExhausted ∨ code = .aborted) ∧
    (∀ answer, fetched.answer = some answer →
      FetchOutcome outcomes config.maxRetries (.make roles requestId) fetched.state answer ∧
      Reported answer looked.answer) ∧
    (fetched.answer = none ↔ ∃ last, BreaksOff outcomes (.start config) last) ∧
    (∀ last, BreaksOff outcomes (.start config) last → fetched.state.length = last + 1) ∧
    (config.Fits → ∃ answer, fetched.answer = some answer) ∧
    (∀ request ∈ fetched.state, request.userRoles = roles.map Role.toWire ∧
      request.requestId = if RequestId.isSendable requestId then some requestId else none) ∧
    looked.state = fetched.state := by
  intro fetched looked
  have hcases := fetchMarkets_cases (scripted outcomes) config draw roles requestId []
  have hnone := answer_fetchMarkets_eq_none_iff (scripted outcomes) config draw roles requestId []
  simp only [repliesOf_scripted, served_scripted, List.nil_append] at hcases hnone
  refine ⟨fun code => RpcCode.isRetryable_iff, fun answer hanswer => ?_, hnone,
    fun last hbreaks => ?_, fun hfits => ?_, fun request hmem => ?_, rfl⟩
  · rcases hcases with ⟨last, hattempts, -, hstate, hconcluded⟩ | ⟨last, -, -, hnothing⟩
    · obtain rfl := Option.some.inj (hconcluded.symm.trans hanswer)
      rw [show fetched.state = _ from hstate]
      exact outcome_of_attempts hattempts hanswer
    · cases hnothing.symm.trans hanswer
  · rcases hcases with ⟨stop, -, -, -, hconcluded⟩ | ⟨stop, hstop, hstate, -⟩
    · cases hconcluded.symm.trans (hnone.2 ⟨last, hbreaks⟩)
    · rw [show fetched.state = _ from hstate, List.length_replicate, hbreaks.unique hstop]
  · refine Option.ne_none_iff_exists'.1 fun hnothing => ?_
    obtain ⟨last, hbreaks⟩ := hnone.1 hnothing
    exact BreaksOff.not_of_jitter hfits.initialDelay hfits.jitterFactor hbreaks
  · have hsame : ∃ n, fetched.state = List.replicate n (.make roles requestId) := by
      rcases hcases with ⟨last, -, -, hstate, -⟩ | ⟨last, -, hstate, -⟩
      · exact ⟨_, hstate⟩
      · exact ⟨_, hstate⟩
    obtain ⟨n, hn⟩ := hsame
    rw [hn] at hmem
    obtain rfl := List.eq_of_mem_replicate hmem
    exact ⟨rfl, rfl⟩

/-- A jitter that is no number. -/
def jumpy : RetryConfig :=
  { RetryConfig.standard with jitterFactor := .nan }

/-- A service that can be reached at the second call. -/
def awayOnce : Nat → MarketsReply
  | 0 => .failed .unavailable "dial tcp: refused"
  | _ => .markets []

/-- With a jitter that is no number the second call is never made, and nothing is answered. -/
theorem not_second_attempt_jumpy :
    let fetched := fetchMarkets (scripted awayOnce) jumpy id [] "" []
    (∀ j < 1, (awayOnce j).isPassing = true) ∧ (awayOnce 1).isPassing = false ∧
      fetched.state.length ≠ min (1 + 1) (jumpy.maxRetries + 1) ∧ fetched.answer = none := by
  decide

end OrderDesk
