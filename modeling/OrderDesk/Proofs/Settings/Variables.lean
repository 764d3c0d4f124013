import OrderDesk.Proofs.Settings.Rules
import OrderDesk.Proofs.Text.LowerCase

/-!
# What variables say

`Settings.SaidBy` is what settings have to be for some variables: a variable that is present stands
for what its trimmed text says, one that is absent for its default. The settings that are read are
those (`readAll_eq_ok_iff`).
-/

namespace OrderDesk.Settings

/-! ## One variable -/

/-- What a variable stands for. There is no default in place of a text that cannot be read. -/
def Means {α : Type} (parse : List Char → Option α) (said : Option String) (default value : α) :
    Prop :=
  match said with
  | none => value = default
  | some raw => parse (Text.trim raw.toList) = some value

/-- What a word says about a flag. -/
def flagWord? (word : String) : Option Bool :=
  if word ∈ ["true", "1", "yes"] then some true
  else if word ∈ ["false", "0", "no"] then some false
  else none

/-- What a text says about a flag, the case of ASCII letters aside. -/
def flag? (cs : List Char) : Option Bool :=
  flagWord? (String.ofList (Binary64.asciiLower cs))

variable {vars : Variables} {name : String}

theorem readWith_eq_ok_iff {α : Type} {parse : List Char → Option α} {default value : α} :
    readWith parse vars name default = .ok value ↔ Means parse (vars name) default value := by
  unfold readWith Means
  cases vars name with
  | none => simp [eq_comm]
  | some raw => cases hparse : parse (Text.trim raw.toList) <;> simp [hparse]

theorem Means.lt {limit default n : Nat} {said : Option String} (hdefault : default < limit)
    (h : Means (Text.natBelow? limit) said default n) : n < limit := by
  cases said with
  | none => exact h ▸ hdefault
  | some raw => exact of_decide_eq_true (Option.filter_eq_some_iff.1 h).2

theorem readSpan_eq_ok_iff {unit span : Nanos} {default : Nat} :
    readSpan unit vars name default = .ok span ↔
      ∃ n, Means (Text.natBelow? wordLimit) (vars name) default n ∧ span = n * unit := by
  simp only [readSpan, readNat, ← readWith_eq_ok_iff]
  cases readWith (Text.natBelow? wordLimit) vars name default <;> simp [Except.map, eq_comm]

/-- The words for a flag are plain. -/
theorem flagWord?_lowerCase (cs : List Char) :
    flagWord? (String.ofList (Text.lowerCase cs)) = flag? cs := by
  have hplain : ∀ word ∈ ["true", "1", "yes", "false", "0", "no"],
      word.toList.all Text.isPlain = true := by
    decide
  have hword : ∀ word ∈ ["true", "1", "yes", "false", "0", "no"],
      (String.ofList (Text.lowerCase cs) = word ↔
        String.ofList (Binary64.asciiLower cs) = word) := by
    intro word hmem
    simp only [← String.toList_inj, String.toList_ofList]
    exact Text.lowerCase_eq_iff (List.all_eq_true.1 (hplain word hmem))
  simp only [List.forall_mem_cons] at hword
  obtain ⟨htrue, hone, hyes, hfalse, hzero, hno, -⟩ := hword
  simp only [flag?, flagWord?, List.mem_cons, List.not_mem_nil, htrue, hone, hyes, hfalse, hzero,
    hno]

theorem readFlag_eq (vars : Variables) (name : String) (default : Bool) :
    readFlag vars name default =
      match vars name with
      | none => .ok default
      | some raw =>
        match flag? (Text.trim raw.toList) with
        | some b => .ok b
        | none => .error (.invalid name
            (String.ofList (Text.lowerCase (Text.trim raw.toList))) "expected true or false") := by
  unfold readFlag
  cases vars name with
  | none => rfl
  | some raw =>
    simp only [← flagWord?_lowerCase, flagWord?, List.mem_cons, List.not_mem_nil, or_false]
    split
    · rfl
    · split <;> rfl

theorem readFlag_eq_ok_iff {default value : Bool} :
    readFlag vars name default = .ok value ↔ Means flag? (vars name) default value := by
  rw [readFlag_eq]
  unfold Means
  cases vars name with
  | none => simp [eq_comm]
  | some raw => cases hflag : flag? (Text.trim raw.toList) <;> simp [hflag]

/-- The address is what was said, trimmed, and not blank. -/
def IsAddress (said : Option String) (address : String) : Prop :=
  ∃ raw, said = some raw ∧ Text.trim raw.toList ≠ [] ∧
    address = String.ofList (Text.trim raw.toList)

theorem readEndpoint_eq_ok_iff {endpoint : String} :
    readEndpoint vars = .ok endpoint ↔ IsAddress (vars "SPOT_INSTRUMENT_ENDPOINT") endpoint := by
  unfold readEndpoint IsAddress
  cases vars "SPOT_INSTRUMENT_ENDPOINT" with
  | none => simp
  | some raw =>
    simp only [Option.some.injEq, exists_eq_left']
    cases Text.trim raw.toList with
    | nil => simp
    | cons c cs => simp [@eq_comm _ endpoint]

/-! ## All variables -/

/-- The settings are what the variables say. -/
structure SaidBy (vars : Variables) (s : Settings) : Prop where
  endpoint : IsAddress (vars "SPOT_INSTRUMENT_ENDPOINT") s.endpoint
  bindAddress : s.bindAddress = (vars "ORDER_SERVICE_BIND_ADDRESS").getD "0.0.0.0"
  rpcPort : Means (Text.natBelow? 65536) (vars "ORDER_SERVICE_GRPC_PORT") 50051 s.rpcPort
  healthPort : Means (Text.natBelow? 65536) (vars "ORDER_SERVICE_HEALTH_PORT") 8081 s.healthPort
  connectTimeout : ∃ n, Means (Text.natBelow? wordLimit)
    (vars "SPOT_INSTRUMENT_CONNECT_TIMEOUT_MS") 5000 n ∧ s.connectTimeout = n * nanosPerMilli
  requestTimeout : ∃ n, Means (Text.natBelow? wordLimit)
    (vars "SPOT_INSTRUMENT_REQUEST_TIMEOUT_MS") 3000 n ∧ s.requestTimeout = n * nanosPerMilli
  initialDelay : ∃ n, Means (Text.natBelow? wordLimit)
    (vars "SPOT_INSTRUMENT_BACKOFF_INITIAL_MS") 100 n ∧ s.retry.initialDelay = n * nanosPerMilli
  maxDelay : ∃ n, Means (Text.natBelow? wordLimit)
    (vars "SPOT_INSTRUMENT_BACKOFF_MAX_MS") 2000 n ∧ s.retry.maxDelay = n * nanosPerMilli
  maxRetries : Means (Text.natBelow? 0x100000000)
    (vars "SPOT_INSTRUMENT_MAX_RETRIES") 2 s.retry.maxRetries
  simulatorInterval : ∃ n, Means (Text.natBelow? wordLimit)
    (vars "ORDER_SIMULATOR_INTERVAL_SECS") 30 n ∧ s.simulatorInterval = n * nanosPerSecond
  fillProbability : Means Binary64.parse?
    (vars "ORDER_SIMULATOR_FILL_PROBABILITY") .half s.fillProbability
  pollInterval : ∃ n, Means (Text.natBelow? wordLimit)
    (vars "ORDER_STREAM_POLL_INTERVAL_SECS") 5 n ∧ s.pollInterval = n * nanosPerSecond
  bufferCapacity : Means (Text.natBelow? wordLimit) (vars "ORDER_STREAM_BUFFER") 10 s.bufferCapacity
  cacheEnabled : Means flag? (vars "MARKETS_CACHE_ENABLED") true s.cacheEnabled
  cacheTtl : ∃ n, Means (Text.natBelow? wordLimit)
    (vars "MARKETS_CACHE_TTL_SECS") 60 n ∧ s.cacheTtl = n * nanosPerSecond
  /-- No variable says anything about the rest. -/
  keepAlive : s.keepAlive = 60 * nanosPerSecond
  multiplier : s.retry.multiplier = RetryConfig.standard.multiplier
  jitterFactor : s.retry.jitterFactor = RetryConfig.standard.jitterFactor

theorem readAll_eq_ok_iff {s : Settings} : readAll vars = .ok s ↔ s.SaidBy vars := by
  simp only [readAll, bind_eq_ok_iff, pure, Except.pure, Except.ok.injEq, readNat,
    readWith_eq_ok_iff, readSpan_eq_ok_iff, readFlag_eq_ok_iff, readEndpoint_eq_ok_iff]
  constructor
  · rintro ⟨endpoint, hendpoint, rpcPort, hrpc, healthPort, hhealth, connectTimeout, hconnect,
      requestTimeout, hrequest, initialDelay, hinitial, maxDelay, hmax, maxRetries, hretries,
      simulatorInterval, hsimulator, fillProbability, hfill, pollInterval, hpoll, bufferCapacity,
      hbuffer, cacheEnabled, henabled, cacheTtl, hcache, rfl⟩
    exact ⟨hendpoint, rfl, hrpc, hhealth, hconnect, hrequest, hinitial, hmax, hretries, hsimulator,
      hfill, hpoll, hbuffer, henabled, hcache, rfl, rfl, rfl⟩
  · intro h
    refine ⟨_, h.endpoint, _, h.rpcPort, _, h.healthPort, _, h.connectTimeout, _, h.requestTimeout,
      _, h.initialDelay, _, h.maxDelay, _, h.maxRetries, _, h.simulatorInterval, _,
      h.fillProbability, _, h.pollInterval, _, h.bufferCapacity, _, h.cacheEnabled, _, h.cacheTtl,
      ?_⟩
    simp only [← h.bindAddress, ← h.keepAlive, ← h.multiplier, ← h.jitterFactor]

theorem SaidBy.unique {s s' : Settings} (h : s.SaidBy vars) (h' : s'.SaidBy vars) : s = s' :=
  Except.ok.inj ((readAll_eq_ok_iff.2 h).symm.trans (readAll_eq_ok_iff.2 h'))

end OrderDesk.Settings
