import OrderDesk.Proofs.Settings.Variables
import OrderDesk.Proofs.Wire.Faults

/-!
# How settings are loaded

Two lists of checks say what can be wrong: `readings` with the variables, in the order in which they
are read, and `rules` with the settings that the variables stand for. The error of `load` is that of
the first check that fails, the rules being looked at only when all variables could be read
(`load_exact`).
-/

namespace OrderDesk

/-- The variable that an error is about. -/
def SettingsError.about : SettingsError → String
  | .missing name => name
  | .empty name => name
  | .invalid name _ _ => name

/-! ## Checks -/

/-- One thing that can be wrong, and the error that says so. -/
structure Check (α : Type) where
  /-- The variable at fault. -/
  name : String
  passes : α → Bool
  error : α → SettingsError
  about_error : ∀ a, (error a).about = name

namespace Check

variable {α : Type} {checks : List (Check α)} {check : Check α} {a : α} {e : SettingsError}

/-- The error of a check, if it fails. -/
def faults (check : Check α) (a : α) : List SettingsError :=
  match check.passes a with
  | true => []
  | false => [check.error a]

theorem faults_eq_nil_iff : check.faults a = [] ↔ check.passes a = true := by
  cases h : check.passes a <;> simp [faults, h]

/-- The errors of all checks that fail, in their order. -/
def errors (checks : List (Check α)) (a : α) : List SettingsError :=
  checks.flatMap fun check => check.faults a

theorem errors_nil (a : α) : errors [] a = [] := rfl

theorem errors_cons (check : Check α) (checks : List (Check α)) (a : α) :
    errors (check :: checks) a = check.faults a ++ errors checks a := rfl

theorem errors_eq_nil_iff : errors checks a = [] ↔ ∀ check ∈ checks, check.passes a = true := by
  simp only [errors, List.flatMap_eq_nil_iff, faults_eq_nil_iff]

/-- A first check as the branch of a program. -/
theorem head?_errors_cons {broken : Prop} [Decidable broken] {rest : Option SettingsError}
    (hbroken : check.passes a = false ↔ broken) (hrest : (errors checks a).head? = rest) :
    (errors (check :: checks) a).head? = if broken then some (check.error a) else rest := by
  rw [errors_cons, faults]
  cases h : check.passes a with
  | true =>
    have hkept : ¬ broken := by simp [← hbroken, h]
    rw [if_neg hkept]
    exact hrest
  | false =>
    rw [if_pos (hbroken.1 h)]
    rfl

/-- An error is that of the first check that fails. -/
def FirstError (checks : List (Check α)) (a : α) (e : SettingsError) : Prop :=
  ∃ before check after, checks = before ++ check :: after ∧
    (∀ earlier ∈ before, earlier.passes a = true) ∧ check.passes a = false ∧
    e = check.error a ∧ e.about = check.name

theorem firstError_cons_of_passes (h : check.passes a = true) :
    FirstError (check :: checks) a e ↔ FirstError checks a e := by
  constructor
  · rintro ⟨_ | ⟨first, before⟩, failing, after, hsplit, hbefore, hfails, he⟩
    · obtain ⟨rfl, -⟩ := List.cons.inj hsplit
      simp [h] at hfails
    · exact ⟨before, failing, after, (List.cons.inj hsplit).2, (List.forall_mem_cons.1 hbefore).2,
        hfails, he⟩
  · rintro ⟨before, failing, after, rfl, hbefore, hfails, he⟩
    exact ⟨check :: before, failing, after, rfl, List.forall_mem_cons.2 ⟨h, hbefore⟩, hfails, he⟩

theorem firstError_cons_of_fails (h : check.passes a = false) :
    FirstError (check :: checks) a e ↔ e = check.error a := by
  constructor
  · rintro ⟨_ | ⟨first, before⟩, failing, after, hsplit, hbefore, hfails, he, -⟩
    · obtain ⟨rfl, -⟩ := List.cons.inj hsplit
      exact he
    · obtain ⟨rfl, -⟩ := List.cons.inj hsplit
      simp [(List.forall_mem_cons.1 hbefore).1] at h
  · rintro rfl
    exact ⟨[], check, checks, rfl, by simp, h, rfl, check.about_error a⟩

theorem firstError_iff : FirstError checks a e ↔ (errors checks a).head? = some e := by
  induction checks with
  | nil => simp [FirstError, errors_nil]
  | cons check checks ih =>
    rw [errors_cons, faults]
    cases h : check.passes a with
    | true => simpa [firstError_cons_of_passes h] using ih
    | false => simp [firstError_cons_of_fails h, eq_comm]

end Check

namespace Settings

/-! ## Variables that cannot be read -/

/-- What the text of a variable has to be. -/
inductive Form where
  | address
  | number (limit : Nat)
  | probability
  | flag

namespace Form

/-- Whether a variable has the form. Only an address has to be there. -/
def accepts : Form → Option String → Bool
  | .address, none => false
  | .number _, none | .probability, none | .flag, none => true
  | .address, some raw => !(Text.trim raw.toList).isEmpty
  | .number limit, some raw => (Text.natBelow? limit (Text.trim raw.toList)).isSome
  | .probability, some raw => (Binary64.parse? (Text.trim raw.toList)).isSome
  | .flag, some raw => (flag? (Text.trim raw.toList)).isSome

/-- The error for a variable that does not have the form. -/
def error (name : String) : Form → Option String → SettingsError
  | _, none => .missing name
  | .address, some _ => .empty name
  | .number _, some raw | .probability, some raw => .invalid name raw "cannot be parsed"
  | .flag, some raw =>
    .invalid name (String.ofList (Text.lowerCase (Text.trim raw.toList))) "expected true or false"

theorem about_error (name : String) (form : Form) (said : Option String) :
    (form.error name said).about = name := by
  cases said with
  | none => rfl
  | some raw => cases form <;> rfl

end Form

/-- A variable that is read. -/
def reading (name : String) (form : Form) : Check Variables where
  name
  passes vars := form.accepts (vars name)
  error vars := form.error name (vars name)
  about_error vars := form.about_error name (vars name)

/-- The variables that can be at fault, in the order in which they are read. -/
def readings : List (Check Variables) :=
  [reading "SPOT_INSTRUMENT_ENDPOINT" .address,
    reading "ORDER_SERVICE_GRPC_PORT" (.number 65536),
    reading "ORDER_SERVICE_HEALTH_PORT" (.number 65536),
    reading "SPOT_INSTRUMENT_CONNECT_TIMEOUT_MS" (.number wordLimit),
    reading "SPOT_INSTRUMENT_REQUEST_TIMEOUT_MS" (.number wordLimit),
    reading "SPOT_INSTRUMENT_BACKOFF_INITIAL_MS" (.number wordLimit),
    reading "SPOT_INSTRUMENT_BACKOFF_MAX_MS" (.number wordLimit),
    reading "SPOT_INSTRUMENT_MAX_RETRIES" (.number 0x100000000),
    reading "ORDER_SIMULATOR_INTERVAL_SECS" (.number wordLimit),
    reading "ORDER_SIMULATOR_FILL_PROBABILITY" .probability,
    reading "ORDER_STREAM_POLL_INTERVAL_SECS" (.number wordLimit),
    reading "ORDER_STREAM_BUFFER" (.number wordLimit),
    reading "MARKETS_CACHE_ENABLED" .flag,
    reading "MARKETS_CACHE_TTL_SECS" (.number wordLimit)]

variable {vars : Variables} {name : String} {s : Settings} {e : SettingsError}

/-- A variable that may be absent, and cannot be parsed otherwise. -/
theorem refusal?_readWith {α : Type} {parse : List Char → Option α} {default : α} {form : Form}
    (habsent : form.accepts none = true)
    (haccepts : ∀ raw, form.accepts (some raw) = (parse (Text.trim raw.toList)).isSome)
    (herror : ∀ raw, form.error name (some raw) = .invalid name raw "cannot be parsed") :
    refusal? (readWith parse vars name default) = ((reading name form).faults vars).head? := by
  unfold readWith
  simp only [Check.faults, reading]
  cases vars name with
  | none => simp [habsent, refusal?]
  | some raw =>
    cases hparse : parse (Text.trim raw.toList) <;> simp [haccepts, herror, hparse, refusal?]

theorem refusal?_readNat {limit default : Nat} : refusal? (readNat limit vars name default) =
    ((reading name (.number limit)).faults vars).head? :=
  refusal?_readWith rfl (fun _ => rfl) (fun _ => rfl)

/-- The unit of a span makes no difference to whether it can be read. -/
theorem refusal?_readSpan {unit : Nanos} {default : Nat} :
    refusal? (readSpan unit vars name default) =
      ((reading name (.number wordLimit)).faults vars).head? := by
  have hmap : refusal? (readSpan unit vars name default) =
      refusal? (readNat wordLimit vars name default) := by
    unfold readSpan
    cases readNat wordLimit vars name default <;> rfl
  exact hmap.trans refusal?_readNat

theorem refusal?_readProbability {default : Binary64} :
    refusal? (readWith Binary64.parse? vars name default) =
      ((reading name .probability).faults vars).head? :=
  refusal?_readWith rfl (fun _ => rfl) (fun _ => rfl)

theorem refusal?_readFlag {default : Bool} : refusal? (readFlag vars name default) =
    ((reading name .flag).faults vars).head? := by
  rw [readFlag_eq]
  simp only [Check.faults, reading]
  cases vars name with
  | none => rfl
  | some raw =>
    cases hflag : flag? (Text.trim raw.toList) <;>
      simp [hflag, Form.accepts, Form.error, refusal?]

theorem refusal?_readEndpoint : refusal? (readEndpoint vars) =
    ((reading "SPOT_INSTRUMENT_ENDPOINT" .address).faults vars).head? := by
  unfold readEndpoint
  simp only [Check.faults, reading]
  cases vars "SPOT_INSTRUMENT_ENDPOINT" with
  | none => rfl
  | some raw =>
    cases htrim : Text.trim raw.toList <;> simp [htrim, Form.accepts, Form.error, refusal?]

theorem refusal?_readAll : refusal? (readAll vars) = (Check.errors readings vars).head? := by
  simp only [readings, Check.errors_cons, Check.errors_nil, List.append_nil]
  refine refusal?_bind refusal?_readEndpoint fun endpoint _ => ?_
  refine refusal?_bind refusal?_readNat fun rpcPort _ => ?_
  refine refusal?_bind refusal?_readNat fun healthPort _ => ?_
  refine refusal?_bind refusal?_readSpan fun connectTimeout _ => ?_
  refine refusal?_bind refusal?_readSpan fun requestTimeout _ => ?_
  refine refusal?_bind refusal?_readSpan fun initialDelay _ => ?_
  refine refusal?_bind refusal?_readSpan fun maxDelay _ => ?_
  refine refusal?_bind refusal?_readNat fun maxRetries _ => ?_
  refine refusal?_bind refusal?_readSpan fun simulatorInterval _ => ?_
  refine refusal?_bind refusal?_readProbability fun fillProbability _ => ?_
  refine refusal?_bind refusal?_readSpan fun pollInterval _ => ?_
  refine refusal?_bind refusal?_readNat fun bufferCapacity _ => ?_
  refine refusal?_bind refusal?_readFlag fun cacheEnabled _ => ?_
  exact refusal?_bind_pure.trans refusal?_readSpan

theorem readAll_eq_error_iff : readAll vars = .error e ↔ Check.FirstError readings vars e := by
  rw [Check.firstError_iff, ← refusal?_readAll, refusal?_eq_some_iff]

/-- The variables stand for settings when each of them can be read. -/
theorem exists_saidBy_iff :
    (∃ s : Settings, s.SaidBy vars) ↔ ∀ reading ∈ readings, reading.passes vars = true := by
  simp only [← readAll_eq_ok_iff, ← refusal?_eq_none_iff, refusal?_readAll,
    List.head?_eq_none_iff, Check.errors_eq_nil_iff]

/-! ## Rules that are broken -/

/-- A rule about what a variable stands for. -/
def rule (name : String) (passes : Settings → Bool) (shown : Settings → String) (reason : String) :
    Check Settings where
  name
  passes
  error s := .invalid name (shown s) reason
  about_error _ := rfl

/-- What the settings have to satisfy, in the order in which it is looked at. -/
def rules : List (Check Settings) :=
  [rule "ORDER_SIMULATOR_INTERVAL_SECS" (fun s => s.simulatorInterval != 0) (fun _ => "0")
      "must be greater than zero",
    rule "ORDER_SIMULATOR_FILL_PROBABILITY"
      (fun s => Binary64.zero.le s.fillProbability && s.fillProbability.le .one)
      (fun s => s.fillProbability.toText) "must be within [0, 1]",
    rule "ORDER_STREAM_POLL_INTERVAL_SECS" (fun s => s.pollInterval != 0) (fun _ => "0")
      "must be greater than zero",
    rule "ORDER_STREAM_BUFFER" (fun s => s.bufferCapacity != 0) (fun _ => "0")
      "must be greater than zero",
    rule "MARKETS_CACHE_TTL_SECS" (fun s => !(s.cacheEnabled && s.cacheTtl == 0)) (fun _ => "0")
      "must be greater than zero when the cache is enabled",
    rule "SPOT_INSTRUMENT_BACKOFF_INITIAL_MS"
      (fun s => decide (s.retry.initialDelay ≤ s.retry.maxDelay))
      (fun s => String.ofList (Text.decimal (s.retry.initialDelay / nanosPerMilli)))
      "must not exceed SPOT_INSTRUMENT_BACKOFF_MAX_MS"]

theorem head?_errors_rules : (Check.errors rules s).head? = s.fault? := by
  unfold fault? rules
  refine Check.head?_errors_cons (by simp [rule]) ?_
  refine Check.head?_errors_cons (by simp only [rule, Bool.not_eq_true']) ?_
  refine Check.head?_errors_cons (by simp [rule]) ?_
  refine Check.head?_errors_cons (by simp [rule]) ?_
  refine Check.head?_errors_cons (by simp [rule]) ?_
  exact Check.head?_errors_cons (by simp [rule]) rfl

theorem fault?_eq_some_iff : s.fault? = some e ↔ Check.FirstError rules s e := by
  rw [← head?_errors_rules, Check.firstError_iff]

/-! ## Loading -/

theorem load_eq_error_iff : load vars = .error e ↔
    readAll vars = .error e ∨ ∃ s, readAll vars = .ok s ∧ s.fault? = some e := by
  unfold load validate
  cases readAll vars with
  | error e' => simp [bind, Except.bind]
  | ok s => cases hfault : s.fault? <;> simp [bind, Except.bind, pure, Except.pure, hfault]

/-- What becomes of variables, whatever they are. -/
structure Loading (vars : Variables) : Prop where
  /-- They are accepted when each of them can be read and they stand for settings that obey the
  rules. -/
  accepted : (∃ s, load vars = .ok s) ↔
    (∀ reading ∈ readings, reading.passes vars = true) ∧ ∀ s : Settings, s.SaidBy vars → s.Obeys
  /-- The settings are what the variables say. -/
  loaded : ∀ s, load vars = .ok s ↔ s.SaidBy vars ∧ s.Obeys
  valid : ∀ s, load vars = .ok s → s.validate = .ok ()
  /-- The error is about the first variable that cannot be read, and if there is none, about the
  first rule that is broken. -/
  refused : ∀ e, load vars = .error e ↔
    Check.FirstError readings vars e ∨
      ∃ s : Settings, s.SaidBy vars ∧ Check.FirstError rules s e

/-- **Loading is exact.** -/
theorem load_exact (vars : Variables) : Loading vars where
  accepted := by
    rw [← exists_saidBy_iff]
    simp only [load_eq_ok_iff, readAll_eq_ok_iff]
    constructor
    · rintro ⟨s, hsaid, hobeys⟩
      exact ⟨⟨s, hsaid⟩, fun s' hsaid' => hsaid.unique hsaid' ▸ hobeys⟩
    · rintro ⟨⟨s, hsaid⟩, hobeys⟩
      exact ⟨s, hsaid, hobeys s hsaid⟩
  loaded s := by rw [load_eq_ok_iff, readAll_eq_ok_iff]
  valid s h := validate_eq_ok_iff.2 (load_eq_ok_iff.1 h).2
  refused e := by
    simp only [load_eq_error_iff, readAll_eq_error_iff, readAll_eq_ok_iff, fault?_eq_some_iff]

/-- A longest delay on its own is held against the default of the first one. -/
example : load (fun
    | "SPOT_INSTRUMENT_ENDPOINT" => some "http://localhost:1"
    | "SPOT_INSTRUMENT_BACKOFF_MAX_MS" => some " 50 "
    | _ => none) =
    .error (.invalid "SPOT_INSTRUMENT_BACKOFF_INITIAL_MS" "100"
      "must not exceed SPOT_INSTRUMENT_BACKOFF_MAX_MS") := by
  decide +kernel

end Settings

end OrderDesk
