import OrderDesk.Binary64.Parser
import OrderDesk.Binary64.Shortest
import OrderDesk.Lookup.Retry
import OrderDesk.Text.Blank
import OrderDesk.Text.LowerCase
import OrderDesk.Text.Quoted

/-!
# Settings

The settings of the service, read from variables. All but the address of the market service have a
default; a variable that is present but unusable is an error, never a default. Variables are read in
a fixed order, and what they say is checked only after all of them could be read.
-/

namespace OrderDesk

/-- Why the settings cannot be used. -/
inductive SettingsError where
  | missing (variable_ : String)
  | empty (variable_ : String)
  | invalid (variable_ value reason : String)
  deriving DecidableEq, Repr

namespace SettingsError

def message : SettingsError → String
  | .missing v => "missing required environment variable: " ++ v
  | .empty v => "environment variable " ++ v ++ " cannot be empty"
  | .invalid v value reason => "invalid value '" ++ value ++ "' for " ++ v ++ ": " ++ reason

/-- The error as it is reported when the service does not start. -/
def report : SettingsError → String
  | .missing v => "MissingEnvVar(" ++ Text.quoted v ++ ")"
  | .empty v => "EmptyValue(" ++ Text.quoted v ++ ")"
  | .invalid v value reason =>
    "InvalidValue \x7b key: " ++ Text.quoted v ++ ", value: " ++ Text.quoted value ++
      ", reason: " ++ Text.quoted reason ++ " \x7d"

end SettingsError

/-- The settings of the service. -/
structure Settings where
  bindAddress : String
  rpcPort : Nat
  healthPort : Nat
  endpoint : String
  connectTimeout : Nanos
  requestTimeout : Nanos
  keepAlive : Nanos
  retry : RetryConfig
  simulatorInterval : Nanos
  fillProbability : Binary64
  pollInterval : Nanos
  bufferCapacity : Nat
  cacheEnabled : Bool
  cacheTtl : Nanos
  deriving DecidableEq, Repr

namespace Settings

/-- A source of variables. -/
abbrev Variables := String → Option String

def variableNames : List String :=
  ["SPOT_INSTRUMENT_ENDPOINT", "ORDER_SERVICE_BIND_ADDRESS", "ORDER_SERVICE_GRPC_PORT",
    "ORDER_SERVICE_HEALTH_PORT", "SPOT_INSTRUMENT_CONNECT_TIMEOUT_MS",
    "SPOT_INSTRUMENT_REQUEST_TIMEOUT_MS", "SPOT_INSTRUMENT_BACKOFF_INITIAL_MS",
    "SPOT_INSTRUMENT_BACKOFF_MAX_MS", "SPOT_INSTRUMENT_MAX_RETRIES",
    "ORDER_SIMULATOR_INTERVAL_SECS", "ORDER_SIMULATOR_FILL_PROBABILITY",
    "ORDER_STREAM_POLL_INTERVAL_SECS", "ORDER_STREAM_BUFFER", "MARKETS_CACHE_ENABLED",
    "MARKETS_CACHE_TTL_SECS", "OTEL_ENABLED", "OTEL_EXPORTER_OTLP_ENDPOINT", "OTEL_SERVICE_NAME"]

/-- Reads a variable, once its blanks are trimmed, or takes the default when it is absent. -/
def readWith {α : Type} (parse : List Char → Option α) (vars : Variables) (name : String)
    (default : α) : Except SettingsError α :=
  match vars name with
  | none => .ok default
  | some raw =>
    match parse (Text.trim raw.toList) with
    | some a => .ok a
    | none => .error (.invalid name raw "cannot be parsed")

def readNat (limit : Nat) : Variables → String → Nat → Except SettingsError Nat :=
  readWith (Text.natBelow? limit)

def wordLimit : Nat := 0x10000000000000000

def readSpan (unit : Nanos) (vars : Variables) (name : String) (default : Nat) :
    Except SettingsError Nanos :=
  (readNat wordLimit vars name default).map (· * unit)

/-- Reads a flag; case and blanks around it do not matter. -/
def readFlag (vars : Variables) (name : String) (default : Bool) : Except SettingsError Bool :=
  match vars name with
  | none => .ok default
  | some raw =>
    let value := String.ofList (Text.lowerCase (Text.trim raw.toList))
    if value = "true" ∨ value = "1" ∨ value = "yes" then .ok true
    else if value = "false" ∨ value = "0" ∨ value = "no" then .ok false
    else .error (.invalid name value "expected true or false")

/-- Reads the address of the market service: it has to be there, and not blank. -/
def readEndpoint (vars : Variables) : Except SettingsError String :=
  match vars "SPOT_INSTRUMENT_ENDPOINT" with
  | none => .error (.missing "SPOT_INSTRUMENT_ENDPOINT")
  | some raw =>
    match Text.trim raw.toList with
    | [] => .error (.empty "SPOT_INSTRUMENT_ENDPOINT")
    | cs => .ok (String.ofList cs)

/-- Reads all variables, in order, without looking at what they say. -/
def readAll (vars : Variables) : Except SettingsError Settings := do
  let endpoint ← readEndpoint vars
  let bindAddress := (vars "ORDER_SERVICE_BIND_ADDRESS").getD "0.0.0.0"
  let rpcPort ← readNat 65536 vars "ORDER_SERVICE_GRPC_PORT" 50051
  let healthPort ← readNat 65536 vars "ORDER_SERVICE_HEALTH_PORT" 8081
  let connectTimeout ← readSpan nanosPerMilli vars "SPOT_INSTRUMENT_CONNECT_TIMEOUT_MS" 5000
  let requestTimeout ← readSpan nanosPerMilli vars "SPOT_INSTRUMENT_REQUEST_TIMEOUT_MS" 3000
  let initialDelay ← readSpan nanosPerMilli vars "SPOT_INSTRUMENT_BACKOFF_INITIAL_MS" 100
  let maxDelay ← readSpan nanosPerMilli vars "SPOT_INSTRUMENT_BACKOFF_MAX_MS" 2000
  let maxRetries ← readNat 0x100000000 vars "SPOT_INSTRUMENT_MAX_RETRIES" 2
  let simulatorInterval ← readSpan nanosPerSecond vars "ORDER_SIMULATOR_INTERVAL_SECS" 30
  let fillProbability ←
    readWith Binary64.parse? vars "ORDER_SIMULATOR_FILL_PROBABILITY" Binary64.half
  let pollInterval ← readSpan nanosPerSecond vars "ORDER_STREAM_POLL_INTERVAL_SECS" 5
  let bufferCapacity ← readNat wordLimit vars "ORDER_STREAM_BUFFER" 10
  let cacheEnabled ← readFlag vars "MARKETS_CACHE_ENABLED" true
  let cacheTtl ← readSpan nanosPerSecond vars "MARKETS_CACHE_TTL_SECS" 60
  return {
    bindAddress, rpcPort, healthPort, endpoint, connectTimeout, requestTimeout
    keepAlive := 60 * nanosPerSecond
    retry := { RetryConfig.standard with initialDelay, maxDelay, maxRetries }
    simulatorInterval, fillProbability, pollInterval, bufferCapacity, cacheEnabled, cacheTtl }

/-- What is wrong with the settings, if anything: the first rule that they break. -/
def fault? (s : Settings) : Option SettingsError :=
  if s.simulatorInterval = 0 then
    some (.invalid "ORDER_SIMULATOR_INTERVAL_SECS" "0" "must be greater than zero")
  else if !(Binary64.zero.le s.fillProbability && s.fillProbability.le .one) then
    some (.invalid "ORDER_SIMULATOR_FILL_PROBABILITY" s.fillProbability.toText
      "must be within [0, 1]")
  else if s.pollInterval = 0 then
    some (.invalid "ORDER_STREAM_POLL_INTERVAL_SECS" "0" "must be greater than zero")
  else if s.bufferCapacity = 0 then
    some (.invalid "ORDER_STREAM_BUFFER" "0" "must be greater than zero")
  else if s.cacheEnabled && s.cacheTtl = 0 then
    some (.invalid "MARKETS_CACHE_TTL_SECS" "0"
      "must be greater than zero when the cache is enabled")
  else if s.retry.maxDelay < s.retry.initialDelay then
    some (.invalid "SPOT_INSTRUMENT_BACKOFF_INITIAL_MS"
      (String.ofList (Text.decimal (s.retry.initialDelay / nanosPerMilli)))
      "must not exceed SPOT_INSTRUMENT_BACKOFF_MAX_MS")
  else none

def validate (s : Settings) : Except SettingsError Unit :=
  match s.fault? with
  | some e => .error e
  | none => .ok ()

def load (vars : Variables) : Except SettingsError Settings := do
  let s ← readAll vars
  s.validate
  return s

def listenAddress (s : Settings) (port : Nat) : String :=
  s.bindAddress ++ ":" ++ String.ofList (Text.decimal port)

def rpcAddress (s : Settings) : String :=
  s.listenAddress s.rpcPort

def healthAddress (s : Settings) : String :=
  s.listenAddress s.healthPort

end Settings

/-- Whether and where traces are exported. -/
structure TelemetrySettings where
  enabled : Bool
  endpoint : String
  serviceName : String
  deriving DecidableEq, Repr

namespace TelemetrySettings

/-- Whether a text says `false`, in any case. -/
def saysFalse (s : String) : Bool :=
  decide (Binary64.asciiLower s.toList = ['f', 'a', 'l', 's', 'e'])

/-- Reads the settings. Traces are exported unless a variable says `false`. -/
def read (vars : Settings.Variables) : TelemetrySettings :=
  { enabled := ((vars "OTEL_ENABLED").map fun v => !saysFalse v).getD true
    endpoint := (vars "OTEL_EXPORTER_OTLP_ENDPOINT").getD "http://localhost:4317"
    serviceName := (vars "OTEL_SERVICE_NAME").getD "order-service" }

end TelemetrySettings

end OrderDesk
