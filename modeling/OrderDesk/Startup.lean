import OrderDesk.DotEnv
import OrderDesk.Lookup.Endpoint
import OrderDesk.Net.SocketAddress
import OrderDesk.Settings

/-!
# Starting the service

What happens before the service listens: a file of variables is loaded, telemetry is set up, the
settings are read, the address of the market service is checked and the listeners' addresses are
read. The first failure ends the start; only a bad address for traces is merely reported.
-/

namespace OrderDesk

/-- Why the service does not start. -/
inductive StartupError where
  | settings (error : SettingsError)
  | endpoint (error : UriError)
  | address
  deriving DecidableEq, Repr

namespace StartupError

def report : StartupError → String
  | .settings e => e.report
  | .endpoint e => "InvalidConfig \x7b message: " ++ Text.quoted (Endpoint.faultDetail e) ++ " \x7d"
  | .address => "AddrParseError(Socket)"

end StartupError

/-- A service that is ready to listen. -/
structure Ready where
  settings : Settings
  endpoint : Uri
  health : SocketAddress
  rpc : SocketAddress
  deriving DecidableEq, Repr

/-- What came of a start: the lines that were reported, and the service if it started. -/
structure Startup where
  warnings : List String
  outcome : Except StartupError Ready

namespace Startup

/-- Checks the settings' addresses, in the order in which they are used. -/
def check (s : Settings) : Except StartupError Ready := do
  let endpoint ← (Uri.parse s.endpoint).mapError .endpoint
  let address (text : String) : Except StartupError SocketAddress :=
    match SocketAddress.parse? text.toList with
    | some a => .ok a
    | none => .error .address
  let health ← address s.healthAddress
  let rpc ← address s.rpcAddress
  return { settings := s, endpoint, health, rpc }

/-- What is reported about the address for traces. -/
def telemetryWarnings (t : TelemetrySettings) : List String :=
  if t.enabled then
    match Uri.parse t.endpoint with
    | .ok _ => []
    | .error e =>
      ["Failed to create OTLP exporter: invalid URI " ++ t.endpoint ++ ". Reason " ++ e.message ++
        ", falling back to console logging"]
  else []

/-- Starts the service in an environment, after loading a file of variables if there is one. -/
def run (env : Environment) (file : Option String) : Startup :=
  let env := match file with
    | some text => DotEnv.load env text
    | none => env
  let vars (name : String) : Option String := env.lookup name
  { warnings := telemetryWarnings (.read vars)
    outcome :=
      match Settings.load vars with
      | .error e => .error (.settings e)
      | .ok s => check s }

def listens (s : Startup) : Bool :=
  match s.outcome with
  | .ok _ => true
  | .error _ => false

def exitCode (s : Startup) : Nat :=
  if s.listens then 0 else 1

def errorLines (s : Startup) : List String :=
  s.warnings ++ match s.outcome with
    | .ok _ => []
    | .error e => ["Error: " ++ e.report]

def errorText (s : Startup) : String :=
  String.join (s.errorLines.map (· ++ "\n"))

end Startup

end OrderDesk
