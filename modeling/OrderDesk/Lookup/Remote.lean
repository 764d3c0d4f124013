import OrderDesk.Lookup.Retry
import OrderDesk.Lookup.Source
import OrderDesk.Rpc.Code
import OrderDesk.Rpc.RequestId
import OrderDesk.Text.Quoted
import OrderDesk.Wire.Market

/-!
# The remote market service

Markets are looked up at a remote service. A call that failed for a passing reason is repeated, with
the same request, as often as the retry settings allow; the last answer decides. The service is
given by how it answers a request in some state of its own.
-/

namespace OrderDesk

/-- Why a lookup at the remote service failed. -/
inductive RemoteError where
  | invalidConfig (detail : String)
  | status (code : RpcCode) (text : String)
  | retriesExhausted (attempts : Nat) (text : String)
  | invalidResponse (detail : String)
  deriving DecidableEq, Repr

namespace RemoteError

/-- A status as a line: what its code means and, if there is one, its text in quotes. -/
def describeStatus (code : RpcCode) (text : String) : String :=
  "code: '" ++ code.explanation ++ "'" ++
    (if text = "" then "" else ", message: " ++ Text.quoted text)

def message : RemoteError → String
  | .invalidConfig d => "invalid configuration: " ++ d
  | .status code text => "grpc error: " ++ describeStatus code text
  | .retriesExhausted attempts text =>
    "gave up after " ++ String.ofList (Text.decimal attempts) ++ " attempts: " ++ text
  | .invalidResponse d => "invalid response: " ++ d

/-- What a failure at the remote service means for the lookup. -/
def toLookupError (e : RemoteError) : LookupError :=
  match e with
  | .status code text =>
    if code.isRetryable then .unavailable text else .rejected (code.name ++ ": " ++ text)
  | .invalidConfig _ => .unavailable e.message
  | .retriesExhausted .. => .unavailable e.message
  | .invalidResponse d => .invalidResponse d

end RemoteError

/-- A request for the markets that some roles can see. -/
structure MarketsRequest where
  userRoles : List Int
  /-- The request ID, unless it cannot be sent as a header. -/
  requestId : Option String
  deriving DecidableEq, Repr

def MarketsRequest.make (roles : List Role) (requestId : String) : MarketsRequest :=
  { userRoles := roles.map Role.toWire
    requestId := if RequestId.isSendable requestId then some requestId else none }

/-- How a call of the remote service ends. -/
inductive MarketsReply where
  | markets (markets : List WireMarket)
  | failed (code : RpcCode) (text : String)
  deriving DecidableEq, Repr

/-- A service of markets: its answer to a request, and its state afterwards. -/
abbrev MarketService (σ : Type) :=
  MarketsRequest → σ → MarketsReply × σ

/-- A service that cannot be reached. -/
def unreachableService {σ : Type} (code : RpcCode) (text : String) : MarketService σ :=
  fun _ state => (.failed code text, state)

/-- Reads all markets of an answer; one that is unreadable spoils it. -/
def decodeMarkets (markets : List WireMarket) : Except RemoteError (List Market) :=
  match markets.mapM WireMarket.decode with
  | .ok markets => .ok markets
  | .error e => .error (.invalidResponse e.message)

/-- What a series of calls led to. -/
structure Fetched (σ : Type) where
  /-- Nothing is answered when the series breaks off between two calls. -/
  answer : Option (Except RemoteError (List Market))
  state : σ
  /-- How long was waited after each failed call but the last. -/
  waits : List Nanos

/-- Calls the service until an answer is final. `fuel` bounds the calls. -/
def fetchFrom {σ : Type} (service : MarketService σ) (request : MarketsRequest)
    (draw : Binary64 → Binary64) (retry : Retry) (state : σ) (waits : List Nanos) :
    Nat → Fetched σ
  | 0 => ⟨some (.error (.retriesExhausted retry.attempts "")), state, waits⟩
  | fuel + 1 =>
    match service request state with
    | (.markets markets, state) => ⟨some (decodeMarkets markets), state, waits⟩
    | (.failed code text, state) =>
      if code.isRetryable then
        match retry.next draw with
        | (.spent, retry) => ⟨some (.error (.retriesExhausted retry.attempts text)), state, waits⟩
        | (.delay wait, retry) => fetchFrom service request draw retry state (waits ++ [wait]) fuel
        | (.broken, _) => ⟨none, state, waits⟩
      else ⟨some (.error (.status code text)), state, waits⟩

/-- Looks the markets up at the service: one call, and as many more as there are retries. -/
def fetchMarkets {σ : Type} (service : MarketService σ) (config : RetryConfig)
    (draw : Binary64 → Binary64) (roles : List Role) (requestId : String) (state : σ) : Fetched σ :=
  fetchFrom service (.make roles requestId) draw (.start config) state [] (config.maxRetries + 1)

/-- The remote service as a source of markets. A source has to answer, so a failure without a text
stands for a series of calls that broke off. No accepted settings lead to one, and `fetchMarkets`
tells it apart. -/
def MarketSource.remote {σ : Type} (service : MarketService σ) (config : RetryConfig)
    (draw : Binary64 → Binary64) : MarketSource σ := fun roles requestId state =>
  let fetched := fetchMarkets service config draw roles requestId state
  { answer := match fetched.answer with
      | some answer => answer.mapError RemoteError.toLookupError
      | none => .error (.unavailable "")
    state := fetched.state
    recorded := [] }

end OrderDesk
