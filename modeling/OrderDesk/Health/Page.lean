import OrderDesk.Health.Report
import OrderDesk.Net.Uri

/-!
# The health routes

The four pages on which the desk reports: its health, whether it lives, whether it is ready, and its
metrics. They can be read with `GET` and `HEAD` only.
-/

namespace OrderDesk

/-- What a page holds. -/
inductive PageBody where
  | empty
  | text (s : String)
  | json (v : JsonValue)
  | metrics (m : Metrics)

def PageBody.toText : PageBody → String
  | .empty => ""
  | .text s => s
  | .json v => v.toText
  | .metrics m => m.toText

/-- A page, and how it is answered. -/
structure Page where
  status : Nat
  contentType : Option String
  body : PageBody

namespace Page

def plain (status : Nat) (text : String) : Page :=
  ⟨status, some "text/plain; charset=utf-8", .text text⟩

/-- The answer to a request that no page fits. -/
def bare (status : Nat) : Page :=
  ⟨status, none, .empty⟩

/-- The status under which a health report is answered. -/
def healthCode : HealthStatus → Nat
  | .unhealthy => 503
  | _ => 200

def health (report : HealthReport) : Page :=
  ⟨healthCode report.status, some "application/json", .json report.toJson⟩

/-- The page that says that the desk lives. -/
def liveness : Page :=
  plain 200 "OK"

/-- The page that says whether the desk is ready: whether its simulator runs. -/
def readiness (running : Bool) : Page :=
  if running then plain 200 "READY" else plain 503 "NOT READY"

def metrics (m : Metrics) : Page :=
  ⟨200, some "text/plain; version=0.0.4; charset=utf-8", .metrics m⟩

def at? (desk : Desk) (report : HealthReport) (path : String) : Option Page :=
  if path = "/health" then some (health report)
  else if path = "/healthz" then some liveness
  else if path = "/readyz" then some (readiness desk.simulator.isRunning)
  else if path = "/metrics" then some (metrics desk.metrics)
  else none

/-- Answers a request for the page at a URI, whose host and query play no part. -/
def answer (desk : Desk) (report : HealthReport) (method target : String) : Page :=
  match Uri.parse target with
  | .error _ => bare 400
  | .ok uri =>
    match at? desk report (String.ofList uri.pagePath) with
    | none => bare 404
    | some page =>
      if method = "GET" then page
      else if method = "HEAD" then { page with body := .empty }
      else bare 405

end Page

end OrderDesk
