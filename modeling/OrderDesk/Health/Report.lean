import OrderDesk.Desk
import OrderDesk.Json.Records
import OrderDesk.Lookup.Retry

/-!
# Health

Whether the desk does its work: it is unhealthy when the simulator is not running, and degraded when
the simulator is running but has not passed for more than three intervals.
-/

namespace OrderDesk

/-- How the desk is doing. -/
inductive HealthStatus where
  | healthy
  | degraded
  | unhealthy
  deriving DecidableEq, Repr

def HealthStatus.name : HealthStatus → String
  | .healthy => "healthy"
  | .degraded => "degraded"
  | .unhealthy => "unhealthy"

/-- The simulator as it is reported. -/
structure SimulatorReport where
  running : Bool
  ticks : Nat
  lastTickAt : Option Instant
  intervalSecs : Nat
  deriving DecidableEq, Repr

/-- A report on the health of the desk. -/
structure HealthReport where
  status : HealthStatus
  version : String
  uptimeSecs : Nat
  currentTime : Instant
  storedOrders : Nat
  activeSubscriptions : Nat
  simulator : SimulatorReport
  deriving DecidableEq, Repr

namespace HealthReport

/-- How many intervals may go by without a pass. -/
def staleIntervals : Nat := 3

/-- The largest number of seconds that is told apart. -/
def maxSecs : Nat := 0xFFFFFFFFFFFFFFFF

/-- The whole seconds from one time to another; zero when the clock went back. -/
def secondsSince (now earlier : Instant) : Nat :=
  ((now.since earlier).tdiv 1000000000).toNat

/-- The seconds without a pass: since the last one, or since the start when there was none. -/
def idleSecs (simulator : SimulatorReport) (uptimeSecs : Nat) (now : Instant) : Nat :=
  match simulator.lastTickAt with
  | none => uptimeSecs
  | some at_ => secondsSince now at_

def verdict (simulator : SimulatorReport) (uptimeSecs : Nat) (now : Instant) : HealthStatus :=
  if !simulator.running then .unhealthy
  else if min (simulator.intervalSecs * staleIntervals) maxSecs < idleSecs simulator uptimeSecs now
  then .degraded
  else .healthy

/-- The report on a desk that has been up for some time. -/
def ofDesk (desk : Desk) (version : String) (uptime : Nanos) (now : Instant) : HealthReport :=
  let simulator : SimulatorReport :=
    { running := desk.simulator.isRunning
      ticks := desk.simulator.ticks
      lastTickAt := desk.simulator.lastTickAt
      intervalSecs := desk.simulator.interval / nanosPerSecond }
  let uptimeSecs := uptime / nanosPerSecond
  { status := verdict simulator uptimeSecs now
    version, uptimeSecs
    currentTime := now
    storedOrders := desk.store.size
    activeSubscriptions := desk.active
    simulator }

def toJson (r : HealthReport) : JsonValue :=
  .record [
    ("status", .string r.status.name),
    ("version", .string r.version),
    ("uptime_secs", .ofNat r.uptimeSecs),
    ("current_time", r.currentTime.toJson),
    ("stored_orders", .ofNat r.storedOrders),
    ("active_subscriptions", .ofNat r.activeSubscriptions),
    ("simulator", .record [
      ("running", .bool r.simulator.running),
      ("ticks", .ofNat r.simulator.ticks),
      ("last_tick_at", (r.simulator.lastTickAt.map Instant.toJson).getD .null),
      ("interval_secs", .ofNat r.simulator.intervalSecs)])]

end HealthReport

end OrderDesk
