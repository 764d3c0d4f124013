import OrderDesk.Order.Status

/-!
# Metrics

What the service counts: orders, failures, changes of status, delivered updates, lookups of markets
and reads of their cache, and the number of subscriptions under way.
-/

namespace OrderDesk

/-- Something that is counted, with its label. -/
inductive Counter where
  | ordersCreated (orderType : OrderType)
  | createFailures (reason : String)
  | statusTransitions (status : OrderStatus)
  | updatesStreamed (status : OrderStatus)
  | marketLookups (succeeded : Bool)
  | cacheLookups (hit : Bool)
  deriving DecidableEq, Repr

namespace Counter

/-- The name of the metric a counter belongs to. -/
def metric : Counter → String
  | .ordersCreated _ => "order_service_orders_created_total"
  | .createFailures _ => "order_service_create_failures_total"
  | .statusTransitions _ => "order_service_status_transitions_total"
  | .updatesStreamed _ => "order_service_updates_streamed_total"
  | .marketLookups _ => "order_service_market_lookups_total"
  | .cacheLookups _ => "order_service_markets_cache_lookups_total"

def help : Counter → String
  | .ordersCreated _ => "Orders stored, by order type"
  | .createFailures _ => "CreateOrder calls that failed, by reason"
  | .statusTransitions _ => "Simulator transitions, by target status"
  | .updatesStreamed _ => "Status updates delivered to subscribers, by status"
  | .marketLookups _ => "Market validator calls, by outcome"
  | .cacheLookups _ => "Markets cache reads, by result"

/-- The label that tells the counters of a metric apart, and its value. -/
def label : Counter → String × String
  | .ordersCreated t => ("order_type", t.name)
  | .createFailures r => ("reason", r)
  | .statusTransitions s => ("status", s.name)
  | .updatesStreamed s => ("status", s.name)
  | .marketLookups ok => ("outcome", if ok then "success" else "failure")
  | .cacheLookups hit => ("result", if hit then "hit" else "miss")

/-- A counter as it is named in the text of the metrics. -/
def series (c : Counter) : String :=
  c.metric ++ "\x7b" ++ c.label.1 ++ "=\"" ++ c.label.2 ++ "\"\x7d"

end Counter

/-- The name of the gauge of subscriptions. -/
def activeGaugeName : String := "order_service_active_subscriptions"

def activeGaugeHelp : String := "Subscription pollers currently running"

/-- Something worth recording. -/
inductive Recording where
  | count (counter : Counter)
  | setActive (n : Nat)
  deriving DecidableEq, Repr

/-- The recorded values. -/
structure Metrics where
  counts : List (Counter × Nat)
  activeSubscriptions : Nat
  deriving DecidableEq, Repr

namespace Metrics

def initial : Metrics := ⟨[], 0⟩

instance : Inhabited Metrics := ⟨initial⟩

def value (m : Metrics) (c : Counter) : Nat :=
  (m.counts.lookup c).getD 0

def increment (counts : List (Counter × Nat)) (c : Counter) : List (Counter × Nat) :=
  match counts with
  | [] => [(c, 1)]
  | entry :: rest =>
    if entry.1 = c then (c, entry.2 + 1) :: rest else entry :: increment rest c

def record (m : Metrics) : Recording → Metrics
  | .count c => { m with counts := increment m.counts c }
  | .setActive n => { m with activeSubscriptions := n }

def recordAll (m : Metrics) (rs : List Recording) : Metrics :=
  rs.foldl record m

/-- The metrics that were counted, each once: a counter of each. -/
def families (m : Metrics) : List Counter :=
  m.counts.foldl (fun seen entry =>
    if seen.any (·.metric == entry.1.metric) then seen else seen ++ [entry.1]) []

/-- The text that a collector of metrics reads. -/
def toText (m : Metrics) : String :=
  let about (name help kind : String) : List String :=
    ["# HELP " ++ name ++ " " ++ help, "# TYPE " ++ name ++ " " ++ kind]
  let number (n : Nat) : String := String.ofList (Nat.toDigits 10 n)
  let counters := m.families.flatMap fun family =>
    about family.metric family.help "counter" ++
      ((m.counts.filter (·.1.metric == family.metric)).map fun entry =>
        entry.1.series ++ " " ++ number entry.2) ++ [""]
  let gauge := about activeGaugeName activeGaugeHelp "gauge" ++
    [activeGaugeName ++ " " ++ number m.activeSubscriptions, ""]
  String.join ((counters ++ gauge).map (· ++ "\n"))

theorem lookup_increment (counts : List (Counter × Nat)) (c d : Counter) :
    ((increment counts c).lookup d).getD 0 =
      (counts.lookup d).getD 0 + (if d = c then 1 else 0) := by
  induction counts with
  | nil =>
    by_cases h : d = c
    · simp [increment, h]
    · have : (d == c) = false := by simpa using h
      simp [increment, List.lookup_cons, this, h]
  | cons entry rest ih =>
    obtain ⟨e, n⟩ := entry
    simp only [increment]
    by_cases he : e = c
    · subst he
      by_cases h : d = e <;> simp [List.lookup_cons, h]
      all_goals (have : (d == e) = false := by simpa using h)
      all_goals simp [this]
    · simp only [he, if_false, List.lookup_cons]
      by_cases h : d = e
      · subst h; simp [he]
      · have : (d == e) = false := by simpa using h
        simp [this, ih]

/-- A recorded count adds one to its own counter and to no other. -/
theorem value_record_count (m : Metrics) (c d : Counter) :
    (m.record (.count c)).value d = m.value d + (if d = c then 1 else 0) :=
  lookup_increment m.counts c d

end Metrics

end OrderDesk
