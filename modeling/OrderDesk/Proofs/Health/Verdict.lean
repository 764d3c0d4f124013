import OrderDesk.Health.Page
import OrderDesk.Proofs.Desk.Passes

/-!
# The verdict on a desk

The health of a desk is judged by two things: whether its simulator runs, and how long it has been
idle (`Desk.idleTime`), in whole seconds, against three intervals of whole seconds
(`HealthReport.status_ofDesk`).

Everything is rounded down, so a desk that passes once an interval is never late, however short the
interval (`not_isLate_of_recent`). A late desk stays late until it passes (`IsLate.of_ticks_eq`),
since spans of time grow with the clock (`Instant.since_mono`). This leaves out the clocks that show
leap seconds: at one the difference of two times may go down.
-/

namespace OrderDesk

/-! ## Spans of time -/

namespace Instant

@[simp] theorem since_self (i : Instant) : i.since i = 0 := by
  simp [since]

theorem since_of_not_isLeap {a b : Instant} (ha : a.isLeap = false) (hb : b.isLeap = false) :
    a.since b = (a.seconds - b.seconds) * 1000000000 + ((a.nanos : Int) - b.nanos) := by
  simp [since, ha, hb]

/-- Outside leap seconds, a span of time grows with its end. -/
theorem since_mono {a b earlier : Instant} (hle : a.le b = true) (ha : a.isLeap = false)
    (hb : b.isLeap = false) (he : earlier.isLeap = false) : a.since earlier ≤ b.since earlier := by
  rw [since_of_not_isLeap ha he, since_of_not_isLeap hb he]
  have hna : a.nanos < 1000000000 := by simpa [isLeap] using ha
  have hnb : b.nanos < 1000000000 := by simpa [isLeap] using hb
  simp only [le, Bool.or_eq_true, Bool.and_eq_true, decide_eq_true_eq, beq_iff_eq] at hle
  omega

end Instant

namespace HealthReport

/-- The whole seconds of a span of time; none when it goes back. -/
def wholeSeconds (span : Int) : Nat :=
  (span / 1000000000).toNat

theorem wholeSeconds_mono {a b : Int} (h : a ≤ b) : wholeSeconds a ≤ wholeSeconds b := by
  simp only [wholeSeconds]
  omega

theorem wholeSeconds_natCast (span : Nanos) : wholeSeconds span = span / nanosPerSecond := by
  simp only [wholeSeconds, nanosPerSecond]
  omega

/-- A span that goes back is rounded up, but has no whole seconds either way. -/
theorem secondsSince_eq (now earlier : Instant) :
    secondsSince now earlier = wholeSeconds (now.since earlier) := by
  rw [secondsSince, wholeSeconds]
  rcases Int.le_total 0 (now.since earlier) with h | h
  · rw [Int.tdiv_eq_ediv_of_nonneg h]
  · have hback : 0 ≤ (-now.since earlier).tdiv 1000000000 := Int.tdiv_nonneg (by omega) (by decide)
    rw [Int.neg_tdiv] at hback
    omega

end HealthReport

/-! ## Being late -/

open HealthReport

namespace Desk

/-- How long no pass has been made: since the last one, or while the desk has been up when there was
none. It is negative when the clock went back. -/
def idleTime (desk : Desk) (uptime : Nanos) (now : Instant) : Int :=
  match desk.simulator.lastTickAt with
  | none => uptime
  | some at_ => now.since at_

/-- How many seconds a desk may be idle. -/
def patience (desk : Desk) : Nat :=
  min (3 * (desk.simulator.interval / nanosPerSecond)) maxSecs

/-- Whether a desk has been idle for too long. -/
def IsLate (desk : Desk) (uptime : Nanos) (now : Instant) : Prop :=
  desk.patience < wholeSeconds (desk.idleTime uptime now)

instance (desk : Desk) (uptime : Nanos) (now : Instant) : Decidable (desk.IsLate uptime now) :=
  inferInstanceAs (Decidable (_ < _))

/-- The clock shows no leap second, and showed none at the last pass. -/
structure NoLeapSecond (desk : Desk) (now : Instant) : Prop where
  now : now.isLeap = false
  lastTickAt : ∀ at_, desk.simulator.lastTickAt = some at_ → at_.isLeap = false

variable {desk : Desk} {uptime uptime' : Nanos} {now now' : Instant}

theorem idleTime_mono (hup : uptime ≤ uptime') (hle : now.le now' = true)
    (h : desk.NoLeapSecond now) (h' : desk.NoLeapSecond now') :
    desk.idleTime uptime now ≤ desk.idleTime uptime' now' := by
  unfold idleTime
  split
  · exact Int.ofNat_le.2 hup
  · next at_ hlast => exact Instant.since_mono hle h.now h'.now (h.lastTickAt at_ hlast)

/-- A desk is not late within an interval of its last pass. -/
theorem not_isLate_of_recent (hinterval : desk.simulator.interval / nanosPerSecond ≤ maxSecs)
    (h : desk.idleTime uptime now ≤ desk.simulator.interval) : ¬ desk.IsLate uptime now := by
  have hseconds := wholeSeconds_mono h
  rw [wholeSeconds_natCast] at hseconds
  exact Nat.not_lt.2 (Nat.le_trans hseconds (Nat.le_min.2 ⟨by omega, hinterval⟩))

theorem patience_run (events : List Event) : (desk.run events).patience = desk.patience := by
  have hinterval : (desk.run events).simulator.interval = desk.simulator.interval :=
    congrArg (·.2.2) (desk.setUp_run events)
  rw [patience, hinterval, patience]

theorem idleTime_run {events : List Event}
    (hticks : (desk.run events).simulator.ticks = desk.simulator.ticks) :
    (desk.run events).idleTime uptime now = desk.idleTime uptime now := by
  rw [idleTime, lastTickAt_run hticks, idleTime]

/-- A desk that is late stays late while it counts no pass. -/
theorem IsLate.of_ticks_eq (h : desk.IsLate uptime now) {events : List Event}
    (hticks : (desk.run events).simulator.ticks = desk.simulator.ticks) (hup : uptime ≤ uptime')
    (hle : now.le now' = true) (hnow : desk.NoLeapSecond now) (hnow' : desk.NoLeapSecond now') :
    (desk.run events).IsLate uptime' now' := by
  rw [IsLate, patience_run, idleTime_run hticks]
  exact Nat.lt_of_lt_of_le h (wholeSeconds_mono (idleTime_mono hup hle hnow hnow'))

/-- A desk is not late at the time of its last pass. -/
theorem not_isLate_of_lastTickAt (h : desk.simulator.lastTickAt = some now) :
    ¬ desk.IsLate uptime now := by
  simp [IsLate, idleTime, h, wholeSeconds]

end Desk

/-! ## The verdict -/

namespace HealthReport

theorem status_ofDesk (desk : Desk) (version : String) (uptime : Nanos) (now : Instant) :
    (ofDesk desk version uptime now).status =
      if desk.simulator.isRunning = false then .unhealthy
      else if desk.IsLate uptime now then .degraded
      else .healthy := by
  have hverdict : (ofDesk desk version uptime now).status =
      verdict (ofDesk desk version uptime now).simulator (uptime / nanosPerSecond) now := rfl
  have hidle : idleSecs (ofDesk desk version uptime now).simulator (uptime / nanosPerSecond) now =
      wholeSeconds (desk.idleTime uptime now) := by
    simp only [idleSecs, ofDesk, Desk.idleTime]
    cases desk.simulator.lastTickAt with
    | none => exact (wholeSeconds_natCast uptime).symm
    | some at_ => exact secondsSince_eq now at_
  rw [hverdict, verdict, hidle]
  simp only [ofDesk, staleIntervals, Desk.IsLate, Desk.patience, Bool.not_eq_true', Nat.mul_comm]
  rfl

/-- How a desk is judged at some time, after it has been up for a while. -/
structure Judged (desk : Desk) (version : String) (uptime : Nanos) (now : Instant) : Prop where
  unhealthy_iff : (ofDesk desk version uptime now).status = .unhealthy ↔
    desk.simulator.isRunning = false
  degraded_iff : (ofDesk desk version uptime now).status = .degraded ↔
    desk.simulator.isRunning = true ∧
      min (3 * (desk.simulator.interval / nanosPerSecond)) maxSecs <
        wholeSeconds (desk.idleTime uptime now)
  /-- There is no false alarm: a simulator that runs, and that passed or started within an interval,
  is in time. The seconds of an interval are told apart up to `maxSecs`, as all seconds are. -/
  recent : desk.simulator.isRunning = true →
    desk.simulator.interval / nanosPerSecond ≤ maxSecs →
    desk.idleTime uptime now ≤ desk.simulator.interval →
    (ofDesk desk version uptime now).status = .healthy
  /-- Whatever happens, a desk that is late stays late while its simulator runs and counts no pass,
  as long as no leap second plays a part. -/
  stays : (ofDesk desk version uptime now).status = .degraded → ∀ events uptime' now',
    (desk.run events).simulator.isRunning = true →
    (desk.run events).simulator.ticks = desk.simulator.ticks →
    uptime ≤ uptime' → now.le now' = true → desk.NoLeapSecond now → desk.NoLeapSecond now' →
    (ofDesk (desk.run events) version uptime' now').status = .degraded
  /-- A pass on request makes up for any delay. -/
  passed : desk.simulator.isRunning = true → ∀ policy,
    (ofDesk (desk.pass policy now).2 version uptime now).status = .healthy
  /-- So does a pass of a loop of the simulator. -/
  passedInLoop : desk.simulator.isRunning = true → ∀ k policy clock,
    (desk.simulatorTurn k policy clock now).1.isPass = true →
    (ofDesk (desk.simulatorTurn k policy clock now).2 version uptime now).status = .healthy
  /-- The page on the health of the desk is answered as unavailable exactly when the page is that
  says whether it is ready. -/
  unavailable_iff : ∀ method,
    (Page.answer desk (ofDesk desk version uptime now) method "/health").status = 503 ↔
      (Page.answer desk (ofDesk desk version uptime now) method "/readyz").status = 503

theorem status_eq_healthy {desk : Desk} {version : String} {uptime : Nanos} {now : Instant}
    (hrunning : desk.simulator.isRunning = true) (hlate : ¬ desk.IsLate uptime now) :
    (ofDesk desk version uptime now).status = .healthy := by
  rw [status_ofDesk, if_neg (by simp [hrunning]), if_neg hlate]

theorem status_eq_unhealthy_iff {desk : Desk} {version : String} {uptime : Nanos} {now : Instant} :
    (ofDesk desk version uptime now).status = .unhealthy ↔ desk.simulator.isRunning = false := by
  rw [status_ofDesk]
  split
  · simp_all
  · split <;> simp_all

theorem status_eq_degraded_iff {desk : Desk} {version : String} {uptime : Nanos} {now : Instant} :
    (ofDesk desk version uptime now).status = .degraded ↔
      desk.simulator.isRunning = true ∧ desk.IsLate uptime now := by
  rw [status_ofDesk]
  split
  · simp_all
  · split <;> simp_all

end HealthReport

namespace Page

variable (desk : Desk) (report : HealthReport) (method : String)

/-- A page is answered under its own status, if the method is one to read it with. -/
theorem status_answer {uri : Uri} {target : String} {page : Page}
    (huri : Uri.parse target = .ok uri)
    (hpage : at? desk report (String.ofList uri.pagePath) = some page) :
    (answer desk report method target).status =
      if method = "GET" ∨ method = "HEAD" then page.status else 405 := by
  rw [answer, huri]
  dsimp only
  rw [hpage]
  by_cases hget : method = "GET"
  · simp [hget]
  · by_cases hhead : method = "HEAD"
    · simp [hhead]
    · simp [hget, hhead, bare]

theorem status_health : (answer desk report method "/health").status =
    if method = "GET" ∨ method = "HEAD" then healthCode report.status else 405 := by
  have huri : Uri.parse "/health" = .ok ⟨none, [], "/health".toList⟩ := rfl
  exact status_answer desk report method huri rfl

theorem status_readyz : (answer desk report method "/readyz").status =
    if method = "GET" ∨ method = "HEAD" then (readiness desk.simulator.isRunning).status
    else 405 := by
  have huri : Uri.parse "/readyz" = .ok ⟨none, [], "/readyz".toList⟩ := rfl
  exact status_answer desk report method huri rfl

theorem healthCode_eq_iff {status : HealthStatus} :
    healthCode status = 503 ↔ status = .unhealthy := by
  cases status <;> simp [healthCode]

theorem status_readiness_eq_iff {running : Bool} :
    (readiness running).status = 503 ↔ running = false := by
  cases running <;> simp [readiness, plain]

end Page

namespace HealthReport

/-- **The verdict on a desk.** A desk is unhealthy exactly when its simulator does not run, and else
degraded exactly when it has been idle for more than three intervals. A desk that passes once an
interval raises no alarm, a late one is late until it passes, and healthy when it has passed. Its
health is unavailable exactly when it is not ready. -/
theorem desk_judged (desk : Desk) (version : String) (uptime : Nanos) (now : Instant) :
    Judged desk version uptime now where
  unhealthy_iff := status_eq_unhealthy_iff
  degraded_iff := status_eq_degraded_iff
  recent hrunning hinterval hidle :=
    status_eq_healthy hrunning (Desk.not_isLate_of_recent hinterval hidle)
  stays hdegraded events uptime' now' hrunning hticks hup hle hnow hnow' := by
    obtain ⟨-, hlate⟩ := status_eq_degraded_iff.1 hdegraded
    exact status_eq_degraded_iff.2 ⟨hrunning, hlate.of_ticks_eq hticks hup hle hnow hnow'⟩
  passed hrunning policy := status_eq_healthy hrunning (Desk.not_isLate_of_lastTickAt rfl)
  passedInLoop hrunning k policy clock hpass := by
    obtain ⟨due, hturn⟩ := Desk.simulatorTurn_of_isPass hpass
    refine status_eq_healthy ?_ (Desk.not_isLate_of_lastTickAt (by rw [hturn]; rfl))
    rw [hturn]
    exact hrunning
  unavailable_iff method := by
    rw [Page.status_health, Page.status_readyz]
    split
    · rw [Page.healthCode_eq_iff, Page.status_readiness_eq_iff, status_eq_unhealthy_iff]
    · rfl

/-- A desk with one pass, whose interval is almost eight hours. -/
def passedOnce : Desk :=
  (Desk.make 10 1 (28786 * nanosPerSecond)).run
    [.startSimulator 0, .pass (fun _ => .fill) ⟨100, 500000000, by decide⟩]

/-- A desk that is late by the last nanosecond before a leap second is not late any more in the leap
second itself, which comes a day after its last pass but earlier in the day. -/
theorem not_late_in_leapSecond :
    let before : Instant := ⟨86459, 999999999, by decide⟩
    let leap : Instant := ⟨86459, 1000000000, by decide⟩
    passedOnce.simulator.isRunning = true ∧ before.le leap = true ∧
      (ofDesk passedOnce "0.1.0" 0 before).status = .degraded ∧
      (ofDesk passedOnce "0.1.0" 0 leap).status = .healthy := by
  decide

end HealthReport

end OrderDesk
