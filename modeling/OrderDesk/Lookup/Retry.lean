import OrderDesk.Binary64.Basic
import OrderDesk.Time.Instant

/-!
# Retrying with growing delays

How long to wait before a failed call is repeated, and how often. The delay grows by a factor up to
a limit. What is waited may be jittered, but the jitter never enters the next delay. A series breaks
off when it comes to a delay with a random part that there is no range to draw from.
-/

namespace OrderDesk

/-- Delays and their number. -/
structure RetryConfig where
  initialDelay : Nanos
  maxDelay : Nanos
  multiplier : Binary64
  jitterFactor : Binary64
  maxRetries : Nat
  deriving DecidableEq, Repr

namespace RetryConfig

/-- Two retries, after 100 ms and then twice as long, within a tenth. -/
def standard : RetryConfig :=
  { initialDelay := 100 * nanosPerMilli
    maxDelay := 2 * nanosPerSecond
    multiplier := Binary64.ofNat 2
    jitterFactor := Binary64.ofRatio false 1 10
    maxRetries := 2 }

/-- No retries at all. -/
def never : RetryConfig :=
  { standard with maxRetries := 0 }

end RetryConfig

/-- How far a series of attempts has come. -/
structure Retry where
  config : RetryConfig
  /-- The delay before the next attempt, without jitter. -/
  delay : Nanos
  retries : Nat
  deriving DecidableEq, Repr

/-- What comes of asking for the next delay. -/
inductive RetryAnswer where
  /-- To wait for so long. -/
  | delay (d : Nanos)
  /-- There are no retries left. -/
  | spent
  /-- There is nothing to draw the delay from, and the series breaks off. -/
  | broken
  deriving DecidableEq, Repr

namespace Retry

/-- Before the first failure. -/
def start (config : RetryConfig) : Retry :=
  ⟨config, config.initialDelay, 0⟩

/-- The attempts so far, the one under way included. -/
def attempts (r : Retry) : Nat :=
  r.retries + 1

/-! ## Jitter -/

/-- A range around zero, given by its end, that can be drawn from: it is not empty, and it has a
width. -/
structure Drawable (range : Binary64) : Prop where
  nonneg : Binary64.zero.le range = true
  width : (range.add range).isFinite = true

instance (range : Binary64) : Decidable (Drawable range) :=
  decidable_of_iff (Binary64.zero.le range = true ∧ (range.add range).isFinite = true)
    ⟨fun h => ⟨h.1, h.2⟩, fun h => ⟨h.nonneg, h.width⟩⟩

/-- The end of the range around zero from which the random part of a delay is drawn. -/
def jitterRange (r : Retry) : Binary64 :=
  (Binary64.ofNat (r.delay / nanosPerMilli)).mul r.config.jitterFactor

/-- Whether the next delay can be told: it has no random part, or there is a range to draw it
from. -/
def CanDraw (r : Retry) : Prop :=
  r.config.jitterFactor.le .zero = true ∨ Drawable r.jitterRange

instance (r : Retry) : Decidable r.CanDraw :=
  inferInstanceAs (Decidable (_ ∨ _))

/-- The largest number of milliseconds that a delay can hold. -/
def maxMillis : Nat := 0xFFFFFFFFFFFFFFFF

/-- A delay with its random part, which `draw` takes from the range: whole milliseconds, at least
one. Without a jitter factor above zero the delay stays as it is. -/
def jittered (r : Retry) (draw : Binary64 → Binary64) : Nanos :=
  if r.config.jitterFactor.le .zero then r.delay
  else
    let base := Binary64.ofNat (r.delay / nanosPerMilli)
    ((base.add (draw r.jitterRange)).max .one).truncNat maxMillis * nanosPerMilli

/-! ## The next delay -/

/-- The delay after this one: its whole milliseconds times the factor, up to the limit. -/
def nextDelay (r : Retry) : Nanos :=
  let grown := ((Binary64.ofNat (r.delay / nanosPerMilli)).mul r.config.multiplier).roundNat
  min (min grown (r.config.maxDelay / nanosPerMilli)) maxMillis * nanosPerMilli

/-- How far a series has come with one more attempt. -/
def advance (r : Retry) : Retry :=
  { r with retries := r.retries + 1, delay := r.nextDelay }

/-- How long to wait before the next attempt, if there is to be one. A series that breaks off has
counted the attempt already. -/
def next (r : Retry) (draw : Binary64 → Binary64) : RetryAnswer × Retry :=
  if r.config.maxRetries ≤ r.retries then (.spent, r)
  else if r.CanDraw then (.delay (min (r.jittered draw) r.config.maxDelay), r.advance)
  else (.broken, { r with retries := r.retries + 1 })

@[simp] theorem config_advance (r : Retry) : r.advance.config = r.config := rfl

@[simp] theorem retries_advance (r : Retry) : r.advance.retries = r.retries + 1 := rfl

@[simp] theorem config_next (r : Retry) (draw : Binary64 → Binary64) :
    (r.next draw).2.config = r.config := by
  unfold next
  split
  · rfl
  · split <;> rfl

end Retry

end OrderDesk
