import OrderDesk.Time.Calendar

/-!
# Instants

A moment of universal time to the nanosecond. Nanoseconds from `10 ^ 9` on stand for a leap second,
which can only follow the last second of a minute.
-/

namespace OrderDesk

/-- Nanoseconds, the unit of every span of time. -/
abbrev Nanos := Nat

def nanosPerMilli : Nanos := 1000000

def nanosPerSecond : Nanos := 1000000000

/-- The last second of a clock that measures spans of time. -/
def lastSecond : Nat := 0x7FFFFFFFFFFFFFFF

/-- Whether the clock reaches a time. -/
def OnClock (time : Nanos) : Prop :=
  time / nanosPerSecond ≤ lastSecond

instance (time : Nanos) : Decidable (OnClock time) :=
  inferInstanceAs (Decidable (_ ≤ _))

namespace Instant

def minSeconds : Int := -8334601228800

def maxSeconds : Int := 8210266876799

/-- What makes seconds since 1970 and nanoseconds an instant. -/
def Valid (seconds : Int) (nanos : Nat) : Prop :=
  minSeconds ≤ seconds ∧ seconds ≤ maxSeconds ∧ nanos < 2000000000 ∧
    (nanos < 1000000000 ∨ seconds % 60 = 59)

instance (seconds : Int) (nanos : Nat) : Decidable (Valid seconds nanos) := by
  unfold Valid; infer_instance

end Instant

/-- A moment of universal time. -/
structure Instant where
  seconds : Int
  nanos : Nat
  valid : Instant.Valid seconds nanos
  deriving DecidableEq, Repr

namespace Instant

/-- The instant so many seconds and nanoseconds after 1970 began, if there is one. -/
def ofUnix? (seconds : Int) (nanos : Nat) : Option Instant :=
  if h : Valid seconds nanos then some ⟨seconds, nanos, h⟩ else none

def epoch : Instant := ⟨0, 0, by decide⟩

instance : Inhabited Instant := ⟨epoch⟩

/-- The instant so many milliseconds after 1970 began, if there is one. -/
def ofUnixMillis? (millis : Int) : Option Instant :=
  ofUnix? (millis / 1000) ((millis % 1000).toNat * 1000000)

/-- The order of time: a leap second lies between the seconds around it. -/
def le (a b : Instant) : Bool :=
  decide (a.seconds < b.seconds) || (a.seconds == b.seconds && decide (a.nanos ≤ b.nanos))

/-- Whether the instant lies inside a leap second. -/
def isLeap (i : Instant) : Bool :=
  decide (1000000000 ≤ i.nanos)

/-- Nanoseconds from `b` to `a`, negative when `a` comes first. A leap second is a second of its
own for the later times of its day. -/
def since (a b : Instant) : Int :=
  let ofDay (i : Instant) : Int := i.seconds % 86400
  let leap : Int :=
    if ofDay b < ofDay a then (if b.isLeap then 1 else 0)
    else if ofDay a < ofDay b then (if a.isLeap then -1 else 0)
    else 0
  (a.seconds - b.seconds + leap) * 1000000000 + ((a.nanos : Int) - (b.nanos : Int))

theorem ofUnix?_eq_some {s : Int} {n : Nat} (h : Valid s n) : ofUnix? s n = some ⟨s, n, h⟩ := by
  simp [ofUnix?, h]

end Instant

end OrderDesk
