import OrderDesk.Time.Instant
import OrderDesk.Wire.Encoding

/-!
# Times in messages

A time is sent as seconds since 1970 and nanoseconds. What is received may be any pair of a 64-bit
and a 32-bit number; it is a time only if it names an instant.
-/

namespace OrderDesk

/-- A time in a message: 64-bit seconds and 32-bit nanoseconds. -/
structure WireTime where
  seconds : Int
  nanos : Int
  deriving DecidableEq, Repr, Inhabited

namespace WireTime

/-- The instant that a received time names, if any. -/
def toInstant? (t : WireTime) : Option Instant :=
  if t.nanos < 0 then none else Instant.ofUnix? t.seconds t.nanos.toNat

/-- The nanoseconds that are too many for a signed number of 32 bits. -/
def nanosLimit : Nat := 0x80000000

/-- An instant as it is sent. Nanoseconds that would not fit are sent as none. -/
def ofInstant (i : Instant) : WireTime :=
  ⟨i.seconds, if i.nanos < nanosLimit then i.nanos else 0⟩

def encode (t : WireTime) : List UInt8 :=
  Wire.integerField 1 t.seconds ++ Wire.integerField 2 t.nanos

/-- The nanoseconds of an instant always fit, those of a leap second included. -/
theorem nanos_ofInstant (i : Instant) : (ofInstant i).nanos = i.nanos := by
  have hnanos : i.nanos < nanosLimit := Nat.lt_trans i.valid.2.2.1 (by decide)
  rw [ofInstant, if_pos hnanos]

theorem toInstant?_ofInstant (i : Instant) : (ofInstant i).toInstant? = some i := by
  have hnanos : ¬ ((i.nanos : Int) < 0) := by omega
  rw [toInstant?, nanos_ofInstant, if_neg hnanos]
  exact Instant.ofUnix?_eq_some i.valid

end WireTime

end OrderDesk
