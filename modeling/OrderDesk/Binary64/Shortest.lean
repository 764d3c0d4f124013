import OrderDesk.Binary64.Basic
import OrderDesk.Text.Digits

/-!
# The shortest text of a double

The fewest decimal digits that read back as the same double, the nearest such digits to it, and the
larger of two equally near. They are always written out in full, never with an exponent.
-/

namespace OrderDesk.Binary64

open OrderDesk.Text

/-- The numbers that round to one double, as fractions over a common denominator. -/
structure Interval where
  value : Nat
  low : Nat
  high : Nat
  den : Nat
  closed : Bool

/-- The interval of `m · 2 ^ e`. Below a power of two the doubles lie twice as close. Its ends
belong to it when `m` is even. -/
def interval (m : Nat) (e : Int) : Interval :=
  let below := if m = leastNormal ∧ minExponent < e then 1 else 2
  { value := (4 * m) <<< e.toNat
    low := (4 * m - below) <<< e.toNat
    high := (4 * m + 2) <<< e.toNat
    den := 4 <<< (-e).toNat
    closed := m % 2 = 0 }

/-- Whether `num / den`, with the denominator of the interval times `factor`, lies inside. -/
def Interval.contains (i : Interval) (num factor : Nat) : Bool :=
  if i.closed then decide (i.low * factor ≤ num) && decide (num ≤ i.high * factor)
  else decide (i.low * factor < num) && decide (num < i.high * factor)

/-- How many zeros follow the point before the first digit of `num / den < 1`. -/
def leadingZeros (num den : Nat) : Nat → Nat
  | 0 => 0
  | fuel + 1 => if den ≤ num * 10 then 0 else leadingZeros (num * 10) den fuel + 1

/-- How many digits `num / den` has before the point; negative counts zeros behind it. -/
def magnitude (num den : Nat) : Int :=
  if den ≤ num then ((decimal (num / den)).length : Int) else -(leadingZeros num den 400 : Int)

/-- The digits `D` and the exponent `s` of the shortest `D · 10 ^ s` inside the interval, trying
`count` digits and then more. The two neighbours of the value on a decimal grid decide whether the
grid has a point inside. -/
def shortestFrom (i : Interval) (magnitude : Int) (count : Nat) : Nat → Nat × Int
  | 0 => (0, 0)
  | fuel + 1 =>
    let s := magnitude - (count : Int)
    let up := Nat.pow 10 (-s).toNat
    let down := Nat.pow 10 s.toNat
    let floor := i.value * up / (i.den * down)
    -- a point `d · 10 ^ s` of the grid, over the denominator `den · up`
    let point (d : Nat) := d * i.den * down
    let lower := i.contains (point floor) up
    let upper := i.contains (point (floor + 1)) up
    let rise := point (floor + 1) - i.value * up
    let fall := i.value * up - point floor
    if lower && upper then (if rise ≤ fall then floor + 1 else floor, s)
    else if lower then (floor, s)
    else if upper then (floor + 1, s)
    else shortestFrom i magnitude (count + 1) fuel

/-- Writes `digits · 10 ^ s` without an exponent and without trailing zeros behind the point. -/
def positional (digits : List Char) (s : Int) : List Char :=
  let kept := (digits.reverse.dropWhile (· == '0')).reverse
  let s := s + ((digits.length - kept.length : Nat) : Int)
  if 0 ≤ s then kept ++ List.replicate s.toNat '0'
  else
    let places := (-s).toNat
    if places < kept.length then
      kept.take (kept.length - places) ++ '.' :: kept.drop (kept.length - places)
    else ['0', '.'] ++ List.replicate (places - kept.length) '0' ++ kept

def toText : Binary64 → String
  | .nan => "NaN"
  | .infinite s => if s then "-inf" else "inf"
  | .finite s m e =>
    let sign := if s then ['-'] else []
    if m = 0 then String.ofList (sign ++ ['0'])
    else
      let i := interval m e
      let (digits, exponent) := shortestFrom i (magnitude i.value i.den) 1 17
      String.ofList (sign ++ positional (decimal digits) exponent)

end OrderDesk.Binary64
