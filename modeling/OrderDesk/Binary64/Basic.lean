/-!
# Double-precision numbers

Doubles as exact values: not a number, an infinity, or a signed whole number of units in the last
place. Every operation computes exactly in natural numbers and rounds once, to the nearest double
and to the even one on a tie, so its laws are laws of `Nat`.
-/

namespace OrderDesk

/-- A double. A finite one is `± mantissa · 2 ^ exponent`, with `mantissa < 2 ^ 53` and the least
exponent that allows it. -/
inductive Binary64 where
  | nan
  | infinite (negative : Bool)
  | finite (negative : Bool) (mantissa : Nat) (exponent : Int)
  deriving DecidableEq, Repr

namespace Binary64

/-- The exponent of the smallest unit in the last place. -/
def minExponent : Int := -1074

/-- The exponent of the largest unit in the last place. -/
def maxExponent : Int := 971

/-- The least mantissa of 53 binary digits. -/
def leastNormal : Nat := 0x10000000000000

/-! ## Rounding -/

/-- The whole number nearest to `num / den`, the even one on a tie. -/
def roundHalfEven (num den : Nat) : Nat :=
  let q := num / den
  let r := num % den
  if 2 * r < den then q else if den < 2 * r then q + 1 else q + q % 2

/-- The exponent of the unit in the last place of `num / den`: the one that makes it a number of 53
binary digits, or the smallest there is. -/
def lastPlace (num den : Nat) : Int :=
  let guess : Int := (num.log2 : Int) - (den.log2 : Int) - 52
  let place :=
    if num <<< (-guess).toNat < leastNormal * den <<< guess.toNat then guess - 1 else guess
  max place minExponent

/-- A mantissa of at most `2 ^ 53` and its exponent as a double; too large ones are infinite. -/
def pack (negative : Bool) (mantissa : Nat) (exponent : Int) : Binary64 :=
  let carried := mantissa = 2 * leastNormal
  let m := if carried then leastNormal else mantissa
  let e := if carried then exponent + 1 else exponent
  if maxExponent < e then .infinite negative else .finite negative m e

def ofRatio (negative : Bool) (num den : Nat) : Binary64 :=
  if num = 0 then .finite negative 0 minExponent
  else
    let e := lastPlace num den
    pack negative (roundHalfEven (num <<< (-e).toNat) (den <<< e.toNat)) e

def ofScaled (negative : Bool) (n : Nat) (e : Int) : Binary64 :=
  ofRatio negative (n <<< e.toNat) (1 <<< (-e).toNat)

/-- The double nearest to a natural number. -/
def ofNat (n : Nat) : Binary64 :=
  ofRatio false n 1

def zero : Binary64 := .finite false 0 minExponent
def one : Binary64 := ofNat 1
def half : Binary64 := ofRatio false 1 2

/-! ## Arithmetic and order -/

def isNegative : Binary64 → Bool
  | .nan => false
  | .infinite s => s
  | .finite s _ _ => s

/-- Whether a double is a number, and not an infinity. -/
def isFinite : Binary64 → Bool
  | .finite .. => true
  | _ => false

/-- `± mantissa` in units of `2 ^ unit`, for an exponent of at least `unit`. -/
def inUnits (negative : Bool) (mantissa : Nat) (exponent unit : Int) : Int :=
  let n : Int := (mantissa <<< (exponent - unit).toNat : Nat)
  if negative then -n else n

def mul : Binary64 → Binary64 → Binary64
  | .nan, _ => .nan
  | _, .nan => .nan
  | .infinite s, .infinite t => .infinite (s != t)
  | .infinite s, .finite t m _ => if m = 0 then .nan else .infinite (s != t)
  | .finite s m _, .infinite t => if m = 0 then .nan else .infinite (s != t)
  | .finite s m e, .finite t n f => ofScaled (s != t) (m * n) (e + f)

/-- The sum, rounded once. Opposite numbers give `+0`. -/
def add : Binary64 → Binary64 → Binary64
  | .nan, _ => .nan
  | _, .nan => .nan
  | .infinite s, .infinite t => if s = t then .infinite s else .nan
  | .infinite s, .finite .. => .infinite s
  | .finite .., .infinite t => .infinite t
  | .finite s m e, .finite t n f =>
    let unit := min e f
    let sum := inUnits s m e unit + inUnits t n f unit
    if sum = 0 then .finite (s && t) 0 minExponent
    else ofScaled (decide (sum < 0)) sum.natAbs unit

/-- The numeric order; false when either side is not a number. -/
def le : Binary64 → Binary64 → Bool
  | .nan, _ => false
  | _, .nan => false
  | .infinite s, .infinite t => s || !t
  | .infinite s, .finite .. => s
  | .finite .., .infinite t => !t
  | .finite s m e, .finite t n f =>
    decide (inUnits s m e (min e f) ≤ inUnits t n f (min e f))

def lt (a b : Binary64) : Bool :=
  a.le b && !b.le a

/-- The greater of two; a number wins over `nan`. -/
def max (a b : Binary64) : Binary64 :=
  match a, b with
  | .nan, b => b
  | a, .nan => a
  | a, b => if b.le a then a else b

/-- The nearest point of `[lo, hi]`; a number inside it, and `nan`, stay as they are. -/
def clamp (a lo hi : Binary64) : Binary64 :=
  if a.lt lo then lo else if hi.lt a then hi else a

/-! ## Whole numbers -/

/-- The natural number nearest to a positive finite number, halves going up; zero for any other. -/
def roundNat : Binary64 → Nat
  | .finite false m e => (2 * m <<< e.toNat + 1 <<< (-e).toNat) / 2 <<< (-e).toNat
  | _ => 0

/-- The whole part, cut to `[0, limit]`; zero for `nan`. -/
def truncNat (limit : Nat) : Binary64 → Nat
  | .infinite false => limit
  | .finite false m e => min (m <<< e.toNat >>> (-e).toNat) limit
  | _ => 0

/-! ## The interchange format -/

def signBit : Nat := 0x8000000000000000

def toBits : Binary64 → Nat
  | .nan => 0x7FF8000000000000
  | .infinite s => (if s then signBit else 0) + 2047 * leastNormal
  | .finite s m e =>
    (if s then signBit else 0) +
      if m < leastNormal then m else (e - minExponent).toNat * leastNormal + m

end Binary64

end OrderDesk
