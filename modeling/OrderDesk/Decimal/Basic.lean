import OrderDesk.Text.Digits

/-!
# Decimal prices

A price is a sign, a mantissa of 96 bits and a scale: the number of digits behind the point, at most
28. The scale is part of the value, so `1.50` and `1.5` are different decimals of the same number.
-/

namespace OrderDesk

/-- A mantissa has 96 bits. -/
def Decimal.mantissaLimit : Nat := 0x1000000000000000000000000

/-- `± mantissa / 10 ^ scale`. -/
structure Decimal where
  negative : Bool
  mantissa : Nat
  scale : Nat
  mantissa_lt : mantissa < Decimal.mantissaLimit := by decide
  scale_le : scale ≤ 28 := by decide
  deriving DecidableEq, Repr

namespace Decimal

open OrderDesk.Text

def maxMantissa : Nat := mantissaLimit - 1

/-- The most digits behind the point. -/
def maxScale : Nat := 28

/-- A decimal from its parts, if they are in range. -/
def ofParts? (negative : Bool) (mantissa scale : Nat) : Option Decimal :=
  if h : mantissa < mantissaLimit ∧ scale ≤ 28 then some ⟨negative, mantissa, scale, h.1, h.2⟩
  else none

/-- A whole number with 96 bits as a decimal without fraction; larger ones are cut down. -/
def ofNat (n : Nat) : Decimal :=
  ⟨false, min n maxMantissa, 0, by simp only [maxMantissa, mantissaLimit]; omega, by decide⟩

instance : Inhabited Decimal := ⟨ofNat 0⟩

def isPositive (d : Decimal) : Bool :=
  d.mantissa != 0 && !d.negative

/-- Whether the number is below zero; a zero with a sign is not. -/
def isNegative (d : Decimal) : Bool :=
  d.mantissa != 0 && d.negative

/-- The number in units of `10 ^ -28`, the smallest step of any scale. -/
def inSmallestUnits (d : Decimal) : Int :=
  let n : Int := (d.mantissa * Nat.pow 10 (maxScale - d.scale) : Nat)
  if d.negative then -n else n

/-- The printed form: exactly `scale` digits behind the point, at least one in front of it. -/
def render (d : Decimal) : List Char :=
  let digits := padded (d.scale + 1) d.mantissa
  let whole := digits.take (digits.length - d.scale)
  let fraction := digits.drop (digits.length - d.scale)
  (if d.negative then ['-'] else []) ++ whole ++
    (if d.scale = 0 then [] else '.' :: fraction)

def toText (d : Decimal) : String :=
  String.ofList d.render

theorem ofParts?_eq_some {negative : Bool} {m s : Nat} (hm : m < mantissaLimit) (hs : s ≤ 28) :
    ofParts? negative m s = some ⟨negative, m, s, hm, hs⟩ :=
  dif_pos ⟨hm, hs⟩

end Decimal

end OrderDesk
