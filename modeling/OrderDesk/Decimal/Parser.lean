import OrderDesk.Decimal.Basic

/-!
# Reading decimals

A decimal text is an optional sign and digits with at most one point among them; after the first
digit an underscore may stand anywhere. Fraction digits that no longer fit are rounded away: the
first of them decides, and the rest only has to consist of digits and underscores. A text that is no
such decimal may still be one with an exponent.
-/

namespace OrderDesk.Decimal

open OrderDesk.Text

/-- How far a text has been read. -/
structure Scan where
  mantissa : Nat := 0
  scale : Nat := 0
  pointSeen : Bool := false
  digitSeen : Bool := false
  /-- Whether the mantissa has outgrown the first, 64-bit accumulator. -/
  wide : Bool := false
  deriving DecidableEq, Repr

/-- From this mantissa on another digit might not fit 64 bits. -/
def wideFrom : Nat := 0xFFFFFFFFFFFFFFFF / 10 - 255

namespace Scan

/-- Whether one more digit fits the mantissa and, behind the point, the scale. -/
def fits (s : Scan) (digit : Nat) : Bool :=
  decide (s.mantissa * 10 + digit < mantissaLimit) && (!s.pointSeen || decide (s.scale < 28))

/-- Appends a digit. The accumulator widens only where the number may still go on. -/
def push (s : Scan) (digit : Nat) : Scan :=
  let mantissa := s.mantissa * 10 + digit
  let scale := if s.pointSeen then s.scale + 1 else s.scale
  { mantissa, scale
    pointSeen := s.pointSeen
    digitSeen := true
    wide := s.wide || (decide (wideFrom ≤ mantissa) && !(s.pointSeen && decide (28 ≤ scale))) }

/-- Rounds on the first digit that does not fit. A mantissa that overflows by it gives up a digit of
its scale. -/
def roundOn (s : Scan) (digit : Nat) : Option (Nat × Nat) :=
  if digit < 5 then some (s.mantissa, s.scale)
  else if s.mantissa + 1 < mantissaLimit then some (s.mantissa + 1, s.scale)
  else if s.scale = 0 then none
  else some ((s.mantissa + 1 + 4) / 10, s.scale - 1)

end Scan

/-- What may follow a digit that did not fit. -/
def isDropped (c : Char) : Bool :=
  isDigit c || c == '_'

/-- Reads the digits after the sign, to a mantissa and a scale. -/
def scan (s : Scan) : List Char → Option (Nat × Nat)
  | [] => if s.digitSeen then some (s.mantissa, s.scale) else none
  | c :: rest =>
    if isDigit c then
      if s.fits (digitValue c) then scan (s.push (digitValue c)) rest
      else if s.pointSeen && rest.all isDropped then s.roundOn (digitValue c)
      else none
    else if c = '.' then
      if s.pointSeen then none else scan { s with pointSeen := true } rest
    else if c = '_' then
      if !s.digitSeen then none
      else if s.pointSeen && !s.wide && decide (28 ≤ s.scale) then
        if rest.all isDropped then some (s.mantissa, s.scale) else none
      else scan s rest
    else none

/-- A decimal without exponent. A zero has no sign. -/
def plain? (cs : List Char) : Option Decimal :=
  let (negative, digits) := match cs with
    | '-' :: rest => (true, rest)
    | '+' :: rest => (false, rest)
    | _ => (false, cs)
  match scan {} digits with
  | none => none
  | some (m, s) => ofParts? (negative && m != 0) m s

/-- Divides by `10 ^ places`, halves going away from zero. -/
def roundOff (n places : Nat) : Nat :=
  match places with
  | 0 => n
  | k + 1 => (n + 5 * Nat.pow 10 k) / Nat.pow 10 (k + 1)

/-- Divides by `10 ^ exponent`: the scale grows, and where it cannot, digits are rounded off. -/
def scaleDown (d : Decimal) (exponent : Nat) : Option Decimal :=
  if 28 < exponent then none
  else if d.scale + exponent ≤ 28 then ofParts? d.negative d.mantissa (d.scale + exponent)
  else ofParts? d.negative (roundOff d.mantissa (d.scale - (28 - exponent))) 28

/-- Multiplies by `10 ^ exponent`: the scale shrinks, and behind it the mantissa grows. -/
def scaleUp (d : Decimal) (exponent : Nat) : Option Decimal :=
  if exponent ≤ d.scale then ofParts? d.negative d.mantissa (d.scale - exponent)
  else if 28 < exponent then none
  else ofParts? d.negative (d.mantissa * Nat.pow 10 (exponent - d.scale)) 0

/-- A decimal with an exponent, split at the first `e` or `E`. -/
def scientific? (cs : List Char) : Option Decimal :=
  let isMark (c : Char) : Bool := c == 'e' || c == 'E'
  match cs.dropWhile (fun c => !isMark c) with
  | [] => none
  | _ :: exponent =>
    (plain? (cs.takeWhile fun c => !isMark c)).bind fun base =>
      match exponent with
      | '-' :: digits => (natBelow? 4294967296 digits).bind base.scaleDown
      | _ => (natBelow? 4294967296 exponent).bind base.scaleUp

def parse? (cs : List Char) : Option Decimal :=
  match plain? cs with
  | some d => some d
  | none => scientific? cs

def ofText? (s : String) : Option Decimal :=
  parse? s.toList

end OrderDesk.Decimal
