import OrderDesk.Binary64.Basic
import OrderDesk.Text.Digits

/-!
# Reading doubles

The text of a double: an optional sign, then `inf`, `infinity` or `nan` in any case, or decimal
digits with an optional point on either side of them and an optional exponent. The value is the
double nearest to the number the text denotes.
-/

namespace OrderDesk.Binary64

open OrderDesk.Text

/-- The double nearest to `± m · 10 ^ e`, where `m` has `digits` digits. Far outside the range of
doubles the power is not computed. -/
def ofDecimal (negative : Bool) (m digits : Nat) (e : Int) : Binary64 :=
  if m = 0 then .finite negative 0 minExponent
  else if 400 < (digits : Int) + e then .infinite negative
  else if (digits : Int) + e < -400 then .finite negative 0 minExponent
  else ofRatio negative (m * Nat.pow 10 e.toNat) (Nat.pow 10 (-e).toNat)

/-- An exponent: an optional sign and at least one digit. -/
def exponent? (cs : List Char) : Option Int :=
  let digits? (cs : List Char) : Option Int :=
    if cs.isEmpty || !cs.all isDigit then none else some (digitsValue 0 cs)
  match cs with
  | '-' :: rest => (digits? rest).map (- ·)
  | '+' :: rest => digits? rest
  | _ => digits? cs

def magnitude? (negative : Bool) (cs : List Char) : Option Binary64 :=
  let whole := cs.takeWhile isDigit
  let afterWhole := cs.dropWhile isDigit
  let (fraction, rest) := match afterWhole with
    | '.' :: more => (more.takeWhile isDigit, more.dropWhile isDigit)
    | _ => ([], afterWhole)
  let digits := whole ++ fraction
  if digits.isEmpty then none
  else
    let exponent := match rest with
      | [] => some 0
      | 'e' :: more => exponent? more
      | 'E' :: more => exponent? more
      | _ => none
    exponent.map fun e =>
      let significant := digits.dropWhile (· == '0')
      ofDecimal negative (digitsValue 0 significant) significant.length (e - fraction.length)

/-- ASCII lower case, for the names of the special values. -/
def asciiLower (cs : List Char) : List Char :=
  cs.map fun c => if 65 ≤ c.toNat ∧ c.toNat ≤ 90 then Char.ofNat (c.toNat + 32) else c

def unsigned? (negative : Bool) (cs : List Char) : Option Binary64 :=
  let name := asciiLower cs
  if name = ['i', 'n', 'f'] ∨ name = ['i', 'n', 'f', 'i', 'n', 'i', 't', 'y'] then
    some (.infinite negative)
  else if name = ['n', 'a', 'n'] then some .nan
  else magnitude? negative cs

def parse? (cs : List Char) : Option Binary64 :=
  match cs with
  | '-' :: rest => unsigned? true rest
  | '+' :: rest => unsigned? false rest
  | _ => unsigned? false cs

end OrderDesk.Binary64
