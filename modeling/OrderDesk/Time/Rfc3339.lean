import OrderDesk.Text.Blank
import OrderDesk.Text.Digits
import OrderDesk.Time.Instant

/-!
# The RFC 3339 text of an instant

Written in universal time with as few groups of fraction digits as lose nothing, a leap second as
`:60`, and years outside 0 to 9999 with a sign. Read more liberally: with an offset, with blanks
between the parts, and with parts that lack a leading zero.
-/

namespace OrderDesk.Instant

open OrderDesk.Text

/-! ## Writing -/

/-- Four digits, or a sign and at least four digits outside 0 to 9999. -/
def renderYear (year : Int) : List Char :=
  if 0 ≤ year ∧ year ≤ 9999 then padded 4 year.natAbs
  else (if year < 0 then '-' else '+') :: padded 4 year.natAbs

/-- The fraction of a second in 0, 3, 6 or 9 digits. -/
def renderFraction (nanos : Nat) : List Char :=
  if nanos = 0 then []
  else if nanos % 1000000 = 0 then '.' :: padded 3 (nanos / 1000000)
  else if nanos % 1000 = 0 then '.' :: padded 6 (nanos / 1000)
  else '.' :: padded 9 nanos

def render (i : Instant) : List Char :=
  let date := Date.ofDays (i.seconds / 86400)
  let ofDay := (i.seconds % 86400).toNat
  let second := ofDay % 60 + (if i.isLeap then 1 else 0)
  renderYear date.year ++ '-' :: padded 2 date.month ++ '-' :: padded 2 date.day ++
    'T' :: padded 2 (ofDay / 3600) ++ ':' :: padded 2 (ofDay / 60 % 60) ++
    ':' :: padded 2 second ++ renderFraction (i.nanos % 1000000000) ++ ['Z']

def toText (i : Instant) : String :=
  String.ofList i.render

/-! ## Reading -/

/-- Up to `width` digits, and at least one, after any blanks. -/
def number? (width : Nat) (cs : List Char) : Option (Nat × List Char) :=
  let cs := trimStart cs
  let digits := (cs.take width).takeWhile isDigit
  if digits.isEmpty then none else some (digitsValue 0 digits, cs.drop digits.length)

/-- A year: four digits at most, or any number of them behind a sign. -/
def year? (cs : List Char) : Option (Int × List Char) :=
  let signed (negative : Bool) (rest : List Char) : Option (Int × List Char) :=
    let digits := rest.takeWhile isDigit
    if digits.isEmpty then none
    else
      let n : Int := digitsValue 0 digits
      some (if negative then -n else n, rest.dropWhile isDigit)
  match trimStart cs with
  | '-' :: rest => signed true rest
  | '+' :: rest => signed false rest
  | cs => (number? 4 cs).map fun (n, rest) => ((n : Int), rest)

def mark? (c : Char) (cs : List Char) : Option (List Char) :=
  match trimStart cs with
  | d :: rest => if d = c then some rest else none
  | [] => none

/-- The fraction of a second, if a point follows: the digits behind the ninth are dropped. -/
def fraction? (cs : List Char) : Option (Nat × List Char) :=
  match cs with
  | '.' :: rest =>
    let digits := rest.takeWhile isDigit
    if digits.isEmpty then none
    else
      let kept := digits.take 9
      some (digitsValue 0 kept * Nat.pow 10 (9 - kept.length), rest.dropWhile isDigit)
  | _ => some (0, cs)

/-- The minutes of an offset: the first digit is at most five. -/
def offsetMinutes? (cs : List Char) : Option (Nat × List Char) :=
  match cs with
  | a :: b :: rest =>
    if isDigit a && isDigit b && decide (digitValue a ≤ 5) then
      some (digitValue a * 10 + digitValue b, rest)
    else none
  | _ => none

/-- An offset from universal time in seconds: `Z`, `UTC`, or a sign with hours and minutes, between
which colons and blanks may stand. -/
def offset? (cs : List Char) : Option (Int × List Char) :=
  let signed (negative : Bool) (cs : List Char) : Option (Int × List Char) :=
    match cs with
    | a :: b :: rest =>
      if isDigit a && isDigit b then
        (offsetMinutes? (rest.dropWhile fun c => c == ':' || isBlank c)).bind fun (minutes, rest) =>
          let n : Int := ((digitValue a * 10 + digitValue b) * 3600 + minutes * 60 : Nat)
          if n < 86400 then some (if negative then -n else n, rest) else none
      else none
    | _ => none
  match trimStart cs with
  | 'Z' :: rest => some (0, rest)
  | 'z' :: rest => some (0, rest)
  | '+' :: rest => signed false rest
  | '-' :: rest => signed true rest
  | c :: rest =>
    if c.toNat = 0x2212 then signed true rest
    else
      match c, rest with
      | u, t :: v :: rest =>
        if (u = 'U' ∨ u = 'u') ∧ (t = 'T' ∨ t = 't') ∧ (v = 'C' ∨ v = 'c') then some (0, rest)
        else none
      | _, _ => none
  | [] => none

def date? (cs : List Char) : Option (Date × List Char) := do
  let (year, cs) ← year? cs
  let cs ← mark? '-' cs
  let (month, cs) ← number? 2 cs
  let cs ← mark? '-' cs
  let (day, cs) ← number? 2 cs
  let date : Date := ⟨year, month, day⟩
  if date.isValid then some (date, cs) else none

/-- A time of day as its seconds and nanoseconds; a second `60` is the leap second after `59`. -/
def time? (cs : List Char) : Option (Int × Nat × List Char) := do
  let (hour, cs) ← number? 2 cs
  let cs ← mark? ':' cs
  let (minute, cs) ← number? 2 cs
  let cs ← mark? ':' cs
  let (second, cs) ← number? 2 cs
  let (nanos, cs) ← fraction? cs
  if hour < 24 ∧ minute < 60 ∧ second ≤ 60 then
    let leap := second = 60
    some (((hour * 3600 + minute * 60 + (if leap then 59 else second) : Nat) : Int),
      (if leap then nanos + 1000000000 else nanos), cs)
  else none

/-- The characters that may part the date from the time. -/
def isDateEnd (c : Char) : Bool :=
  c == 'T' || c == 't' || c == ' '

/-- Reads an instant. The local time and the universal time must both lie in range. -/
def parse? (cs : List Char) : Option Instant := do
  let (date, cs) ← date? cs
  let cs ← match cs with
    | c :: rest => if isDateEnd c then some rest else none
    | [] => none
  let (ofDay, nanos, cs) ← time? cs
  let (offset, cs) ← offset? cs
  if !(trimStart cs).isEmpty then none
  else
    let here ← ofUnix? (date.toDays * 86400 + ofDay) nanos
    ofUnix? (here.seconds - offset) nanos

def ofText? (s : String) : Option Instant :=
  parse? s.toList

end OrderDesk.Instant
