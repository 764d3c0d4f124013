import OrderDesk.Text.Digits

/-!
# Universally unique identifiers

A UUID is 32 hexadecimal digits. It is read from the plain digits, from the hyphenated form, from
that form in braces and from that form as a URN, and it is always written hyphenated in lower case.
-/

namespace OrderDesk

/-- A UUID as its 32 hexadecimal digits, most significant first. -/
structure Uuid where
  digits : List (Fin 16)
  length_digits : digits.length = 32
  deriving DecidableEq, Repr

namespace Uuid

open OrderDesk.Text

/-- The UUID of a 128-bit number; higher digits are dropped. -/
def ofNat (n : Nat) : Uuid :=
  ⟨List.ofFn fun i : Fin 32 => ⟨n / Nat.pow 16 (31 - i.val) % 16, Nat.mod_lt _ (by decide)⟩,
    by simp⟩

def nil : Uuid := ⟨List.replicate 32 0, by simp⟩

instance : Inhabited Uuid := ⟨nil⟩

/-! ## Reading -/

/-- A hexadecimal digit in either case. -/
def hexDigit? (c : Char) : Option (Fin 16) :=
  (hexValue? c).bind fun n => if h : n < 16 then some ⟨n, h⟩ else none

/-- A UUID from its digits alone. -/
def ofHex? (cs : List Char) : Option Uuid :=
  (cs.mapM hexDigit?).bind fun ds => if h : ds.length = 32 then some ⟨ds, h⟩ else none

/-- What follows a hyphen. -/
def afterHyphen? : List Char → Option (List Char)
  | '-' :: rest => some rest
  | _ => none

/-- The digits of a text that is hyphenated after 8, 4, 4 and 4 of them. -/
def unhyphenate? (cs : List Char) : Option (List Char) := do
  let a ← afterHyphen? (cs.drop 8)
  let b ← afterHyphen? (a.drop 4)
  let c ← afterHyphen? (b.drop 4)
  let d ← afterHyphen? (c.drop 4)
  some (cs.take 8 ++ a.take 4 ++ b.take 4 ++ c.take 4 ++ d)

/-- A UUID from the hyphenated form. -/
def hyphenated? (cs : List Char) : Option Uuid :=
  (unhyphenate? cs).bind ofHex?

/-- Whether a character is an ASCII letter in either case, or the given other character. -/
def sameLetter (lower c : Char) : Bool :=
  c == lower || (97 ≤ lower.toNat && lower.toNat ≤ 122 && c.toNat + 32 == lower.toNat)

def urnPrefix : List Char := ['u', 'r', 'n', ':', 'u', 'u', 'i', 'd', ':']

/-- Whether a text begins with the prefix of a URN, in any case. -/
def isUrn (cs : List Char) : Bool :=
  cs.length ≥ 9 && (List.zipWith sameLetter urnPrefix cs).all id

def parse? (cs : List Char) : Option Uuid :=
  if cs.length = 32 then ofHex? cs
  else match cs with
    | '{' :: rest => if rest.getLast? = some '}' then hyphenated? rest.dropLast else none
    | _ => if isUrn cs then hyphenated? (cs.drop 9) else hyphenated? cs

/-! ## Writing -/

/-- The digits in lower case. -/
def hex (u : Uuid) : List Char :=
  u.digits.map fun d => hexChar d.val

/-- The hyphenated form. -/
def render (u : Uuid) : List Char :=
  let h := u.hex
  h.take 8 ++ '-' :: (h.drop 8).take 4 ++ '-' :: (h.drop 12).take 4 ++ '-' :: (h.drop 16).take 4 ++
    '-' :: h.drop 20

def toText (u : Uuid) : String :=
  String.ofList u.render

end Uuid

end OrderDesk
