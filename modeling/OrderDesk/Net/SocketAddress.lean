import OrderDesk.Text.Digits

/-!
# Socket addresses

A host address with a port: dotted decimal, or groups of hexadecimal digits in brackets with an
optional scope. The printed form is canonical: no leading zeros, and the longest run of zero groups
left out.
-/

namespace OrderDesk

/-- An address of a host. -/
inductive HostAddress where
  | v4 (a b c d : Nat)
  /-- Eight groups of 16 bits, and a scope that is zero when there is none. -/
  | v6 (groups : List Nat) (scope : Nat)
  deriving DecidableEq, Repr

/-- A host address and a port. -/
structure SocketAddress where
  host : HostAddress
  port : Nat
  deriving DecidableEq, Repr

namespace SocketAddress

open OrderDesk.Text

/-! ## Reading -/

/-- A decimal number below `limit`, leading zeros allowed. -/
def decimal? (limit : Nat) (cs : List Char) : Option (Nat × List Char) :=
  let digits := cs.takeWhile isDigit
  if digits.isEmpty then none
  else
    let n := digitsValue 0 digits
    if n < limit then some (n, cs.dropWhile isDigit) else none

/-- One fixed character. -/
def char? (c : Char) : List Char → Option (List Char)
  | d :: rest => if d = c then some rest else none
  | [] => none

/-- A part of a dotted address: up to three digits, no leading zero. -/
def octet? (cs : List Char) : Option (Nat × List Char) :=
  let digits := cs.takeWhile isDigit
  if 3 < digits.length ∨ (1 < digits.length ∧ digits.head? = some '0') then none
  else decimal? 256 cs

/-- A dotted address. -/
def dotted? (cs : List Char) : Option ((Nat × Nat × Nat × Nat) × List Char) := do
  let (a, cs) ← octet? cs
  let (b, cs) ← octet? (← char? '.' cs)
  let (c, cs) ← octet? (← char? '.' cs)
  let (d, cs) ← octet? (← char? '.' cs)
  some ((a, b, c, d), cs)

/-- A group of one to four hexadecimal digits. -/
def group? (cs : List Char) : Option (Nat × List Char) :=
  let digits := (cs.takeWhile fun c => (hexValue? c).isSome).filterMap hexValue?
  if digits.isEmpty ∨ 4 < digits.length then none
  else some (digits.foldl (fun n d => n * 16 + d) 0, cs.drop digits.length)

/-- Up to `room` groups with colons between them, after the `taken` ones that were read before. A
dotted address may stand for the last two. Answers the groups, whether they end dotted, and what
follows. -/
def groups? (room : Nat) (first : Bool) (cs : List Char) : List Nat × Bool × List Char :=
  match room with
  | 0 => ([], false, cs)
  | room + 1 =>
    let start? := if first then some cs else char? ':' cs
    let dotted := if room = 0 then none else start?.bind dotted?
    match dotted with
    | some ((a, b, c, d), rest) => ([a * 256 + b, c * 256 + d], true, rest)
    | none =>
      match start?.bind group? with
      | some (g, rest) =>
        let (gs, endsDotted, rest) := groups? room false rest
        (g :: gs, endsDotted, rest)
      | none => ([], false, cs)

/-- Eight groups, of which a run may be left out as `::`. -/
def sixteenBytes? (cs : List Char) : Option (List Nat × List Char) :=
  let (head, endsDotted, rest) := groups? 8 true cs
  if head.length = 8 then some (head, rest)
  else if endsDotted then none
  else do
    let rest ← char? ':' (← char? ':' rest)
    let (tail, _, rest) := groups? (7 - head.length) true rest
    some (head ++ List.replicate (8 - head.length - tail.length) 0 ++ tail, rest)

/-- The port behind a colon, which ends the text. -/
def port? (cs : List Char) : Option Nat := do
  let (port, rest) ← decimal? 65536 (← char? ':' cs)
  if rest.isEmpty then some port else none

def parse? (cs : List Char) : Option SocketAddress :=
  match cs with
  | '[' :: cs => do
    let (groups, cs) ← sixteenBytes? cs
    let (scope, cs) ← match cs with
      | '%' :: cs => decimal? 4294967296 cs
      | _ => some (0, cs)
    let port ← port? (← char? ']' cs)
    some ⟨.v6 groups scope, port⟩
  | _ => do
    let ((a, b, c, d), cs) ← dotted? cs
    some ⟨.v4 a b c d, ← port? cs⟩

/-! ## Writing -/

/-- The length of the run of zeros in front. -/
def zeroRun : List Nat → Nat
  | 0 :: rest => zeroRun rest + 1
  | _ => 0

/-- Where the longest run of zeros begins, and its length; the first of equally long ones. -/
def longestZeroRun (groups : List Nat) : Nat × Nat :=
  (List.range groups.length).foldl (fun best i =>
    let run := zeroRun (groups.drop i)
    if best.2 < run then (i, run) else best) (0, 0)

/-- Groups in hexadecimal with colons between them. -/
def colonized (groups : List Nat) : List Char :=
  [':'].intercalate (groups.map (Nat.toDigits 16))

/-- Numbers in decimal with points between them. -/
def pointed (parts : List Nat) : List Char :=
  ['.'].intercalate (parts.map decimal)

/-- Eight groups in their canonical form; the addresses that stand for dotted ones end dotted. -/
def renderGroups (groups : List Nat) : List Char :=
  match groups with
  | [0, 0, 0, 0, 0, 0xffff, g, h] =>
    [':', ':', 'f', 'f', 'f', 'f', ':'] ++ pointed [g / 256, g % 256, h / 256, h % 256]
  | _ =>
    let (start, length) := longestZeroRun groups
    if length < 2 then colonized groups
    else colonized (groups.take start) ++ [':', ':'] ++ colonized (groups.drop (start + length))

/-- The host as it stands in front of the port. -/
def renderHost : HostAddress → List Char
  | .v4 a b c d => pointed [a, b, c, d]
  | .v6 groups scope =>
    '[' :: renderGroups groups ++ (if scope = 0 then [] else '%' :: decimal scope) ++ [']']

/-- The canonical text of a socket address. -/
def toText (a : SocketAddress) : String :=
  String.ofList (renderHost a.host ++ ':' :: decimal a.port)

end SocketAddress

/-! ## Hosts on their own -/

namespace HostAddress

open OrderDesk.Text

/-- A number of at least one digit in a base up to sixteen. -/
def inBase? (base : Nat) (cs : List Char) : Option Nat := do
  let digits ← cs.mapM fun c => (hexValue? c).filter (· < base)
  if digits.isEmpty then none else some (digits.foldl (fun n d => n * base + d) 0)

/-- A part of a pointed address: hexadecimal behind `0x`, octal behind `0`, decimal otherwise. -/
def pointedPart? : List Char → Option Nat
  | '0' :: 'x' :: cs => inBase? 16 cs
  | '0' :: 'X' :: cs => inBase? 16 cs
  | '0' :: c :: cs => inBase? 8 (c :: cs)
  | cs => inBase? 10 cs

/-- Whether a text is a pointed address: up to four parts, each of which stands for a byte but the
last, which stands for all the bytes that are left. Every dotted address is one. -/
def isPointed (cs : List Char) : Bool :=
  match (cs.splitOn '.').mapM pointedPart? with
  | none => false
  | some parts =>
    decide (parts.length ≤ 4) && parts.dropLast.all (· < 256) &&
      parts.getLast?.all (· < 1 <<< (8 * (5 - parts.length)))

/-- Whether a text is an address and nothing more: pointed, or groups without brackets and scope. -/
def isLiteral (cs : List Char) : Bool :=
  isPointed cs || (SocketAddress.sixteenBytes? cs).any (·.2.isEmpty)

end HostAddress

end OrderDesk
