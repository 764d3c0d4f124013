import OrderDesk.Net.SocketAddress

/-!
# Addresses of services and pages

The syntax of a uniform resource identifier as far as the address of a service and the target of a
request need it: an optional scheme, the authority that names the host, and a path with an optional
query.
-/

namespace OrderDesk

/-- Why a text is no URI. -/
inductive UriError where
  | empty
  | tooLong
  | schemeTooLong
  | invalidCharacter
  | invalidAuthority
  | invalidFormat
  deriving DecidableEq, Repr

def UriError.message : UriError → String
  | .empty => "empty string"
  | .tooLong => "uri too long"
  | .schemeTooLong => "scheme too long"
  | .invalidCharacter => "invalid uri character"
  | .invalidAuthority => "invalid authority"
  | .invalidFormat => "invalid format"

/-- A URI. Its scheme may be absent, which is not the same as empty; its path still has the query
with it, and a fragment is not kept. -/
structure Uri where
  scheme : Option (List Char)
  authority : List Char
  path : List Char
  deriving DecidableEq, Repr

namespace Uri

/-- The most bytes of a URI. -/
def maxLength : Nat := 65534

def maxSchemeLength : Nat := 64

def isLetterOrDigit (c : Char) : Bool :=
  let n := c.toNat
  (48 ≤ n && n ≤ 57) || (65 ≤ n && n ≤ 90) || (97 ≤ n && n ≤ 122)

def isSchemeChar (c : Char) : Bool :=
  isLetterOrDigit c || ['+', '-', '.', '~'].contains c

/-- The characters of an authority and what may end it. -/
def isUriChar (c : Char) : Bool :=
  isLetterOrDigit c || ['!', '#', '$', '&', '\'', '(', ')', '*', '+', ',', '-', '.', '/', ':', ';',
    '=', '?', '@', '[', ']', '_', '~'].contains c

/-- The characters that need no escape in a path; those beyond ASCII are let through. -/
def isPathChar (c : Char) : Bool :=
  let n := c.toNat
  n == 0x21 || n == 0x22 || (0x24 ≤ n && n ≤ 0x3B) || n == 0x3D || (0x40 ≤ n && n ≤ 0x5F) ||
    (0x61 ≤ n && n ≤ 0x7E) || 0x80 ≤ n

/-- The characters that need no escape in a query; those beyond ASCII are let through. -/
def isQueryChar (c : Char) : Bool :=
  let n := c.toNat
  n == 0x21 || (0x24 ≤ n && n ≤ 0x3B) || n == 0x3D || (0x3F ≤ n && n ≤ 0x7E) || 0x80 ≤ n

def lowered (cs : List Char) : List Char :=
  cs.map fun c => if 65 ≤ c.toNat && c.toNat ≤ 90 then Char.ofNat (c.toNat + 32) else c

/-- What divides a scheme from the rest. -/
def schemeMark : List Char := [':', '/', '/']

/-- Splits the scheme off, if the text has one. -/
def splitScheme (cs : List Char) : Except UriError (Option (List Char) × List Char) :=
  let scheme := cs.takeWhile isSchemeChar
  let rest := cs.dropWhile isSchemeChar
  if rest.take 3 = schemeMark then
    if maxSchemeLength < scheme.length then .error .schemeTooLong
    else .ok (some (lowered scheme), rest.drop 3)
  else .ok (none, cs)

/-- What has been seen of an authority. -/
structure AuthorityScan where
  colons : Nat := 0
  opened : Bool := false
  closed : Bool := false
  percent : Bool := false
  lastIsAt : Bool := false

/-- The most colons of an authority: those of a bracketed address. -/
def maxColons : Nat := 8

def AuthorityScan.push (s : AuthorityScan) (c : Char) : Except UriError AuthorityScan :=
  let s := { s with lastIsAt := false }
  if c = ':' then
    if maxColons ≤ s.colons then .error .invalidAuthority else .ok { s with colons := s.colons + 1 }
  else if c = '[' then
    if s.percent || s.opened then .error .invalidAuthority else .ok { s with opened := true }
  else if c = ']' then
    if !s.opened || s.closed then .error .invalidAuthority
    else .ok { s with closed := true, colons := 0, percent := false }
  else if c = '@' then .ok { s with colons := 0, percent := false, lastIsAt := true }
  else if c = '%' then .ok { s with percent := true }
  else if isUriChar c then .ok s
  else .error .invalidCharacter

/-- Whether a whole authority was well-formed: brackets in pairs, one port at most, a host behind
the user, and no escape outside the user. -/
def AuthorityScan.isComplete (s : AuthorityScan) : Bool :=
  s.opened == s.closed && decide (s.colons ≤ 1) && !s.lastIsAt && !s.percent

def endsAuthority (c : Char) : Bool :=
  c == '/' || c == '?' || c == '#'

/-- Splits the authority off. It may be empty. -/
def splitAuthority (cs : List Char) : Except UriError (List Char × List Char) := do
  let authority := cs.takeWhile (!endsAuthority ·)
  let s ← authority.foldlM AuthorityScan.push {}
  if s.isComplete then .ok (authority, cs.dropWhile (!endsAuthority ·))
  else .error .invalidAuthority

/-- Checks a path with its query; a fragment is dropped. -/
def readPath (cs : List Char) : Except UriError (List Char) :=
  let kept := cs.takeWhile (· != '#')
  let path := kept.takeWhile (· != '?')
  let query := kept.drop (path.length + 1)
  if path.all isPathChar && query.all isQueryChar then .ok kept else .error .invalidCharacter

/-- Reads a URI. A text of one character other than `/` and `*` can only be a host. -/
def parse (s : String) : Except UriError Uri :=
  let cs := s.toList
  if maxLength < s.utf8ByteSize then .error .tooLong
  else match cs with
    | [] => .error .empty
    | ['*'] => .ok ⟨none, [], cs⟩
    | ['?'] => .error .invalidCharacter
    | ['#'] => .error .invalidCharacter
    | '/' :: _ => (readPath cs).map fun path => ⟨none, [], path⟩
    | _ => do
      match ← splitScheme cs with
      | (some scheme, []) => if scheme.isEmpty then .error .invalidFormat else .error .empty
      | (some scheme, rest) =>
        let (authority, rest) ← splitAuthority rest
        if authority.isEmpty then .error .invalidFormat
        else return ⟨some scheme, authority, ← readPath rest⟩
      | (none, rest) =>
        let (authority, rest) ← splitAuthority rest
        if rest.isEmpty then return ⟨none, authority, []⟩ else .error .invalidFormat

/-- Whether a service can be called at this address: it has to have a scheme and an authority. -/
def isAbsolute (u : Uri) : Bool :=
  u.scheme.isSome && !u.authority.isEmpty

/-- The host: the authority without the user in front of it, the brackets around it and the port
behind it. It may be empty. -/
def host (u : Uri) : List Char :=
  match (u.authority.reverse.takeWhile (· != '@')).reverse with
  | '[' :: rest => rest.takeWhile (· != ']')
  | rest => rest.takeWhile (· != ':')

/-- The name that every machine has for itself. -/
def ownName : List Char := "localhost".toList

/-- Whether the host is found without asking anybody for its address: it is an address itself, or
the machine's name for itself. -/
def namesAddress (u : Uri) : Bool :=
  HostAddress.isLiteral u.host || lowered u.host == ownName

/-- The path without the query. Where there is a scheme, no path is the path of the root. -/
def pagePath (u : Uri) : List Char :=
  match u.path.takeWhile (· != '?') with
  | [] => if u.scheme.isSome then ['/'] else []
  | path => path

end Uri

end OrderDesk
