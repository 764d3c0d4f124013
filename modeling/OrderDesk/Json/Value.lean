import OrderDesk.Text.Digits

/-!
# JSON values and their text

A JSON document and its compact text: no blanks, object members in the order of the document, and in
strings only quotes, backslashes and controls escaped.
-/

namespace OrderDesk

/-- A JSON document. -/
inductive JsonValue where
  | null
  | bool (b : Bool)
  /-- A number as it is written. -/
  | number (text : List Char)
  | string (s : String)
  /-- A string with half a surrogate pair among its escapes, which is no text. -/
  | brokenString
  | array (elements : List JsonValue)
  /-- Members in order; the name of a member may be a string that is no text. -/
  | object (members : List (Option String × JsonValue))

namespace JsonValue

open OrderDesk.Text

def ofNat (n : Nat) : JsonValue :=
  .number (decimal n)

def record (members : List (String × JsonValue)) : JsonValue :=
  .object (members.map fun m => (some m.1, m.2))

def escapeChar (c : Char) : List Char :=
  if c = '"' then ['\\', '"']
  else if c = '\\' then ['\\', '\\']
  else if c = '\n' then ['\\', 'n']
  else if c = '\r' then ['\\', 'r']
  else if c = '\t' then ['\\', 't']
  else if c.toNat = 8 then ['\\', 'b']
  else if c.toNat = 12 then ['\\', 'f']
  else if c.toNat < 32 then '\\' :: 'u' :: hexDigits 4 c.toNat
  else [c]

/-- A text between quotes. -/
def renderString (cs : List Char) : List Char :=
  '"' :: cs.flatMap escapeChar ++ ['"']

/-- The written name of a member. A broken string is written as half a pair. -/
def renderName : Option String → List Char
  | some s => renderString s.toList
  | none => ['"', '\\', 'u', 'd', '8', '0', '0', '"']

mutual

/-- The compact text of a document. -/
def render : JsonValue → List Char
  | .null => ['n', 'u', 'l', 'l']
  | .bool true => ['t', 'r', 'u', 'e']
  | .bool false => ['f', 'a', 'l', 's', 'e']
  | .number text => text
  | .string s => renderString s.toList
  | .brokenString => renderName none
  | .array elements => '[' :: renderElements elements ++ [']']
  | .object members => '\x7b' :: renderMembers members ++ ['\x7d']

def renderElements : List JsonValue → List Char
  | [] => []
  | [v] => render v
  | v :: w :: rest => render v ++ ',' :: renderElements (w :: rest)

def renderMembers : List (Option String × JsonValue) → List Char
  | [] => []
  | [(name, v)] => renderName name ++ ':' :: render v
  | (name, v) :: m :: rest => renderName name ++ ':' :: render v ++ ',' :: renderMembers (m :: rest)

end

/-- The compact text of a document, as a string. -/
def toText (v : JsonValue) : String :=
  String.ofList v.render

end JsonValue

end OrderDesk
