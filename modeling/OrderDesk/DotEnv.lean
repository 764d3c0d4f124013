import OrderDesk.Text.Alphanumeric
import OrderDesk.Text.Blank

/-!
# Files of variables

A file that gives variables values, one `NAME=value` a line. Values may be quoted, and then span
lines; they may refer to variables; a comment begins with `#`. Variables that are set already keep
their value, and reading stops at the first malformed line.
-/

namespace OrderDesk

/-- The variables of a process, and their values. -/
abbrev Environment := List (String × String)

namespace DotEnv

open OrderDesk.Text

/-! ## Logical lines -/

/-- Where a scan stands inside a line. -/
inductive LineState where
  | complete
  | escape
  | strong
  | strongEscape
  | weak
  | weakEscape
  | blank
  | comment
  deriving DecidableEq, Repr

/-- What the start of something new means, in or after a value. -/
def LineState.opening (c : Char) : LineState :=
  if c = '\\' then .escape
  else if c = '"' then .weak
  else if c = '\'' then .strong
  else .complete

/-- The state after a character. A comment begins behind a blank only. -/
def LineState.next (s : LineState) (c : Char) : LineState :=
  match s with
  | .blank => if c = '#' then .comment else opening c
  | .escape => .complete
  | .complete => if isBlank c && c != '\n' && c != '\r' then .blank else opening c
  | .weak => if c = '\\' then .weakEscape else if c = '"' then .complete else .weak
  | .weakEscape => .weak
  | .strong => if c = '\\' then .strongEscape else if c = '\'' then .complete else .strong
  | .strongEscape => .strong
  | .comment => .comment

/-- The state at the end of a text, and the text up to where a comment begins. -/
def scanLine (s : LineState) : List Char → LineState × List Char
  | [] => (s, [])
  | c :: rest =>
    match s.next c with
    | .comment => (.comment, [])
    | s =>
      let (last, kept) := scanLine s rest
      (last, c :: kept)

/-- The lines of a text, each with its newline. -/
def physicalLines (current : List Char) : List Char → List (List Char)
  | [] => if current.isEmpty then [] else [current.reverse]
  | '\n' :: rest => ('\n' :: current).reverse :: physicalLines [] rest
  | c :: rest => physicalLines (c :: current) rest

def withoutNewline (cs : List Char) : List Char :=
  match cs.reverse with
  | '\n' :: '\r' :: rest => rest.reverse
  | '\n' :: rest => rest.reverse
  | _ => cs

/-- Joins lines for as long as something is open, after the text `buffer` that left it open. A line
that is still open at the end is malformed. -/
def logicalLines (buffer : List Char) (s : LineState) :
    List (List Char) → List (Option (List Char))
  | [] => if s = .complete then [] else [none]
  | line :: rest =>
    let text := buffer ++ line
    if (trimStart text).head? = some '#' then some [] :: logicalLines [] .complete rest
    else
      match scanLine s line with
      | (.complete, _) => some (withoutNewline text) :: logicalLines [] .complete rest
      | (.comment, kept) => some (buffer ++ kept) :: logicalLines [] .complete rest
      | (s, _) => logicalLines text s rest

/-! ## Values -/

/-- How a reference to a variable is being read. -/
inductive Reference where
  | none
  | plain
  | braced
  deriving DecidableEq, Repr

/-- How far a value has been read. -/
structure ValueScan where
  strong : Bool := false
  weak : Bool := false
  escaped : Bool := false
  /-- Whether only blanks and a comment may follow. -/
  finished : Bool := false
  reference : Reference := .none
  name : List Char := []
  output : List Char := []

/-- What a character stands for behind a backslash. -/
def escapeOf? (c : Char) : Option Char :=
  if c = '\\' ∨ c = '\'' ∨ c = '"' ∨ c = '$' ∨ c = ' ' then some c
  else if c = 'n' then some '\n'
  else none

/-- Puts the value of the variable that was named in place of the reference. -/
def ValueScan.resolve (s : ValueScan) (valueOf : String → String) : ValueScan :=
  { s with
    reference := .none
    name := []
    output := s.output ++ (valueOf (String.ofList s.name)).toList }

def ValueScan.push (s : ValueScan) (valueOf : String → String) (c : Char) : Option ValueScan :=
  if s.escaped then
    (escapeOf? c).map fun d => { s with escaped := false, output := s.output ++ [d] }
  else if s.strong then
    some (if c = '\'' then { s with strong := false } else { s with output := s.output ++ [c] })
  else match s.reference with
  | .plain =>
    if isAlphanumeric c then some { s with name := s.name ++ [c] }
    else if c = '\x7b' && s.name.isEmpty then some { s with reference := .braced }
    else
      let s := s.resolve valueOf
      some (if c = '$' then { s with reference := .plain }
        else { s with output := s.output ++ [c] })
  | .braced =>
    some (if c = '\x7d' then s.resolve valueOf else { s with name := s.name ++ [c] })
  | .none =>
    if c = '$' then some { s with reference := .plain }
    else if s.weak then
      some (if c = '"' then { s with weak := false }
        else if c = '\\' then { s with escaped := true }
        else { s with output := s.output ++ [c] })
    else if c = '\'' then some { s with strong := true }
    else if c = '"' then some { s with weak := true }
    else if c = '\\' then some { s with escaped := true }
    else if c = ' ' || c = '\t' then some { s with finished := true }
    else some { s with output := s.output ++ [c] }

/-- The value at the end of its text. Quotes and braces have to be closed. -/
def ValueScan.close (s : ValueScan) (valueOf : String → String) : Option String :=
  if s.reference = .braced || s.strong || s.weak then none
  else some (String.ofList (s.resolve valueOf).output)

def readValue (valueOf : String → String) (s : ValueScan) : List Char → Option String
  | [] => s.close valueOf
  | c :: rest =>
    if s.finished then
      if c = ' ' || c = '\t' then readValue valueOf s rest
      else if c = '#' then s.close valueOf
      else none
    else (s.push valueOf c).bind fun s => readValue valueOf s rest

/-! ## Lines -/

/-- A name: a letter or an underscore, then letters, digits, underscores and points. -/
def name? (cs : List Char) : Option (String × List Char) :=
  let isNameChar (c : Char) : Bool := isAsciiAlphanumeric c || c == '_' || c == '.'
  match cs with
  | [] => none
  | c :: _ =>
    if isAsciiLetter c || c == '_' then
      some (String.ofList (cs.takeWhile isNameChar), cs.dropWhile isNameChar)
    else none

/-- What follows an equals sign, blanks in front dropped. -/
def afterEquals? (cs : List Char) : Option (List Char) :=
  match trimStart cs with
  | '=' :: rest => some (trimStart rest)
  | _ => none

/-- The name that a line gives a value, and the text of the value. The word `export` may stand in
front of the name. -/
def assignment? (cs : List Char) : Option (String × List Char) := do
  let (name, rest) ← name? cs
  match afterEquals? rest with
  | some value => some (name, value)
  | none =>
    if name = "export" then
      let (name, rest) ← name? (trimStart rest)
      some (name, ← afterEquals? rest)
    else none

/-- What a line says. -/
inductive Line where
  | nothing
  | malformed
  | sets (name value : String)

def readLine (valueOf : String → String) (cs : List Char) : Line :=
  match trim cs with
  | [] => .nothing
  | '#' :: _ => .nothing
  | cs =>
    match assignment? cs with
    | none => .malformed
    | some (name, []) => .sets name ""
    | some (name, '#' :: _) => .sets name ""
    | some (name, value) =>
      match readValue valueOf {} value with
      | some value => .sets name value
      | none => .malformed

def setNew (env : Environment) (name value : String) : Environment :=
  if (env.lookup name).isSome then env else env ++ [(name, value)]

/-- Takes the lines of a file in order. A reference means the variable of the process, or else what
an earlier line of the file gave it. -/
def loadLines (env given : Environment) : List (Option (List Char)) → Environment
  | [] => env
  | none :: _ => env
  | some line :: rest =>
    let valueOf (name : String) : String :=
      ((env.lookup name).or (given.lookup name)).getD ""
    match readLine valueOf line with
    | .nothing => loadLines env given rest
    | .malformed => env
    | .sets name value => loadLines (setNew env name value) ((name, value) :: given) rest

/-- The text of a file without its byte-order mark. -/
def withoutMark (cs : List Char) : List Char :=
  match cs with
  | c :: rest => if c.toNat = 0xFEFF then rest else cs
  | [] => []

/-- Loads the variables of a file into an environment. -/
def load (env : Environment) (text : String) : Environment :=
  loadLines env [] (logicalLines [] .complete (physicalLines [] (withoutMark text.toList)))

/-- The names a text can set or refer to: its runs of letters, digits, underscores and points. -/
def mentioned (text : String) : List String :=
  let isNameChar (c : Char) : Bool := isAlphanumeric c || c == '_' || c == '.'
  ((text.toList.splitBy fun a b => isNameChar a == isNameChar b).map String.ofList).eraseDups

end DotEnv

end OrderDesk
