import OrderDesk.Health.Page

/-!
# Health pages over HTTP

The first line of a request, and a page as the answer to it.
-/

namespace OrderDesk

/-- What a request asks for. -/
structure PageRequest where
  method : String
  target : String
  deriving DecidableEq, Repr

namespace PageRequest

def words (cs : List Char) : List (List Char) :=
  (cs.splitOn ' ').filter (!·.isEmpty)

/-- Reads the head of a request: of its first line, the method and the target. -/
def read? (head : String) : Option PageRequest :=
  let line := head.toList.takeWhile fun c => c != '\r' && c != '\n'
  match words line with
  | [method, target, _] => some ⟨String.ofList method, String.ofList target⟩
  | _ => none

end PageRequest

namespace Page

def phrase (status : Nat) : String :=
  if status = 200 then "OK"
  else if status = 400 then "Bad Request"
  else if status = 404 then "Not Found"
  else if status = 405 then "Method Not Allowed"
  else "Service Unavailable"

/-- A page as an answer: its status, its headers and its text. -/
def toResponse (page : Page) : String :=
  let number (n : Nat) : String := String.ofList (Text.decimal n)
  let body := page.body.toText
  let contentType := match page.contentType with
    | some t => "content-type: " ++ t ++ "\r\n"
    | none => ""
  "HTTP/1.1 " ++ number page.status ++ " " ++ phrase page.status ++ "\r\n" ++ contentType ++
    "content-length: " ++ number body.utf8ByteSize ++ "\r\nconnection: close\r\n\r\n" ++ body

def respond (desk : Desk) (report : HealthReport) (head : String) : String :=
  match PageRequest.read? head with
  | some request => (answer desk report request.method request.target).toResponse
  | none => (bare 400).toResponse

end Page

end OrderDesk
