import OrderDesk.Text.Blank
import OrderDesk.Uuid

/-!
# Request IDs

Every call carries a request ID. The first `x-request-id` header is used when it is readable and not
blank; otherwise a new ID is made. Afterwards the header holds that ID alone.
-/

namespace OrderDesk.RequestId

/-- Whether a text may be sent as a header: no control character other than a tab. -/
def isSendable (value : String) : Bool :=
  value.toList.all fun c => c == '\t' || (decide (32 ≤ c.toNat) && c.toNat != 127)

/-- Whether a header can be read as text: printable ASCII and tabs only. -/
def isReadable (value : String) : Bool :=
  value.toList.all fun c => c == '\t' || (decide (32 ≤ c.toNat) && decide (c.toNat ≤ 126))

/-- The ID that the headers of a call offer, if they do. -/
def offered? (headers : List String) : Option String :=
  match headers with
  | [] => none
  | value :: _ =>
    if isReadable value then
      match Text.trim value.toList with
      | [] => none
      | cs => some (String.ofList cs)
    else none

/-- A call as the handlers see it: its request ID, if it was intercepted, and its headers. -/
structure Call where
  requestId : Option String
  headers : List String
  deriving DecidableEq, Repr

def Call.arriving (headers : List String) : Call :=
  ⟨none, headers⟩

/-- Settles the request ID of a call: the offered one, or the fresh one. -/
def Call.intercept (call : Call) (fresh : Uuid) : Call :=
  let id := (offered? call.headers).getD fresh.toText
  { requestId := some id, headers := [id] }

/-- The request ID of a call; a dash stands for one that was never settled. -/
def Call.id (call : Call) : String :=
  call.requestId.getD "-"

end OrderDesk.RequestId
