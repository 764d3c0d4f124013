import OrderDesk.Uuid
import OrderDesk.Validation

/-!
# Identifiers

Orders, users and markets are named by UUIDs. The three kinds are different types, so an order
cannot be looked up by a user; they share their text form, and a malformed text is blamed on the
field that names the kind.
-/

namespace OrderDesk

/-- What an identifier names. -/
inductive IdKind where
  | order
  | user
  | market
  deriving DecidableEq, Repr

/-- The request field that carries an identifier. -/
def IdKind.field : IdKind → String
  | .order => "order_id"
  | .user => "user_id"
  | .market => "market_id"

/-- The identifier of a thing of one kind. -/
structure Id (kind : IdKind) where
  uuid : Uuid
  deriving DecidableEq, Repr, Inhabited

abbrev OrderId := Id .order
abbrev UserId := Id .user
abbrev MarketId := Id .market

namespace Id

variable {kind : IdKind}

def parse (kind : IdKind) (s : String) : Except ValidationError (Id kind) :=
  if s = "" then .error ⟨kind.field, "is required"⟩
  else match Uuid.parse? s.toList with
    | some uuid => .ok ⟨uuid⟩
    | none => .error ⟨kind.field, "must be a valid UUID"⟩

def toText (id : Id kind) : String :=
  id.uuid.toText

end Id

end OrderDesk
