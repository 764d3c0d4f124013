import OrderDesk.Market.Basic
import OrderDesk.Wire.Enums
import OrderDesk.Wire.Time

/-!
# Markets in messages

A market as the market service sends it. Roles that nobody knows are dropped, and so is a deletion
time that names no instant; an identifier that is no UUID makes the market unreadable.
-/

namespace OrderDesk

/-- A market in a message. -/
structure WireMarket where
  id : String
  name : String
  enabled : Bool
  deletedAt : Option WireTime
  allowedRoles : List Int
  deriving DecidableEq, Repr

def WireMarket.decode (m : WireMarket) : Except ValidationError Market := do
  let id ← Id.parse .market m.id
  return {
    id
    name := m.name
    enabled := m.enabled
    deletedAt := m.deletedAt.bind WireTime.toInstant?
    allowedRoles := m.allowedRoles.filterMap Role.ofWire? }

end OrderDesk
