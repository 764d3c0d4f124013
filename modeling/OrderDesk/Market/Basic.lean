import OrderDesk.Identity
import OrderDesk.Market.Role
import OrderDesk.Time.Instant

/-!
# Markets

A market as the market service reports it.
-/

namespace OrderDesk

/-- A market: where orders may be placed, unless it is disabled or deleted, and by whom. -/
structure Market where
  id : MarketId
  name : String
  enabled : Bool
  deletedAt : Option Instant
  allowedRoles : List Role
  deriving DecidableEq, Repr

end OrderDesk
