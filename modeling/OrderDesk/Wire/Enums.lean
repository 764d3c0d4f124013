import OrderDesk.Market.Role
import OrderDesk.Order.Status

/-!
# Enumerations in messages

Roles, statuses and order types are sent as numbers. A received number may be one that nobody knows:
an unknown role is no role, and an unknown status counts as unspecified.
-/

namespace OrderDesk

namespace Role

def toWire : Role → Int
  | .unspecified => 0
  | .trader => 1
  | .viewer => 2
  | .admin => 3

def ofWire? (n : Int) : Option Role :=
  alphabetical.find? (·.toWire == n)

/-- The name of a role in the message definitions. -/
def wireName (r : Role) : String :=
  "USER_ROLE_" ++ r.name

/-- The role with a name in the message definitions. -/
def ofWireName? (s : String) : Option Role :=
  alphabetical.find? (·.wireName == s)

theorem ofWire?_toWire (r : Role) : ofWire? r.toWire = some r := by
  cases r <;> rfl

end Role

namespace OrderStatus

def toWire : OrderStatus → Int
  | .unspecified => 0
  | .created => 1
  | .pending => 2
  | .filled => 3
  | .rejected => 4

/-- The status that a number stands for; unknown numbers are no status. -/
def ofWire (n : Int) : OrderStatus :=
  (all.find? (·.toWire == n)).getD .unspecified

/-- The name of a status in the message definitions. -/
def wireName (s : OrderStatus) : String :=
  "ORDER_STATUS_" ++ s.name

/-- The status with a name in the message definitions. -/
def ofWireName? (s : String) : Option OrderStatus :=
  all.find? (·.wireName == s)

theorem ofWire_toWire (s : OrderStatus) : ofWire s.toWire = s := by
  cases s <;> rfl

end OrderStatus

namespace OrderType

def toWire : OrderType → Int
  | .unspecified => 0
  | .limit => 1
  | .market => 2

/-- The order type that a number stands for. -/
def ofWire? (n : Int) : Option OrderType :=
  all.find? (·.toWire == n)

/-- The name of an order type in the message definitions. -/
def wireName (t : OrderType) : String :=
  "ORDER_TYPE_" ++ t.name

/-- The order type with a name in the message definitions. -/
def ofWireName? (s : String) : Option OrderType :=
  all.find? (·.wireName == s)

theorem ofWire?_toWire (t : OrderType) : ofWire? t.toWire = some t := by
  cases t <;> rfl

end OrderType

end OrderDesk
