import OrderDesk.Order.Basic
import OrderDesk.Wire.Enums
import OrderDesk.Wire.Time

/-!
# Order updates in messages

What a subscriber receives about an order, as a message and as bytes.
-/

namespace OrderDesk

/-- An order update in a message. -/
structure WireUpdate where
  orderId : String
  status : Int
  updatedAt : Option WireTime
  deriving DecidableEq, Repr

def OrderUpdate.toWire (u : OrderUpdate) : WireUpdate :=
  { orderId := u.orderId.toText
    status := u.status.toWire
    updatedAt := u.updatedAt.map WireTime.ofInstant }

def WireUpdate.encode (u : WireUpdate) : List UInt8 :=
  Wire.textField 1 u.orderId ++ Wire.integerField 2 u.status ++
    Wire.messageField 3 (u.updatedAt.map WireTime.encode)

end OrderDesk
