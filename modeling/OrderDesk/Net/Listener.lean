import OrderDesk.Net.SocketAddress

/-!
# Listener failures

How serving the health pages fails.
-/

namespace OrderDesk

/-- Why a listener does not serve. -/
inductive ListenError where
  | bindFailed (address : SocketAddress) (detail : String)
  | serverFailed (detail : String)
  deriving DecidableEq, Repr

/-- The line shown for a listener that failed. -/
def ListenError.message : ListenError → String
  | .bindFailed address detail => "failed to bind to " ++ address.toText ++ ": " ++ detail
  | .serverFailed detail => "server error: " ++ detail

end OrderDesk
