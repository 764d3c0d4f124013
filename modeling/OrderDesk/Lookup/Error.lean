/-!
# Failed market lookups

How a lookup of the markets fails, and how the cache of them does.
-/

namespace OrderDesk

/-- Why the markets could not be looked up. -/
inductive LookupError where
  /-- The market service cannot be reached, or gave up. -/
  | unavailable (detail : String)
  /-- The market service refused the request. -/
  | rejected (detail : String)
  /-- The market service sent something unreadable. -/
  | invalidResponse (detail : String)
  deriving DecidableEq, Repr

namespace LookupError

def detail : LookupError → String
  | .unavailable d => d
  | .rejected d => d
  | .invalidResponse d => d

def message : LookupError → String
  | .unavailable d => "market validator unavailable: " ++ d
  | .rejected d => "market validator rejected request: " ++ d
  | .invalidResponse d => "invalid market data: " ++ d

end LookupError

/-- A fault of the store behind a cache. -/
inductive CacheError where
  | backend (detail : String)
  deriving DecidableEq, Repr

def CacheError.message : CacheError → String
  | .backend d => "cache backend error: " ++ d

end OrderDesk
