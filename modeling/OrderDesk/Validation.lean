/-!
# Validation errors

A request that breaks a rule is refused with the field at fault and what is wrong with it.
-/

namespace OrderDesk

/-- A field of a request and what is wrong with it. -/
structure ValidationError where
  field : String
  detail : String
  deriving DecidableEq, Repr

def ValidationError.message (e : ValidationError) : String :=
  "invalid " ++ e.field ++ ": " ++ e.detail

end OrderDesk
