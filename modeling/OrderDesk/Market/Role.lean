/-!
# Caller roles

The role of a caller decides which markets it sees. A set of roles has one key, whatever the order
and the repetitions in which a caller lists it.
-/

namespace OrderDesk

/-- The role of a caller. -/
inductive Role where
  | unspecified
  | trader
  | viewer
  | admin
  deriving DecidableEq, Repr, Inhabited

namespace Role

def name : Role → String
  | .unspecified => "UNSPECIFIED"
  | .trader => "TRADER"
  | .viewer => "VIEWER"
  | .admin => "ADMIN"

/-- All roles, in the order of their names. -/
def alphabetical : List Role :=
  [.admin, .trader, .unspecified, .viewer]

def ofName? (s : String) : Option Role :=
  alphabetical.find? (·.name == s)

theorem mem_alphabetical (r : Role) : r ∈ alphabetical := by
  cases r <;> simp [alphabetical]

theorem ofName?_name (r : Role) : ofName? r.name = some r := by
  cases r <;> rfl

end Role

/-- The roles that a list names, each once and in the order of their names. -/
def distinctRoles (roles : List Role) : List Role :=
  Role.alphabetical.filter (roles.contains ·)

/-- The key of a set of roles: `markets:` and the names, in order and parted by commas. -/
def marketsKey (roles : List Role) : String :=
  "markets:" ++ ",".intercalate ((distinctRoles roles).map Role.name)

theorem mem_distinctRoles {r : Role} {roles : List Role} :
    r ∈ distinctRoles roles ↔ r ∈ roles := by
  simp [distinctRoles, Role.mem_alphabetical]

end OrderDesk
