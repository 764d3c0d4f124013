import OrderDesk.Json.Parser
import OrderDesk.Market.Basic
import OrderDesk.Order.Status
import OrderDesk.Time.Rfc3339

/-!
# Domain values in JSON

Identifiers, enumerations and markets as JSON documents, and back. A market is an object whose
unknown members are skipped and whose known ones may not be repeated, or an array of its five
fields.
-/

namespace OrderDesk

namespace Id

variable {kind : IdKind}

def toJson (id : Id kind) : JsonValue :=
  .string id.toText

/-- An identifier may be written in every form of a UUID. -/
def ofJson? : JsonValue → Option (Id kind)
  | .string s => (Uuid.parse? s.toList).map Id.mk
  | _ => none

end Id

namespace JsonValue

/-- Reads an enumeration: the name, or an object that gives the name nothing. -/
def named? {α : Type} (ofName? : String → Option α) : JsonValue → Option α
  | .string s => ofName? s
  | .object [(some name, .null)] => ofName? name
  | _ => none

/-- Reads a value that may be absent. -/
def optional? {α : Type} (read : JsonValue → Option α) : JsonValue → Option (Option α)
  | .null => some none
  | v => (read v).map some

def text? : JsonValue → Option String
  | .string s => some s
  | _ => none

def flag? : JsonValue → Option Bool
  | .bool b => some b
  | _ => none

def list? {α : Type} (read : JsonValue → Option α) : JsonValue → Option (List α)
  | .array vs => vs.mapM read
  | _ => none

end JsonValue

namespace Role

def toJson (r : Role) : JsonValue :=
  .string r.name

def ofJson? : JsonValue → Option Role :=
  JsonValue.named? ofName?

end Role

namespace OrderType

def toJson (t : OrderType) : JsonValue :=
  .string t.name

def ofJson? : JsonValue → Option OrderType :=
  JsonValue.named? ofName?

end OrderType

namespace OrderStatus

def toJson (s : OrderStatus) : JsonValue :=
  .string s.name

def ofJson? : JsonValue → Option OrderStatus :=
  JsonValue.named? ofName?

end OrderStatus

namespace Instant

def toJson (i : Instant) : JsonValue :=
  .string i.toText

def ofJson? : JsonValue → Option Instant
  | .string s => ofText? s
  | _ => none

end Instant

namespace Market

/-- A market is an object of its five fields, a deletion time being null when there is none. -/
def toJson (m : Market) : JsonValue :=
  .record [
    ("id", m.id.toJson),
    ("name", .string m.name),
    ("enabled", .bool m.enabled),
    ("deleted_at", (m.deletedAt.map Instant.toJson).getD .null),
    ("allowed_roles", .array (m.allowedRoles.map Role.toJson))]

def fieldNames : List String :=
  ["id", "name", "enabled", "deleted_at", "allowed_roles"]

/-- The value of a field that an object names at most once: `some none` when it does not. -/
def field? (members : List (String × JsonValue)) (name : String) : Option (Option JsonValue) :=
  match members.filter (·.1 == name) with
  | [] => some none
  | [m] => some (some m.2)
  | _ => none

/-- A market from the values of its fields. -/
def ofFields? (id name enabled deletedAt allowedRoles : JsonValue) : Option Market := do
  let id ← Id.ofJson? id
  let name ← name.text?
  let enabled ← enabled.flag?
  let deletedAt ← deletedAt.optional? Instant.ofJson?
  let allowedRoles ← allowedRoles.list? Role.ofJson?
  some { id, name, enabled, deletedAt, allowedRoles }

/-- A market from an object. Only the deletion time may be missing. -/
def ofMembers? (members : List (String × JsonValue)) : Option Market := do
  let id ← (← field? members "id")
  let name ← (← field? members "name")
  let enabled ← (← field? members "enabled")
  let deletedAt ← field? members "deleted_at"
  let allowedRoles ← (← field? members "allowed_roles")
  ofFields? id name enabled (deletedAt.getD .null) allowedRoles

def named? (member : Option String × JsonValue) : Option (String × JsonValue) :=
  member.1.map fun name => (name, member.2)

def ofJson? : JsonValue → Option Market
  | .object members =>
    (members.mapM named?).bind ofMembers?
  | .array [id, name, enabled, deletedAt, allowedRoles] =>
    ofFields? id name enabled deletedAt allowedRoles
  | _ => none

end Market

end OrderDesk
