import OrderDesk.Proofs.Identity.Text
import OrderDesk.Proofs.Order.Terms
import OrderDesk.Proofs.Wire.Decoding

/-!
# What is wrong with a request

`WireCreateRequest.faults` lists everything that is wrong with a request to place an order, field by
field, the sign of the price last. A request is `Acceptable` exactly when nothing is wrong with it
(`faults_eq_nil_iff`). Reading a request stops at the first fault of its fields (`refusal?_decode`),
and what is read is what the request says (`readsAs_of_decode`).

A check reports one error only. `refusal?` is that error, and `refusal?_bind` says that two checks
in a row report the first of the faults of both.
-/

namespace OrderDesk

/-! ## The error of a check -/

section
variable {ε α β : Type}

/-- The error that a check ended with. -/
def refusal? : Except ε α → Option ε
  | .error e => some e
  | .ok _ => none

theorem refusal?_eq_some_iff {x : Except ε α} {e : ε} : refusal? x = some e ↔ x = .error e := by
  cases x <;> simp [refusal?]

theorem refusal?_eq_none_iff {x : Except ε α} : refusal? x = none ↔ ∃ a, x = .ok a := by
  cases x <;> simp [refusal?]

theorem refusal?_bind {x : Except ε α} {f : α → Except ε β} {faults faults' : List ε}
    (hx : refusal? x = faults.head?) (hf : ∀ a, x = .ok a → refusal? (f a) = faults'.head?) :
    refusal? (x >>= f) = (faults ++ faults').head? := by
  cases x with
  | error e =>
    rw [List.head?_append, ← hx]
    rfl
  | ok a =>
    have hnone : faults = [] := List.head?_eq_none_iff.1 hx.symm
    rw [hnone]
    exact hf a rfl

/-- What is made of a result adds no error. -/
theorem refusal?_bind_pure {x : Except ε α} {g : α → β} :
    refusal? (x >>= fun a => pure (g a)) = refusal? x := by
  cases x <;> rfl

theorem refusal?_mapM {f : α → Except ε β} {faults : α → List ε}
    (h : ∀ a, refusal? (f a) = (faults a).head?) (l : List α) :
    refusal? (l.mapM f) = (l.flatMap faults).head? := by
  induction l with
  | nil => rfl
  | cons a l ih =>
    rw [List.mapM_cons, List.flatMap_cons]
    exact refusal?_bind (h a) fun b _ => refusal?_bind_pure.trans ih

end

/-! ## The faults of single fields -/

namespace Id

/-- What is wrong with the text of an identifier. -/
def faults (kind : IdKind) (s : String) : List ValidationError :=
  if s = "" then [⟨kind.field, "is required"⟩]
  else if (Uuid.parse? s.toList).isSome then []
  else [⟨kind.field, "must be a valid UUID"⟩]

variable {kind : IdKind} {s : String}

theorem refusal?_parse : refusal? (parse kind s) = (faults kind s).head? := by
  unfold parse faults
  split
  · rfl
  · cases Uuid.parse? s.toList <;> rfl

theorem faults_eq_nil_iff : faults kind s = [] ↔ ∃ uuid, Uuid.parse? s.toList = some uuid := by
  unfold faults
  split
  · next hs => simp [hs, show Uuid.parse? [] = none from rfl]
  · simp [Option.isSome_iff_exists]

end Id

namespace WireCreateRequest

/-- What is wrong with a number that has to be one of some, and not zero, which says nothing. -/
def numberFaults (field : String) (known : List Int) (unspecified unknown : String) (n : Int) :
    List ValidationError :=
  if n ∈ known then []
  else if n = 0 then [⟨field, unspecified⟩]
  else [⟨field, unknown ++ String.ofList (Text.decimalInt n)⟩]

def orderTypeFaults : Int → List ValidationError :=
  numberFaults "order_type" [1, 2] "must be specified" "unknown value "

def priceFaults (text : String) : List ValidationError :=
  if Text.trim text.toList = [] then [⟨"price", "is required"⟩]
  else if (Decimal.parse? (Text.trim text.toList)).isSome then []
  else [⟨"price", "must be a decimal number"⟩]

def quantityFaults (n : Int) : List ValidationError :=
  if 0 < n then [] else [⟨"quantity", "must be greater than zero"⟩]

def roleFaults : Int → List ValidationError :=
  numberFaults "user_roles" [1, 2, 3] "must not contain USER_ROLE_UNSPECIFIED" "unknown role "

def rolesFaults (ns : List Int) : List ValidationError :=
  if ns = [] then [⟨"user_roles", "at least one role is required"⟩] else ns.flatMap roleFaults

/-- What is wrong with the sign of a price, once the price and the type of the order are known. -/
def signFaults (orderType : Int) (text : String) : List ValidationError :=
  match Decimal.parse? (Text.trim text.toList) with
  | none => []
  | some price =>
    if orderType = 1 ∧ price.inSmallestUnits ≤ 0 then [⟨"price", "must be greater than zero"⟩]
    else if orderType = 2 ∧ price.inSmallestUnits < 0 then [⟨"price", "must not be negative"⟩]
    else []

/-- Everything that is wrong with the fields of a request, each by itself. -/
def fieldFaults (r : WireCreateRequest) : List ValidationError :=
  Id.faults .user r.userId ++ (Id.faults .market r.marketId ++ (orderTypeFaults r.orderType ++
    (priceFaults r.price ++ (quantityFaults r.quantity ++ rolesFaults r.userRoles))))

/-- Everything that is wrong with a request. -/
def faults (r : WireCreateRequest) : List ValidationError :=
  r.fieldFaults ++ signFaults r.orderType r.price

/-- What a request has to satisfy. -/
structure Acceptable (r : WireCreateRequest) : Prop where
  userId : ∃ uuid, Uuid.parse? r.userId.toList = some uuid
  marketId : ∃ uuid, Uuid.parse? r.marketId.toList = some uuid
  orderType : r.orderType = 1 ∨ r.orderType = 2
  /-- The price is a decimal, above zero for a limit order and not below zero for a market order. -/
  price : ∃ price, Decimal.parse? (Text.trim r.price.toList) = some price ∧
    (r.orderType = 1 → 0 < price.inSmallestUnits) ∧ (r.orderType = 2 → 0 ≤ price.inSmallestUnits)
  quantity : 0 < r.quantity
  someRole : r.userRoles ≠ []
  roles : ∀ n ∈ r.userRoles, n = 1 ∨ n = 2 ∨ n = 3

/-- What is read from a request is what it says, the roles in their order. -/
structure ReadsAs (r : WireCreateRequest) (decoded : CreateRequest) : Prop where
  userId : Uuid.parse? r.userId.toList = some decoded.userId.uuid
  marketId : Uuid.parse? r.marketId.toList = some decoded.marketId.uuid
  orderType : decoded.orderType.toWire = r.orderType
  price : Decimal.parse? (Text.trim r.price.toList) = some decoded.price
  quantity : (decoded.quantity : Int) = r.quantity
  roles : decoded.userRoles.map Role.toWire = r.userRoles
  requestId : decoded.requestId = none

/-! ## The first fault is the error -/

theorem refusal?_readOrderType (n : Int) :
    refusal? (readOrderType n) = (orderTypeFaults n).head? := by
  by_cases hknown : n = 0 ∨ n = 1 ∨ n = 2
  · rcases hknown with rfl | rfl | rfl <;> rfl
  · obtain ⟨h0, h1, h2⟩ : ¬ n = 0 ∧ ¬ n = 1 ∧ ¬ n = 2 := by simpa using hknown
    have hnone : OrderType.ofWire? n = none := by
      refine List.find?_eq_none.2 fun t _ => ?_
      cases t <;> simp [OrderType.toWire, Ne.symm h0, Ne.symm h1, Ne.symm h2]
    simp [readOrderType, hnone, orderTypeFaults, numberFaults, h0, h1, h2, refusal?]

theorem refusal?_readRole (n : Int) : refusal? (readRole n) = (roleFaults n).head? := by
  by_cases hknown : n = 0 ∨ n = 1 ∨ n = 2 ∨ n = 3
  · rcases hknown with rfl | rfl | rfl | rfl <;> rfl
  · obtain ⟨h0, h1, h2, h3⟩ : ¬ n = 0 ∧ ¬ n = 1 ∧ ¬ n = 2 ∧ ¬ n = 3 := by simpa using hknown
    have hnone : Role.ofWire? n = none := by
      simp [Role.ofWire?_eq_none_iff, Role.known, h0, h1, h2, h3]
    simp [readRole, hnone, roleFaults, numberFaults, h0, h1, h2, h3, refusal?]

theorem refusal?_readPrice (text : String) :
    refusal? (readPrice text) = (priceFaults text).head? := by
  unfold readPrice priceFaults
  cases Text.trim text.toList with
  | nil => rfl
  | cons c cs => cases hp : Decimal.parse? (c :: cs) <;> simp [hp, refusal?]

theorem refusal?_readQuantity (n : Int) :
    refusal? (readQuantity n) = (quantityFaults n).head? := by
  unfold readQuantity quantityFaults
  split <;> rfl

theorem refusal?_readRoles (ns : List Int) :
    refusal? (readRoles ns) = (rolesFaults ns).head? := by
  unfold readRoles rolesFaults
  cases ns with
  | nil => rfl
  | cons n ns => exact refusal?_mapM refusal?_readRole (n :: ns)

variable {r : WireCreateRequest} {decoded : CreateRequest}

theorem refusal?_decode : refusal? r.decode = r.fieldFaults.head? := by
  refine refusal?_bind Id.refusal?_parse fun userId _ => ?_
  refine refusal?_bind Id.refusal?_parse fun marketId _ => ?_
  refine refusal?_bind (refusal?_readOrderType _) fun orderType _ => ?_
  refine refusal?_bind (refusal?_readPrice _) fun price _ => ?_
  refine refusal?_bind (refusal?_readQuantity _) fun quantity _ => ?_
  exact refusal?_bind_pure.trans (refusal?_readRoles _)

/-! ## What is read -/

theorem toWire_of_readOrderType {n : Int} {orderType : OrderType}
    (h : readOrderType n = .ok orderType) : orderType.toWire = n := by
  have hof := (readOrderType_eq_ok_iff.1 h).1
  simpa using List.find?_some hof

theorem toWire_of_readRole {n : Int} {role : Role} (h : readRole n = .ok role) :
    role.toWire = n := by
  unfold readRole at h
  split at h
  · cases h
  · next role' hof =>
    obtain rfl := Except.ok.inj h
    exact Role.ofWire?_eq_some_iff.1 hof
  · cases h

theorem map_toWire_of_readRoles {ns : List Int} {roles : List Role}
    (h : readRoles ns = .ok roles) : ns ≠ [] ∧ roles.map Role.toWire = ns := by
  unfold readRoles at h
  split at h
  · cases h
  · next hne =>
    refine ⟨by simpa using hne, ?_⟩
    have hread := mapM_eq_ok_iff.1 h
    clear h hne
    induction hread with
    | nil => rfl
    | cons hrole _ ih => rw [List.map_cons, toWire_of_readRole hrole, ih]

theorem readsAs_of_decode (h : r.decode = .ok decoded) : r.ReadsAs decoded := by
  obtain ⟨hu, hm, ht, hp, hq, hr, hid⟩ := decode_eq_ok_iff.1 h
  exact
    { userId := Id.parse_eq_ok_iff.1 hu
      marketId := Id.parse_eq_ok_iff.1 hm
      orderType := toWire_of_readOrderType ht
      price := readPrice_eq_ok_iff.1 hp
      quantity := (readQuantity_eq_ok_iff.1 hq).2
      roles := (map_toWire_of_readRoles hr).2
      requestId := hid }

/-! ## Nothing wrong -/

theorem numberFaults_eq_nil_iff {field unspecified unknown : String} {known : List Int} {n : Int} :
    numberFaults field known unspecified unknown n = [] ↔ n ∈ known := by
  unfold numberFaults
  split
  · next h => simp [h]
  · next h => split <;> simp [h]

theorem orderTypeFaults_eq_nil_iff {n : Int} : orderTypeFaults n = [] ↔ n = 1 ∨ n = 2 := by
  simp [orderTypeFaults, numberFaults_eq_nil_iff]

theorem priceFaults_eq_nil_iff {text : String} :
    priceFaults text = [] ↔ ∃ price, Decimal.parse? (Text.trim text.toList) = some price := by
  unfold priceFaults
  split
  · next h => simp [h, show Decimal.parse? [] = none from rfl]
  · simp [Option.isSome_iff_exists]

theorem quantityFaults_eq_nil_iff {n : Int} : quantityFaults n = [] ↔ 0 < n := by
  simp [quantityFaults]

theorem roleFaults_eq_nil_iff {n : Int} : roleFaults n = [] ↔ n = 1 ∨ n = 2 ∨ n = 3 := by
  simp [roleFaults, numberFaults_eq_nil_iff]

theorem rolesFaults_eq_nil_iff {ns : List Int} :
    rolesFaults ns = [] ↔ ns ≠ [] ∧ ∀ n ∈ ns, n = 1 ∨ n = 2 ∨ n = 3 := by
  unfold rolesFaults
  split
  · next h => simp [h]
  · next h => simp [h, List.flatMap_eq_nil_iff, roleFaults_eq_nil_iff]

theorem signFaults_eq_nil_iff {n : Int} {text : String} {price : Decimal}
    (h : Decimal.parse? (Text.trim text.toList) = some price) : signFaults n text = [] ↔
      (n = 1 → 0 < price.inSmallestUnits) ∧ (n = 2 → 0 ≤ price.inSmallestUnits) := by
  simp only [signFaults, h]
  split
  · next hlow => simp [hlow]
  · next hlow =>
    split
    · next hneg => simp [hneg]
    · next hneg => simp; omega

/-- A request is acceptable when nothing is wrong with it. -/
theorem faults_eq_nil_iff : r.faults = [] ↔ r.Acceptable := by
  simp only [faults, fieldFaults, List.append_eq_nil_iff, Id.faults_eq_nil_iff,
    orderTypeFaults_eq_nil_iff, priceFaults_eq_nil_iff, quantityFaults_eq_nil_iff,
    rolesFaults_eq_nil_iff]
  constructor
  · rintro ⟨⟨hu, hm, ht, ⟨price, hp⟩, hq, hne, hr⟩, hs⟩
    exact ⟨hu, hm, ht, ⟨price, hp, (signFaults_eq_nil_iff hp).1 hs⟩, hq, hne, hr⟩
  · rintro ⟨hu, hm, ht, ⟨price, hp, hs⟩, hq, hne, hr⟩
    exact ⟨⟨hu, hm, ht, ⟨price, hp⟩, hq, hne, hr⟩, (signFaults_eq_nil_iff hp).2 hs⟩

end WireCreateRequest

end OrderDesk
