import OrderDesk.Proofs.Store.Contents

/-!
# Histories of a store

`OrderStore.run` is what any number of creations, passes and reads make of a store, and
`OrderStore.readings` what its reads answer. All that an operation draws or asks (identifiers, the
time, the policy) is part of it, so every pass may follow a policy of its own.

* `Reachable.coherent`: every store that a run makes of the empty one is coherent.
* `get_step`: an operation leaves an order alone, unless it is a pass, which may move it along one
  edge.
* `readings_along_lifecycle`: what is read once is found at every later read, in the same status or
  in one that the lifecycle leads to, with the same terms, and unchanged once it is filled or
  rejected.
-/

namespace OrderDesk.OrderStore

/-- Something that is done to a store. -/
inductive Op where
  | create (draws : List OrderId) (new : NewOrder) (now : Instant)
  | pass (policy : Policy) (at_ : Instant)
  | read (id : OrderId)

/-- Whether an operation is a pass. -/
def Op.isPass : Op → Bool
  | .pass .. => true
  | _ => false

/-- The store after an operation. A creation that draws used identifiers only leaves it as it is. -/
def step (store : OrderStore) : Op → OrderStore
  | .create draws new now => ((store.create draws new now).map Prod.snd).getD store
  | .pass policy at_ => (store.advanceOpen policy at_).1
  | .read _ => store

/-- The store after several operations. -/
def run (store : OrderStore) (ops : List Op) : OrderStore :=
  ops.foldl step store

/-- What an operation answers if it is a read, beside the identifier that was asked for. -/
def reading (store : OrderStore) : Op → List (OrderId × Except StoreError Order)
  | .create .. => []
  | .pass .. => []
  | .read id => [(id, store.get id)]

/-- What the reads of a run answer, in their order. -/
def readings (store : OrderStore) : List Op → List (OrderId × Except StoreError Order)
  | [] => []
  | op :: ops => store.reading op ++ (store.step op).readings ops

/-- A store that came about by operations alone. -/
def Reachable (store : OrderStore) : Prop :=
  ∃ ops, store = empty.run ops

@[simp] theorem run_nil (store : OrderStore) : store.run [] = store := rfl

@[simp] theorem run_cons (store : OrderStore) (op : Op) (ops : List Op) :
    store.run (op :: ops) = (store.step op).run ops := rfl

theorem run_append (store : OrderStore) (ops ops' : List Op) :
    store.run (ops ++ ops') = (store.run ops).run ops' :=
  List.foldl_append

/-- What one operation keeps, a run keeps. -/
theorem run_keeps {P : OrderStore → Prop} (hstep : ∀ store op, P store → P (store.step op))
    {store : OrderStore} (h : P store) (ops : List Op) : P (store.run ops) := by
  induction ops generalizing store with
  | nil => exact h
  | cons op ops ih => exact ih (hstep store op h)

/-! ## Coherence -/

theorem Coherent.step {store : OrderStore} (h : store.Coherent) (op : Op) :
    (store.step op).Coherent := by
  cases op with
  | create draws new now =>
    cases hc : store.create draws new now with
    | none => simpa [OrderStore.step, hc] using h
    | some created => simpa [OrderStore.step, hc] using h.create hc
  | pass policy at_ => exact h.advanceOpen policy at_
  | read id => exact h

theorem Reachable.coherent {store : OrderStore} (h : store.Reachable) : store.Coherent := by
  obtain ⟨ops, rfl⟩ := h
  exact run_keeps (fun _ op hs => hs.step op) .empty ops

theorem Reachable.empty : Reachable empty :=
  ⟨[], rfl⟩

theorem Reachable.run {store : OrderStore} (h : store.Reachable) (ops : List Op) :
    (store.run ops).Reachable := by
  obtain ⟨before, rfl⟩ := h
  exact ⟨before ++ ops, (run_append _ _ _).symm⟩

/-! ## One order -/

/-- An operation leaves an order alone, or it is a pass that moves the order along one edge. -/
theorem get_step {store : OrderStore} {id : OrderId} {a : Order} (h : store.get id = .ok a)
    (op : Op) : ∃ b, (store.step op).get id = .ok b ∧
      (b = a ∨ ∃ policy at_ status, op = .pass policy at_ ∧
        OrderStatus.Edge a.status status ∧ b = a.moveTo status at_) := by
  rw [get_eq_ok_iff] at h
  cases op with
  | create draws new now =>
    refine ⟨a, get_eq_ok_iff.2 ?_, .inl rfl⟩
    cases hc : store.create draws new now with
    | none => simpa [step, hc] using h
    | some created =>
      have hne : id ≠ created.1.id := by
        rintro rfl
        rw [get?_id_of_create hc] at h
        cases h
      simp [step, hc, get?_of_create hc, hne, h]
  | pass policy at_ =>
    refine ⟨a.afterPass policy at_, get_eq_ok_iff.2 ?_, ?_⟩
    · simp [step, get?_advanceOpen, h]
    · rcases a.afterPass_eq_or_moveTo policy at_ with ha | ⟨status, he, ha⟩
      · exact .inl ha
      · exact .inr ⟨policy, at_, status, rfl, he, ha⟩
  | read _ => exact ⟨a, get_eq_ok_iff.2 h, .inl rfl⟩

/-- An operation that is no pass keeps every order. -/
theorem get?_step_of_isPass_eq_false {store : OrderStore} {op : Op}
    (h : op.isPass = false) {id : OrderId} {order : Order} (ho : store.get? id = some order) :
    (store.step op).get? id = some order := by
  obtain ⟨after, hget, rfl | ⟨policy, at_, status, rfl, -, -⟩⟩ := get_step (get_eq_ok_iff.2 ho) op
  · exact get_eq_ok_iff.1 hget
  · cases h

theorem get_run {store : OrderStore} {id : OrderId} {a : Order} (h : store.get id = .ok a)
    (ops : List Op) : ∃ b, (store.run ops).get id = .ok b ∧ a.Ages b := by
  induction ops generalizing store a with
  | nil => exact ⟨a, h, .refl⟩
  | cons op ops ih =>
    obtain ⟨b, hb, hab⟩ := get_step h op
    obtain ⟨c, hc, hbc⟩ := ih hb
    refine ⟨c, hc, ?_⟩
    rcases hab with rfl | ⟨policy, at_, status, -, he, rfl⟩
    · exact hbc
    · exact .head (.along at_ he) hbc

theorem get_of_create {store after : OrderStore} {draws : List OrderId} {new : NewOrder}
    {now : Instant} {order : Order} (h : store.create draws new now = some (order, after)) :
    after.get order.id = .ok order := by
  rw [get_eq_ok_iff, get?_of_create h, if_pos rfl]

/-! ## Readings -/

theorem eq_get_of_mem_reading {store : OrderStore} {op : Op}
    {r : OrderId × Except StoreError Order} (h : r ∈ store.reading op) : r.2 = store.get r.1 := by
  cases op with
  | create => cases h
  | pass => cases h
  | read id => rw [List.mem_singleton.1 h]

/-- Every reading of a run is one of the store that a part of the run made. -/
theorem exists_run_of_mem_readings {store : OrderStore} {ops : List Op}
    {r : OrderId × Except StoreError Order} (h : r ∈ store.readings ops) :
    ∃ part, r.2 = (store.run part).get r.1 := by
  induction ops generalizing store with
  | nil => cases h
  | cons op ops ih =>
    rcases List.mem_append.1 h with h | h
    · exact ⟨[], eq_get_of_mem_reading h⟩
    · obtain ⟨part, hp⟩ := ih h
      exact ⟨op :: part, hp⟩

/-- How an order that was read as `a` may be read later. -/
structure LaterReading (a b : Order) : Prop where
  /-- The status is the same, or the lifecycle leads to it. -/
  reaches : Relation.ReflTransGen OrderStatus.Edge a.status b.status
  /-- A filled or rejected order never changes again. -/
  final : a.status = .filled ∨ a.status = .rejected → b = a
  /-- What was fixed at the creation stays. -/
  sameTerms : a.SameTerms b

theorem laterReading_of_ages {a b : Order} (h : a.Ages b) : LaterReading a b :=
  ⟨h.reaches, fun ht => h.eq_of_terminal (OrderStatus.isTerminal_iff.2 ht), h.sameTerms⟩

theorem get_run_laterReading {store : OrderStore} {id : OrderId} {a : Order}
    (h : store.get id = .ok a) (ops : List Op) :
    ∃ b, (store.run ops).get id = .ok b ∧ LaterReading a b := by
  obtain ⟨b, hb, hab⟩ := get_run h ops
  exact ⟨b, hb, laterReading_of_ages hab⟩

/-- Readings of one order follow each other along its lifecycle. -/
theorem pairwise_readings (store : OrderStore) (ops : List Op) :
    (store.readings ops).Pairwise fun x y => x.1 = y.1 → ∀ a, x.2 = .ok a →
      ∃ b, y.2 = .ok b ∧ LaterReading a b := by
  induction ops generalizing store with
  | nil => exact List.Pairwise.nil
  | cons op ops ih =>
    refine List.pairwise_append.2 ⟨?_, ih (store.step op), fun x hx y hy hxy a ha => ?_⟩
    · cases op <;> simp [reading]
    · -- the earlier reading is of the store before `op`, the later one of a store that a run from
      -- there made
      rw [eq_get_of_mem_reading hx] at ha
      obtain ⟨part, hp⟩ := exists_run_of_mem_readings hy
      rw [hp, ← hxy]
      exact get_run_laterReading ha (op :: part)

/-- **What is read of an order in the course of any run.** An order that was stored is found ever
after. Of two readings of one order the later one finds it too, further along the lifecycle or where
it was. And it is only a pass that moves an order, by one edge. -/
theorem readings_along_lifecycle (store : OrderStore) (ops : List Op) :
    (∀ draws new now order after, store.create draws new now = some (order, after) →
      ∃ b, (after.run ops).get order.id = .ok b ∧ LaterReading order b) ∧
    ((store.readings ops).Pairwise fun x y => x.1 = y.1 → ∀ a, x.2 = .ok a →
      ∃ b, y.2 = .ok b ∧ LaterReading a b) ∧
    ∀ op id a, (store.run ops).get id = .ok a →
      ∃ b, ((store.run ops).step op).get id = .ok b ∧
        match op with
        | .create .. => b = a
        | .pass _ at_ => b = a ∨
          ∃ status, OrderStatus.Edge a.status status ∧ b = a.moveTo status at_
        | .read _ => b = a := by
  refine ⟨fun draws new now order after h => get_run_laterReading (get_of_create h) ops,
    pairwise_readings store ops, fun op id a ha => ?_⟩
  obtain ⟨b, hb, hab⟩ := get_step ha op
  refine ⟨b, hb, ?_⟩
  rcases hab with rfl | ⟨policy, at_, status, rfl, he, hm⟩
  · cases op
    · rfl
    · exact .inl rfl
    · rfl
  · exact .inr ⟨status, he, hm⟩

end OrderDesk.OrderStore
