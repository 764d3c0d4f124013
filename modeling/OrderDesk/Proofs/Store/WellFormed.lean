import Mathlib.Data.List.Induction
import OrderDesk.Proofs.Order.Terms
import OrderDesk.Proofs.Store.Pass

/-!
# Where stored orders come from

Every stored order is led back to the operations that made it: the creation that answered with it
(`Born`) and, once its status has changed, the pass that set the status it has (`SetBy`).

* `origin_of_get?_step`: an order in the store after an operation was there before, was created by
  it, or was moved by it along one edge.
* `born_of_get?`, `dated_of_get?`: the same for a whole run, by induction on its last operation.
* `ids_run`: a store holds one order for each creation, in their order.
* `run_wellFormed`: what all of this says of the orders of a store whose terms were all checked.
-/

namespace OrderDesk.OrderStore

/-! ## One operation -/

/-- Where the order under an identifier comes from, after an operation. -/
inductive Origin (store : OrderStore) (id : OrderId) : Op → Order → Prop
  /-- It lay there before. -/
  | kept {op : Op} {order : Order} : store.get? id = some order → Origin store id op order
  /-- The operation is the creation that answered with it. -/
  | created {draws : List OrderId} {new : NewOrder} {now : Instant} :
      store.get? id = none →
      (store.create draws new now).map Prod.fst = some (Order.create id new now) →
      Origin store id (.create draws new now) (Order.create id new now)
  /-- The operation is a pass that moved the order that lay there. -/
  | moved {policy : Policy} {at_ : Instant} {earlier : Order} {status : OrderStatus} :
      store.get? id = some earlier → OrderStatus.Edge earlier.status status →
      Origin store id (.pass policy at_) (earlier.moveTo status at_)

theorem origin_of_get?_step {store : OrderStore} {op : Op} {id : OrderId} {order : Order}
    (h : (store.step op).get? id = some order) : store.Origin id op order := by
  cases op with
  | create draws new now =>
    cases hc : store.create draws new now with
    | none => exact .kept (by simpa [step, hc] using h)
    | some pair =>
      obtain ⟨fresh, after⟩ := pair
      have hnone := get?_id_of_create hc
      have hget : (if id = fresh.id then some fresh else store.get? id) = some order := by
        rw [← get?_of_create hc]
        simpa [step, hc] using h
      by_cases hid : id = fresh.id
      · subst hid
        obtain ⟨id, -, rfl, -⟩ := create_eq_some_iff.1 hc
        obtain rfl : Order.create id new now = order := by simpa using hget
        exact .created hnone (by simp [hc])
      · exact .kept (by simpa [hid] using hget)
  | pass policy at_ =>
    rw [step, get?_advanceOpen, Option.map_eq_some_iff] at h
    obtain ⟨earlier, hearlier, rfl⟩ := h
    rcases earlier.afterPass_eq_or_moveTo policy at_ with heq | ⟨status, hedge, heq⟩
    · rw [heq]
      exact .kept hearlier
    · rw [heq]
      exact .moved hearlier hedge
  | read _ => exact .kept h

/-! ## The creation of an order -/

/-- After some operations, the next one is the creation that answers with the order, under its
identifier and with its terms. -/
def CreatedBy (before : List Op) (op : Op) (order : Order) : Prop :=
  ∃ draws new,
    op = .create draws new order.createdAt ∧
    ((empty.run before).create draws new order.createdAt).map Prod.fst =
      some (Order.create order.id new order.createdAt) ∧
    (Order.create order.id new order.createdAt).SameTerms order

theorem CreatedBy.of_sameTerms {before : List Op} {op : Op} {a b : Order}
    (h : CreatedBy before op a) (hab : a.SameTerms b) : CreatedBy before op b := by
  obtain ⟨draws, new, hop, hanswer, hterms⟩ := h
  rw [← hab.createdAt] at hop hanswer hterms
  rw [← hab.id] at hanswer hterms
  exact ⟨draws, new, hop, hanswer, hterms.trans hab⟩

/-- One of the operations is the creation that answered with the order. -/
def Born (ops : List Op) (order : Order) : Prop :=
  ∃ before op after, ops = before ++ op :: after ∧ CreatedBy before op order

theorem Born.of_sameTerms {ops : List Op} {a b : Order} (h : Born ops a) (hab : a.SameTerms b) :
    Born ops b := by
  obtain ⟨before, op, after, hops, hcreated⟩ := h
  exact ⟨before, op, after, hops, hcreated.of_sameTerms hab⟩

theorem Born.append {ops : List Op} {order : Order} (h : Born ops order) (ops' : List Op) :
    Born (ops ++ ops') order := by
  obtain ⟨before, op, after, rfl, hcreated⟩ := h
  exact ⟨before, op, after ++ ops', by simp, hcreated⟩

theorem run_concat (store : OrderStore) (ops : List Op) (op : Op) :
    store.run (ops ++ [op]) = (store.run ops).step op := by
  rw [run_append]
  rfl

theorem born_of_get? {ops : List Op} {id : OrderId} {order : Order}
    (h : (empty.run ops).get? id = some order) : Born ops order := by
  induction ops using List.reverseRecOn generalizing order with
  | nil => cases h
  | append_singleton ops op ih =>
    rw [run_concat] at h
    cases origin_of_get?_step h with
    | kept hkept => exact (ih hkept).append _
    | created _ hanswer => exact ⟨ops, _, [], rfl, _, _, rfl, hanswer, .refl _⟩
    | @moved _ at_ _ _ hearlier hedge =>
      exact ((ih hearlier).append _).of_sameTerms (Order.Moves.along at_ hedge).sameTerms

theorem Born.sound {ops : List Op} {order : Order} (h : Born ops order)
    (hops : ∀ draws new now, .create draws new now ∈ ops → new.Accepted) :
    SoundTerms order.orderType order.price order.quantity := by
  obtain ⟨before, _, after, rfl, draws, new, rfl, -, hterms⟩ := h
  rw [hterms.orderType, hterms.price, hterms.quantity]
  exact (hops draws new order.createdAt (by simp)).sound

/-! ## The last change of an order -/

/-- After some operations, the next one is a pass that moves an order to the one given. -/
def MovedBy (before : List Op) (op : Op) (order : Order) (at_ : Instant) : Prop :=
  ∃ policy earlier,
    op = .pass policy at_ ∧
    (empty.run before).get? order.id = some earlier ∧
    OrderStatus.Edge earlier.status order.status ∧
    order = earlier.moveTo order.status at_

/-- One of the operations is the pass that moved the order to the status that it has, and has kept
since. -/
def SetBy (ops : List Op) (order : Order) (at_ : Instant) : Prop :=
  ∃ before op after,
    ops = before ++ op :: after ∧
    MovedBy before op order at_ ∧
    ∀ part, part <+: after → (empty.run (before ++ op :: part)).get? order.id = some order

theorem SetBy.concat {ops : List Op} {order : Order} {at_ : Instant} (h : SetBy ops order at_)
    {op : Op} (hget : (empty.run (ops ++ [op])).get? order.id = some order) :
    SetBy (ops ++ [op]) order at_ := by
  obtain ⟨before, pass, after, rfl, hmoved, hsince⟩ := h
  refine ⟨before, pass, after ++ [op], by simp, hmoved, ?_⟩
  intro part hpart
  rcases List.prefix_concat_iff.1 hpart with rfl | hpart
  · simpa using hget
  · exact hsince part hpart

/-- The time of the last change is there as soon as there was one, and it is the time of the pass
that made it. -/
structure Dated (ops : List Op) (order : Order) : Prop where
  absent : order.updatedAt = none ↔ order.status = .created
  setBy : ∀ at_, order.updatedAt = some at_ → SetBy ops order at_

theorem id_of_get?_run {ops : List Op} {id : OrderId} {order : Order}
    (h : (empty.run ops).get? id = some order) : order.id = id :=
  (Reachable.empty.run ops).coherent.id_of_get? h

theorem dated_of_get? {ops : List Op} {id : OrderId} {order : Order}
    (h : (empty.run ops).get? id = some order) : Dated ops order := by
  induction ops using List.reverseRecOn generalizing order with
  | nil => cases h
  | append_singleton ops op ih =>
    have hown : (empty.run (ops ++ [op])).get? order.id = some order := by
      rw [id_of_get?_run h]
      exact h
    rw [run_concat] at h
    cases origin_of_get?_step h with
    | kept hkept =>
      have hbefore := ih hkept
      exact ⟨hbefore.absent, fun at_ hat => (hbefore.setBy at_ hat).concat hown⟩
    | created _ _ => exact ⟨by simp, fun at_ hat => by simp at hat⟩
    | @moved policy at_ earlier status hearlier hedge =>
      refine ⟨by simp [Order.moveTo, hedge.ne_created], fun at' hat => ?_⟩
      obtain rfl : at_ = at' := by simpa [Order.moveTo] using hat
      have hid := id_of_get?_run hearlier
      refine ⟨ops, _, [], rfl, ⟨policy, earlier, rfl, ?_, hedge, rfl⟩, fun part hpart => ?_⟩
      · exact hid ▸ hearlier
      · rw [List.prefix_nil.1 hpart]
        exact hown

/-! ## One order for each creation -/

/-- The order that an operation answers with, if it is a creation. -/
def created (store : OrderStore) : Op → List Order
  | .create draws new now => ((store.create draws new now).map Prod.fst).toList
  | .pass .. => []
  | .read _ => []

/-- The orders that the creations of a run answer with. -/
def creations (store : OrderStore) : List Op → List Order
  | [] => []
  | op :: ops => store.created op ++ (store.step op).creations ops

theorem ids_step (store : OrderStore) (op : Op) :
    (store.step op).entries.map Prod.fst =
      store.entries.map Prod.fst ++ (store.created op).map Order.id := by
  cases op with
  | create draws new now =>
    cases hc : store.create draws new now with
    | none => simp [step, created, hc]
    | some pair =>
      obtain ⟨order, after⟩ := pair
      obtain ⟨id, -, rfl, rfl⟩ := create_eq_some_iff.1 hc
      simp [step, created, hc]
  | pass policy at_ => simp [step, created, entries_advanceOpen, Function.comp_def]
  | read _ => simp [step, created]

theorem ids_run (store : OrderStore) (ops : List Op) :
    (store.run ops).entries.map Prod.fst =
      store.entries.map Prod.fst ++ (store.creations ops).map Order.id := by
  induction ops generalizing store with
  | nil => simp [creations]
  | cons op ops ih => simp [creations, ih, ids_step]

theorem size_run (store : OrderStore) (ops : List Op) :
    (store.run ops).size = store.size + (store.creations ops).length := by
  have h := congrArg List.length (ids_run store ops)
  simpa [size] using h

/-! ## All of it -/

/-- What holds of the order under an identifier. -/
structure WellFormed (ops : List Op) (id : OrderId) (order : Order) : Prop where
  named : order.id = id
  specified : order.status ≠ .unspecified
  terms : SoundTerms order.orderType order.price order.quantity
  born : Born ops order
  dated : Dated ops order

/-- **Stores are well formed.** After any run in which the terms of every creation were checked, an
order lies under its own identifier, with a status and with sound terms; it has a time of change
just when it is no longer as it was created, and that time is the one of the pass that set its
status. There is one order for each creation, under the identifier that the creation answered with,
and no identifier was used twice. What was stored at any time is stored still, as it was or moved
along its lifecycle. -/
theorem run_wellFormed (ops : List Op)
    (hops : ∀ draws new now, .create draws new now ∈ ops → new.Accepted) :
    (∀ entry ∈ (empty.run ops).entries, WellFormed ops entry.1 entry.2) ∧
    (empty.run ops).size = (empty.creations ops).length ∧
    (empty.run ops).entries.map Prod.fst = (empty.creations ops).map Order.id ∧
    ((empty.creations ops).map Order.id).Nodup ∧
    (∀ before after, ops = before ++ after → ∀ id earlier, (empty.run before).get id = .ok earlier →
      ∃ order, (empty.run ops).get id = .ok order ∧ earlier.Ages order) := by
  have hs := (Reachable.empty.run ops).coherent
  have hids : (empty.run ops).entries.map Prod.fst = (empty.creations ops).map Order.id := by
    simpa using ids_run empty ops
  refine ⟨fun entry he => ?_, by simpa [size] using size_run empty ops, hids, hids ▸ hs.nodup, ?_⟩
  · have hget := get?_of_mem hs.nodup he
    have hborn := born_of_get? hget
    exact
      { named := hs.named entry he
        specified := hs.specified entry he
        terms := hborn.sound hops
        born := hborn
        dated := dated_of_get? hget }
  · rintro before after rfl id earlier hearlier
    rw [run_append]
    exact get_run hearlier after

/-- A run in which a used identifier is drawn, a creation draws no other, and an order is held. -/
def heldAndTaken : List Op :=
  let limit : NewOrder := ⟨⟨.nil⟩, ⟨.nil⟩, .limit, .ofNat 3, 5⟩
  let market : NewOrder := ⟨⟨.nil⟩, ⟨.nil⟩, .market, .ofNat 0, 1⟩
  [.create [⟨.ofNat 1⟩] limit .epoch, .pass (Policy.fixed .hold) ⟨1, 0, by decide⟩,
    .create [⟨.ofNat 1⟩, ⟨.ofNat 2⟩] market ⟨2, 0, by decide⟩,
    .create [⟨.ofNat 1⟩] market ⟨2, 0, by decide⟩,
    .pass (Policy.fixed .hold) ⟨3, 0, by decide⟩]

theorem run_wellFormed_heldAndTaken :
    (∀ draws new now, .create draws new now ∈ heldAndTaken → new.Accepted) ∧
    (∀ entry ∈ (empty.run heldAndTaken).entries, WellFormed heldAndTaken entry.1 entry.2) ∧
    (empty.run heldAndTaken).size = (empty.creations heldAndTaken).length ∧
    (empty.run heldAndTaken).entries.map (fun entry => (entry.2.status, entry.2.updatedAt)) =
      [(.pending, some ⟨1, 0, by decide⟩), (.pending, some ⟨3, 0, by decide⟩)] := by
  have hops : ∀ draws new now, .create draws new now ∈ heldAndTaken → new.Accepted := by
    intro draws new now h
    refine ⟨new.userId, new.marketId, new.orderType, new.price, new.quantity, ?_⟩
    simp only [heldAndTaken, List.mem_cons, Op.create.injEq, reduceCtorEq, List.not_mem_nil,
      or_false, false_or] at h
    rcases h with ⟨-, rfl, -⟩ | ⟨-, rfl, -⟩ | ⟨-, rfl, -⟩ <;> rfl
  obtain ⟨hentries, hsize, -⟩ := run_wellFormed heldAndTaken hops
  exact ⟨hops, hentries, hsize, by decide⟩

end OrderDesk.OrderStore
