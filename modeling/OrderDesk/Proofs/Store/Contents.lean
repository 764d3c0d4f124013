import OrderDesk.Order.Store
import OrderDesk.Proofs.Order.Lifecycle

/-!
# What a store holds

What the operations of the store do to the order under each identifier: a creation puts a new order
under an identifier that was not in use and leaves the others (`get?_of_create`), and a pass
replaces every order by what a pass makes of it (`get?_advanceOpen`).

`OrderStore.Coherent` is what every store keeps that only these operations made: an identifier is in
use once, an order lies under its own, and no order is without a status.
-/

namespace OrderDesk.OrderStore

/-! ## Looking orders up -/

theorem get?_mk_append (store : OrderStore) (id k : OrderId) (order : Order) :
    (OrderStore.mk (store.entries ++ [(id, order)])).get? k =
      (store.get? k).or (if k = id then some order else none) := by
  simp only [get?, List.lookup_append, List.lookup_cons, List.lookup_nil]
  by_cases hk : k = id
  · simp [hk]
  · simp [hk, beq_eq_false_iff_ne.2 hk]

theorem lookup_map_snd (f : OrderId → Order → Order) (l : List (OrderId × Order)) (k : OrderId) :
    (l.map fun entry => (entry.1, f entry.1 entry.2)).lookup k = (l.lookup k).map (f k) := by
  induction l with
  | nil => rfl
  | cons entry l ih =>
    obtain ⟨id, order⟩ := entry
    simp only [List.map_cons, List.lookup_cons, ih]
    cases h : k == id with
    | false => rfl
    | true => rw [beq_iff_eq.1 h]; rfl

theorem get_eq_ok_iff {store : OrderStore} {id : OrderId} {order : Order} :
    store.get id = .ok order ↔ store.get? id = some order := by
  unfold get
  cases store.get? id <;> simp

theorem get?_eq_none_iff {store : OrderStore} {id : OrderId} :
    store.get? id = none ↔ id ∉ store.entries.map Prod.fst := by
  simp only [get?, List.lookup_eq_none_iff, List.mem_map, not_exists, not_and, bne_iff_ne]
  exact ⟨fun h entry he heq => h entry he heq.symm, fun h entry he heq => h entry he heq.symm⟩

theorem contains_eq_false_iff {store : OrderStore} {id : OrderId} :
    store.contains id = false ↔ store.get? id = none := by
  simp [contains]

theorem mem_of_get? {store : OrderStore} {id : OrderId} {order : Order}
    (h : store.get? id = some order) : (id, order) ∈ store.entries := by
  obtain ⟨l₁, l₂, hl, -⟩ := List.lookup_eq_some_iff.1 h
  rw [hl]
  simp

/-! ## Creation -/

variable {store after : OrderStore} {draws : List OrderId} {new : NewOrder} {now : Instant}
  {order : Order}

/-- A creation takes the first identifier drawn that is not in use. -/
theorem create_eq_some_iff : store.create draws new now = some (order, after) ↔
    ∃ id, draws.find? (fun id => !store.contains id) = some id ∧
      order = Order.create id new now ∧ after = ⟨store.entries ++ [(id, order)]⟩ := by
  simp only [create, Option.map_eq_some_iff, Prod.mk.injEq]
  constructor
  · rintro ⟨id, hf, rfl, rfl⟩
    exact ⟨id, hf, rfl, rfl⟩
  · rintro ⟨id, hf, rfl, rfl⟩
    exact ⟨id, hf, rfl, rfl⟩

/-- A creation succeeds as soon as an identifier is drawn that is not in use. -/
theorem exists_create (h : ∃ id ∈ draws, store.get? id = none) (new : NewOrder) (now : Instant) :
    ∃ order after, store.create draws new now = some (order, after) := by
  obtain ⟨id, hm, hn⟩ := h
  have hs : (draws.find? fun id => !store.contains id).isSome = true := by
    rw [List.find?_isSome]
    exact ⟨id, hm, by simp [contains_eq_false_iff.2 hn]⟩
  obtain ⟨found, hf⟩ := Option.isSome_iff_exists.1 hs
  exact ⟨_, _, create_eq_some_iff.2 ⟨found, hf, rfl, rfl⟩⟩

theorem get?_id_of_create (h : store.create draws new now = some (order, after)) :
    store.get? order.id = none := by
  obtain ⟨id, hf, rfl, -⟩ := create_eq_some_iff.1 h
  have := List.find?_some hf
  exact contains_eq_false_iff.1 (by simpa using this)

theorem get?_of_create (h : store.create draws new now = some (order, after)) (k : OrderId) :
    after.get? k = if k = order.id then some order else store.get? k := by
  have hn := get?_id_of_create h
  obtain ⟨id, -, rfl, rfl⟩ := create_eq_some_iff.1 h
  rw [get?_mk_append]
  by_cases hk : k = id
  · rw [Order.id_create] at hn ⊢
    simp [hk, hn]
  · simp [hk]

theorem size_of_create (h : store.create draws new now = some (order, after)) :
    after.size = store.size + 1 := by
  obtain ⟨id, -, -, rfl⟩ := create_eq_some_iff.1 h
  simp [size]

/-! ## A pass -/

variable (policy : Policy) (at_ : Instant)

/-- A pass does to an entry what it is to do, also to one that it does not ask to advance. -/
theorem advanceEntry_eq (entry : OrderId × Order) : advanceEntry policy at_ entry =
    ((entry.1, entry.2.afterPass policy at_), entry.2.changeIn policy at_) := by
  unfold advanceEntry
  split
  · rw [Order.advance_eq]
  · next h =>
    have ha : entry.2.afterPass policy at_ = entry.2 := Order.afterPass_of_next?_eq_none at_
      (Order.next?_eq_none_of_not_open (by simpa using h))
    rw [ha, (entry.2.changeIn_eq_none_iff policy at_).2 ha]

theorem entries_advanceOpen (store : OrderStore) : (store.advanceOpen policy at_).1.entries =
    store.entries.map fun entry => (entry.1, entry.2.afterPass policy at_) := by
  simp [advanceOpen, advanceEntry_eq, Function.comp_def]

theorem changes_advanceOpen (store : OrderStore) : (store.advanceOpen policy at_).2 =
    store.entries.filterMap fun entry => entry.2.changeIn policy at_ := by
  simp [advanceOpen, advanceEntry_eq, List.filterMap_map, Function.comp_def]

theorem get?_advanceOpen (store : OrderStore) (id : OrderId) :
    (store.advanceOpen policy at_).1.get? id =
      (store.get? id).map (Order.afterPass policy at_) := by
  rw [get?, entries_advanceOpen]
  exact lookup_map_snd (fun _ order => order.afterPass policy at_) store.entries id

/-! ## Coherence -/

/-- What every store keeps that only the operations made. -/
structure Coherent (store : OrderStore) : Prop where
  /-- An identifier is in use once. -/
  nodup : (store.entries.map Prod.fst).Nodup
  /-- An order lies under its own identifier. -/
  named : ∀ entry ∈ store.entries, entry.2.id = entry.1
  /-- No order is without a status. -/
  specified : ∀ entry ∈ store.entries, entry.2.status ≠ .unspecified

namespace Coherent

theorem empty : Coherent empty :=
  ⟨List.nodup_nil, fun _ h => absurd h List.not_mem_nil, fun _ h => absurd h List.not_mem_nil⟩

theorem create (hs : store.Coherent) (h : store.create draws new now = some (order, after)) :
    after.Coherent := by
  have hn := get?_eq_none_iff.1 (get?_id_of_create h)
  obtain ⟨id, -, rfl, rfl⟩ := create_eq_some_iff.1 h
  refine ⟨?_, fun entry he => ?_, fun entry he => ?_⟩
  · simp only [List.map_append, List.map_cons, List.map_nil]
    rw [List.nodup_append]
    refine ⟨hs.nodup, by simp, fun a ha b hb => ?_⟩
    rw [List.mem_singleton.1 hb]
    rintro rfl
    exact hn ha
  · rcases List.mem_append.1 he with he | he
    · exact hs.named entry he
    · rw [List.mem_singleton.1 he, Order.id_create]
  · rcases List.mem_append.1 he with he | he
    · exact hs.specified entry he
    · rw [List.mem_singleton.1 he, Order.status_create]
      simp

theorem advanceOpen (hs : store.Coherent) : (store.advanceOpen policy at_).1.Coherent := by
  have he := entries_advanceOpen policy at_ store
  refine ⟨?_, ?_, ?_⟩
  · rw [he, List.map_map]
    exact hs.nodup
  · rw [he]
    intro entry hm
    obtain ⟨old, ho, rfl⟩ := List.mem_map.1 hm
    exact ((old.2.ages_afterPass policy at_).sameTerms.id).trans (hs.named old ho)
  · rw [he]
    intro entry hm
    obtain ⟨old, ho, rfl⟩ := List.mem_map.1 hm
    exact (old.2.ages_afterPass policy at_).ne_unspecified (hs.specified old ho)

theorem id_of_get? (hs : store.Coherent) {id : OrderId} (h : store.get? id = some order) :
    order.id = id :=
  hs.named _ (mem_of_get? h)

theorem status_of_get? (hs : store.Coherent) {id : OrderId} (h : store.get? id = some order) :
    order.status ≠ .unspecified :=
  hs.specified _ (mem_of_get? h)

end Coherent

end OrderDesk.OrderStore
