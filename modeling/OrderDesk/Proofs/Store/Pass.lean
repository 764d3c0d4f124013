import Mathlib.Data.List.Basic
import OrderDesk.Order.Policy
import OrderDesk.Proofs.Store.History

/-!
# What one pass does

A pass over a store, said for the store as a whole: which order lies under each identifier
afterwards and which changes are reported.

`OrderStore.passAlong` is a pass as it goes on: it visits the identifiers one after the other, moves
each open order in its place and notes the change. `passAlong_eq` says that it comes to the same in
whatever order the identifiers are visited. `advanceOpen_effect` puts all of it together.
-/

namespace OrderDesk.OrderStore

variable (policy : Policy) (at_ : Instant)

/-! ## Visits in any order -/

/-- Puts an order in the place of the one under its identifier. -/
def put (store : OrderStore) (id : OrderId) (order : Order) : OrderStore :=
  ⟨store.entries.map fun entry => if entry.1 = id then (id, order) else entry⟩

/-- Visits one order in a pass that is under way. -/
def visit (soFar : OrderStore × List Transition) (id : OrderId) : OrderStore × List Transition :=
  match soFar.1.get? id with
  | none => soFar
  | some order =>
    if order.status.isOpen then
      let (moved, change) := order.advance policy at_
      (soFar.1.put id moved, soFar.2 ++ change.toList)
    else soFar

/-- A pass that visits some identifiers one after the other. -/
def passAlong (store : OrderStore) (visits : List OrderId) : OrderStore × List Transition :=
  visits.foldl (visit policy at_) (store, [])

theorem get?_of_mem {store : OrderStore} (hn : (store.entries.map Prod.fst).Nodup)
    {entry : OrderId × Order} (h : entry ∈ store.entries) :
    store.get? entry.1 = some entry.2 := by
  obtain ⟨l₁, l₂, hl⟩ := List.append_of_mem h
  rw [get?, List.lookup_eq_some_iff]
  refine ⟨l₁, l₂, hl, fun other ho => ?_⟩
  rw [hl, List.map_append, List.nodup_append] at hn
  have hne := hn.2.2 other.1 (List.mem_map_of_mem ho) entry.1 (by simp)
  simpa using Ne.symm hne

theorem eq_of_mem_of_get? {store : OrderStore} (hn : (store.entries.map Prod.fst).Nodup)
    {entry : OrderId × Order} (h : entry ∈ store.entries) {order : Order}
    (ho : store.get? entry.1 = some order) : entry.2 = order := by
  rw [get?_of_mem hn h] at ho
  exact Option.some.inj ho

/-- What becomes of an entry once some identifiers were visited. -/
def visited (visits : List OrderId) (entry : OrderId × Order) : OrderId × Order :=
  (entry.1, if entry.1 ∈ visits then entry.2.afterPass policy at_ else entry.2)

theorem map_visited_eq_self {visits : List OrderId} {entries : List (OrderId × Order)}
    (h : ∀ entry ∈ entries, entry.1 ∈ visits → entry.2.afterPass policy at_ = entry.2) :
    entries.map (visited policy at_ visits) = entries := by
  refine (List.map_congr_left fun entry he => ?_).trans (List.map_id entries)
  unfold visited
  split
  · next hm => rw [h entry he hm]; rfl
  · rfl

theorem keys_map_visited (visits : List OrderId) (entries : List (OrderId × Order)) :
    (entries.map (visited policy at_ visits)).map Prod.fst = entries.map Prod.fst := by
  rw [List.map_map]
  rfl

theorem get?_map_visited (store : OrderStore) (visits : List OrderId) (k : OrderId) :
    (OrderStore.mk (store.entries.map (visited policy at_ visits))).get? k =
      (store.get? k).map fun order =>
        if k ∈ visits then order.afterPass policy at_ else order :=
  lookup_map_snd (fun id order => if id ∈ visits then order.afterPass policy at_ else order)
    store.entries k

/-- A visit moves the order visited and notes its change. -/
theorem visit_eq {store : OrderStore} (hn : (store.entries.map Prod.fst).Nodup)
    (changes : List Transition) (id : OrderId) : visit policy at_ (store, changes) id =
      (⟨store.entries.map (visited policy at_ [id])⟩,
        changes ++ ((store.get? id).bind (Order.changeIn policy at_)).toList) := by
  unfold visit
  cases hg : store.get? id with
  | none =>
    have hm := get?_eq_none_iff.1 hg
    have hself : store.entries.map (visited policy at_ [id]) = store.entries :=
      map_visited_eq_self policy at_ fun entry he hid =>
        absurd (List.mem_map_of_mem he) (List.mem_singleton.1 hid ▸ hm)
    simp [hself]
  | some order =>
    have hentry : ∀ entry ∈ store.entries, entry.1 = id → entry.2 = order :=
      fun entry he hid => eq_of_mem_of_get? hn he (hid ▸ hg)
    by_cases ho : order.status.isOpen = true
    · have hput : store.put id (order.afterPass policy at_) =
          ⟨store.entries.map (visited policy at_ [id])⟩ := by
        refine congrArg OrderStore.mk (List.map_congr_left fun entry he => ?_)
        by_cases hid : entry.1 = id
        · simp [visited, hid, hentry entry he hid]
        · simp [visited, hid]
      simp [ho, Order.advance_eq, hput]
    · have ha : order.afterPass policy at_ = order := Order.afterPass_of_next?_eq_none at_
        (Order.next?_eq_none_of_not_open (by simpa using ho))
      have hself : store.entries.map (visited policy at_ [id]) = store.entries :=
        map_visited_eq_self policy at_ fun entry he hid => by
          rw [hentry entry he (List.mem_singleton.1 hid), ha]
      simp [ho, hself, (order.changeIn_eq_none_iff policy at_).2 ha]

/-- Along any visits the orders visited are moved and no others, and their changes are noted in the
order of the visits. -/
theorem foldl_visit {store : OrderStore} (hn : (store.entries.map Prod.fst).Nodup)
    {visits : List OrderId} (hv : visits.Nodup) (changes : List Transition) :
    visits.foldl (visit policy at_) (store, changes) =
      (⟨store.entries.map (visited policy at_ visits)⟩,
        changes ++
          visits.filterMap fun id => (store.get? id).bind (Order.changeIn policy at_)) := by
  induction visits generalizing store changes with
  | nil =>
    have hself : store.entries.map (visited policy at_ []) = store.entries :=
      map_visited_eq_self policy at_ fun _ _ h => absurd h List.not_mem_nil
    simp [hself]
  | cons id visits ih =>
    obtain ⟨hid, hv⟩ := List.nodup_cons.1 hv
    rw [List.foldl_cons, visit_eq policy at_ hn, ih (by rwa [keys_map_visited]) hv]
    refine Prod.ext (congrArg OrderStore.mk ?_) ?_
    · rw [List.map_map]
      refine List.map_congr_left fun entry _ => ?_
      by_cases he : entry.1 = id
      · simp [visited, he, hid]
      · simp [visited, he]
    · have hrest : ∀ k ∈ visits, (OrderStore.mk
          (store.entries.map (visited policy at_ [id]))).get? k = store.get? k := by
        intro k hk
        have hne : k ≠ id := fun h => hid (h ▸ hk)
        rw [get?_map_visited]
        simp [hne]
      have hchanges := List.filterMap_congr fun k hk =>
        congrArg (·.bind (Order.changeIn policy at_)) (hrest k hk)
      simp only [List.append_assoc, hchanges]
      cases hc : (store.get? id).bind (Order.changeIn policy at_) <;> simp [hc]

/-- Whatever the order of the visits, a pass that visits every order once comes to the same store,
and to the same changes up to their order. -/
theorem passAlong_eq {store : OrderStore} (hn : (store.entries.map Prod.fst).Nodup)
    {visits : List OrderId} (hv : visits.Perm (store.entries.map Prod.fst)) :
    (store.passAlong policy at_ visits).1 = (store.advanceOpen policy at_).1 ∧
      (store.passAlong policy at_ visits).2.Perm (store.advanceOpen policy at_).2 := by
  rw [passAlong, foldl_visit policy at_ hn (hv.nodup_iff.2 hn)]
  constructor
  · have hentries : store.entries.map (visited policy at_ visits) =
        (store.advanceOpen policy at_).1.entries := by
      rw [entries_advanceOpen]
      refine List.map_congr_left fun entry he => ?_
      have hm : entry.1 ∈ visits := hv.mem_iff.2 (List.mem_map_of_mem he)
      simp [visited, hm]
    exact congrArg OrderStore.mk hentries
  · have hchanges : (store.entries.map Prod.fst).filterMap
        (fun id => (store.get? id).bind (Order.changeIn policy at_)) =
          (store.advanceOpen policy at_).2 := by
      rw [List.filterMap_map, changes_advanceOpen]
      refine List.filterMap_congr fun entry he => ?_
      simp [get?_of_mem hn he]
    rw [← hchanges, List.nil_append]
    exact hv.filterMap _

/-! ## Entries in any order -/

theorem get?_eq_some_iff {store : OrderStore} (hn : (store.entries.map Prod.fst).Nodup)
    {id : OrderId} {order : Order} : store.get? id = some order ↔ (id, order) ∈ store.entries :=
  ⟨mem_of_get?, fun h => get?_of_mem hn h⟩

/-- An order is found wherever its entry lies. -/
theorem get?_of_perm {store : OrderStore} (hn : (store.entries.map Prod.fst).Nodup)
    {entries : List (OrderId × Order)} (hp : entries.Perm store.entries) (id : OrderId) :
    (OrderStore.mk entries).get? id = store.get? id := by
  have hn' : ((OrderStore.mk entries).entries.map Prod.fst).Nodup :=
    (hp.map Prod.fst).nodup_iff.2 hn
  refine Option.ext fun order => ?_
  rw [get?_eq_some_iff hn', get?_eq_some_iff hn]
  exact hp.mem_iff

/-- The entries under one identifier are the one order that is found there. -/
theorem filter_entries {store : OrderStore} (hn : (store.entries.map Prod.fst).Nodup)
    (id : OrderId) : store.entries.filter (fun entry => decide (entry.1 = id)) =
      ((store.get? id).map fun order => (id, order)).toList := by
  obtain ⟨entries⟩ := store
  induction entries with
  | nil => rfl
  | cons entry entries ih =>
    obtain ⟨k, order⟩ := entry
    obtain ⟨hk, hn⟩ := List.nodup_cons.1 hn
    simp only [List.filter_cons, get?, List.lookup_cons]
    by_cases hkid : k = id
    · subst hkid
      have hrest := ih hn
      rw [get?_eq_none_iff.2 hk] at hrest
      simpa using hrest
    · simpa [get?, hkid, beq_eq_false_iff_ne.2 (Ne.symm hkid)] using ih hn

/-! ## The effect -/

/-- What a pass has done to a store. -/
structure PassEffect (store after : OrderStore) (changes : List Transition) : Prop where
  /-- The same identifiers are in use. -/
  ids : after.entries.map Prod.fst = store.entries.map Prod.fst
  /-- Under each of them lies what a pass makes of the order that lay there. -/
  orders : ∀ id, after.get? id = (store.get? id).map (Order.afterPass policy at_)
  /-- Of each of them the one change is reported, if there is one, and nothing else. -/
  changes : ∀ id, changes.filter (fun t => decide (t.orderId = id)) =
    ((store.get? id).bind (Order.changeIn policy at_)).toList

theorem filter_changes {store : OrderStore} (hs : store.Coherent) (id : OrderId) :
    (store.advanceOpen policy at_).2.filter (fun t => decide (t.orderId = id)) =
      ((store.get? id).bind (Order.changeIn policy at_)).toList := by
  have hentry : ∀ entry ∈ store.entries,
      (entry.2.changeIn policy at_).filter (fun t => decide (t.orderId = id)) =
        if decide (entry.1 = id) then entry.2.changeIn policy at_ else none := by
    intro entry he
    cases hc : entry.2.changeIn policy at_ with
    | none => simp
    | some t =>
      have ht := (entry.2.orderId_of_changeIn policy at_ hc).trans (hs.named entry he)
      by_cases hid : entry.1 = id <;> simp [Option.filter, ht, hid]
  rw [changes_advanceOpen, List.filter_filterMap, List.filterMap_congr hentry,
    ← List.filterMap_filter, filter_entries hs.nodup]
  cases store.get? id with
  | none => rfl
  | some order => cases hc : order.changeIn policy at_ <;> simp [hc]

theorem passEffect_advanceOpen {store : OrderStore} (hs : store.Coherent) :
    PassEffect policy at_ store (store.advanceOpen policy at_).1 (store.advanceOpen policy at_).2 :=
  { ids := by rw [entries_advanceOpen, List.map_map]; rfl
    orders := get?_advanceOpen policy at_ store
    changes := filter_changes policy at_ hs }

/-- A pass leaves a store alone whose orders are all filled or rejected. -/
theorem advanceOpen_of_terminal {store : OrderStore}
    (h : ∀ entry ∈ store.entries, entry.2.status.isTerminal = true) :
    store.advanceOpen policy at_ = (store, []) := by
  have hafter : ∀ entry ∈ store.entries, entry.2.afterPass policy at_ = entry.2 :=
    fun entry he => (entry.2.ages_afterPass policy at_).eq_of_terminal (h entry he)
  have hentries : (store.advanceOpen policy at_).1.entries = store.entries := by
    rw [entries_advanceOpen]
    refine (List.map_congr_left fun entry he => ?_).trans (List.map_id _)
    rw [hafter entry he]
    rfl
  have hchanges : (store.advanceOpen policy at_).2 = [] := by
    rw [changes_advanceOpen, List.filterMap_eq_nil_iff]
    exact fun entry he => (entry.2.changeIn_eq_none_iff policy at_).2 (hafter entry he)
  exact Prod.ext (congrArg OrderStore.mk hentries) hchanges

/-- **What a pass does.** It moves every order by its one step, under whatever policy, and reports
just these changes. Neither the order in which the orders are visited nor the one in which they are
kept makes a difference. Two passes, the second of which holds nothing, leave every order filled or
rejected, and a pass over such orders alone does nothing. -/
theorem advanceOpen_effect {store : OrderStore} (h : store.Reachable) (policy : Policy)
    (at_ : Instant) :
    PassEffect policy at_ store (store.advanceOpen policy at_).1 (store.advanceOpen policy at_).2 ∧
    (∀ visits : List OrderId, visits.Perm (store.entries.map Prod.fst) →
      (store.passAlong policy at_ visits).1 = (store.advanceOpen policy at_).1 ∧
      (store.passAlong policy at_ visits).2.Perm (store.advanceOpen policy at_).2) ∧
    (∀ entries : List (OrderId × Order), entries.Perm store.entries →
      (∀ id, ((OrderStore.mk entries).advanceOpen policy at_).1.get? id =
        (store.advanceOpen policy at_).1.get? id) ∧
      ((OrderStore.mk entries).advanceOpen policy at_).2.Perm (store.advanceOpen policy at_).2) ∧
    (∀ (policy' : Policy) (at' : Instant), (∀ order, policy' order ≠ .hold) → ∀ id order,
      ((store.advanceOpen policy at_).1.advanceOpen policy' at').1.get? id = some order →
        order.status.isTerminal = true) ∧
    ((∀ id order, store.get? id = some order → order.status.isTerminal = true) →
      store.advanceOpen policy at_ = (store, [])) := by
  have hs := h.coherent
  refine ⟨passEffect_advanceOpen policy at_ hs, fun visits => passAlong_eq policy at_ hs.nodup,
    fun entries hp => ⟨fun id => ?_, ?_⟩, fun policy' at' hhold id order ho => ?_, fun ht => ?_⟩
  · rw [get?_advanceOpen, get?_advanceOpen, get?_of_perm hs.nodup hp]
  · rw [changes_advanceOpen, changes_advanceOpen]
    exact hp.filterMap _
  · rw [get?_advanceOpen, get?_advanceOpen, Option.map_map] at ho
    obtain ⟨first, hf, rfl⟩ := Option.map_eq_some_iff.1 ho
    exact Order.isTerminal_afterPass _ _ _
      (first.two_le_stage_afterPass policy at_ (hs.status_of_get? hf)) (hhold _)
  · exact advanceOpen_of_terminal policy at_ fun entry he => ht _ _ (get?_of_mem hs.nodup he)

/-- A store with an order that waits and a new one, for which a used identifier was drawn first. -/
def waitingAndNew : OrderStore :=
  let new : NewOrder := ⟨⟨.nil⟩, ⟨.nil⟩, .limit, .ofNat 3, 5⟩
  empty.run
    [.create [⟨.ofNat 1⟩] new .epoch, .pass (Policy.fixed .hold) .epoch,
      .create [⟨.ofNat 1⟩, ⟨.ofNat 2⟩] new .epoch]

theorem advanceOpen_effect_waitingAndNew :
    PassEffect (Policy.fixed .fill) .epoch waitingAndNew
      (waitingAndNew.advanceOpen (Policy.fixed .fill) .epoch).1
      (waitingAndNew.advanceOpen (Policy.fixed .fill) .epoch).2 ∧
    (waitingAndNew.advanceOpen (Policy.fixed .fill) .epoch).2.map (fun t => (t.before, t.after)) =
      [(.pending, .filled), (.created, .pending)] :=
  ⟨(advanceOpen_effect ⟨_, rfl⟩ _ _).1, by decide⟩

end OrderDesk.OrderStore
