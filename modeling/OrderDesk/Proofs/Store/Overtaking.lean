import OrderDesk.Proofs.Store.WellFormed

/-!
# Creations that overtake passes

A creation and a pass both read the clock first and then wait for the store, which one of them
holds at a time. `Contention` is any number of them under way. Each turn lets one read the clock or
hold the store, so they may come to the store in another order than the one in which they read the
clock.

With a clock that never goes back, an order was last changed at its creation or later, unless its
whole creation fell between the two turns of the pass that changed it
(`createdAt_le_updatedAt_or_overtaken`). That does happen (`updatedAt_lt_createdAt_overtaken`).
-/

namespace OrderDesk.OrderStore

/-! ## Turns -/

/-- What someone is going to do with the store. -/
inductive Task where
  | create (draws : List OrderId) (new : NewOrder)
  | pass (policy : Policy)

/-- The operation that a task is, at the time that was read for it. -/
def Task.op : Task → Instant → Op
  | .create draws new, readAt => .create draws new readAt
  | .pass policy, readAt => .pass policy readAt

/-- Someone who has read the clock. -/
structure Caller where
  task : Task
  readAt : Instant
  /-- The number of the turn in which the clock was read. -/
  began : Nat

/-- Someone who has held the store. -/
structure Visit extends Caller where
  /-- The number of the turn in which the store was held. -/
  entered : Nat

def Visit.op (visit : Visit) : Op :=
  visit.task.op visit.readAt

/-- Creations and passes under way at one store. -/
structure Contention where
  store : OrderStore
  /-- How many turns were taken. -/
  turns : Nat
  /-- Those who wait for the store. -/
  waiting : List Caller
  /-- Those who have held it, in this order. -/
  visits : List Visit

inductive Turn where
  /-- Someone reads the clock. -/
  | read (task : Task) (now : Instant)
  /-- One of those who wait holds the store, for the whole of its task. -/
  | enter (k : Nat)

namespace Contention

def start : Contention :=
  { store := empty, turns := 0, waiting := [], visits := [] }

def step (c : Contention) : Turn → Contention
  | .read task now =>
    { c with turns := c.turns + 1, waiting := c.waiting ++ [⟨task, now, c.turns⟩] }
  | .enter k =>
    match c.waiting[k]? with
    | none => { c with turns := c.turns + 1 }
    | some caller =>
      { store := c.store.step (caller.task.op caller.readAt)
        turns := c.turns + 1
        waiting := c.waiting.eraseIdx k
        visits := c.visits ++ [⟨caller, c.turns⟩] }

/-- What any turns lead to from an empty store. -/
def run (turns : List Turn) : Contention :=
  turns.foldl step start

theorem run_concat (turns : List Turn) (turn : Turn) :
    run (turns ++ [turn]) = (run turns).step turn := by
  simp [run]

end Contention

/-- What the clock shows in a turn, if it is read. -/
def Turn.time? : Turn → Option Instant
  | .read _ now => some now
  | .enter _ => none

/-- The clock never goes back. -/
def Forward (turns : List Turn) : Prop :=
  (turns.filterMap Turn.time?).Pairwise fun earlier later => earlier.le later = true

instance (turns : List Turn) : Decidable (Forward turns) :=
  inferInstanceAs (Decidable (List.Pairwise _ _))

theorem Forward.le {turns : List Turn} (h : Forward turns) {i j : Nat} (hij : i < j)
    {task task' : Task} {time time' : Instant} (hi : turns[i]? = some (.read task time))
    (hj : turns[j]? = some (.read task' time')) : time.le time' = true := by
  obtain ⟨hilt, hi⟩ := List.getElem?_eq_some_iff.1 hi
  obtain ⟨hjlt, hj⟩ := List.getElem?_eq_some_iff.1 hj
  have hpair := List.pairwise_iff_getElem.1 (List.pairwise_filterMap.1 h) i j hilt hjlt hij
  exact hpair time (by simp [hi, Turn.time?]) time' (by simp [hj, Turn.time?])

/-! ## What was done in which turn -/

theorem getElem?_concat_of_eq_some {α : Type} {l : List α} {i : Nat} {a : α} (h : l[i]? = some a)
    (b : α) : (l ++ [b])[i]? = some a := by
  obtain ⟨hlt, -⟩ := List.getElem?_eq_some_iff.1 h
  rw [List.getElem?_append_left hlt, h]

/-- What is known of those under way after some turns. -/
structure Scheduled (turns : List Turn) (c : Contention) : Prop where
  count : c.turns = turns.length
  /-- The store is what the visits made of the empty one, in their order. -/
  store : c.store = empty.run (c.visits.map Visit.op)
  waiting : ∀ caller ∈ c.waiting, turns[caller.began]? = some (.read caller.task caller.readAt)
  read : ∀ visit ∈ c.visits, turns[visit.began]? = some (.read visit.task visit.readAt)
  began_lt : ∀ visit ∈ c.visits, visit.began < visit.entered
  entered_lt : ∀ visit ∈ c.visits, visit.entered < turns.length
  ordered : c.visits.Pairwise fun earlier later => earlier.entered < later.entered

namespace Scheduled

variable {turns : List Turn} {c : Contention}

theorem start : Scheduled [] .start where
  count := rfl
  store := rfl
  waiting := by simp [Contention.start]
  read := by simp [Contention.start]
  began_lt := by simp [Contention.start]
  entered_lt := by simp [Contention.start]
  ordered := .nil

/-- A turn in which nobody comes to the store. -/
theorem pause (h : Scheduled turns c) (turn : Turn) {waiting : List Caller}
    (hwaiting : ∀ caller ∈ waiting,
      (turns ++ [turn])[caller.began]? = some (.read caller.task caller.readAt)) :
    Scheduled (turns ++ [turn]) { c with turns := c.turns + 1, waiting } where
  count := by simp [h.count]
  store := h.store
  waiting := hwaiting
  read visit hvisit := getElem?_concat_of_eq_some (h.read visit hvisit) turn
  began_lt := h.began_lt
  entered_lt visit hvisit := by
    have := h.entered_lt visit hvisit
    simp only [List.length_append, List.length_singleton]
    omega
  ordered := h.ordered

theorem step (h : Scheduled turns c) (turn : Turn) : Scheduled (turns ++ [turn]) (c.step turn) := by
  have hstill : ∀ caller ∈ c.waiting,
      (turns ++ [turn])[caller.began]? = some (.read caller.task caller.readAt) :=
    fun caller hcaller => getElem?_concat_of_eq_some (h.waiting caller hcaller) turn
  cases turn with
  | read task now =>
    refine h.pause _ (List.forall_mem_append.2 ⟨hstill, List.forall_mem_singleton.2 ?_⟩)
    simp [h.count]
  | enter k =>
    cases hk : c.waiting[k]? with
    | none =>
      simp only [Contention.step, hk]
      exact h.pause _ hstill
    | some caller =>
      have hmem := List.mem_of_getElem? hk
      have hbegan : caller.began < turns.length :=
        (List.getElem?_eq_some_iff.1 (h.waiting caller hmem)).1
      have hnew : ∀ visit ∈ c.visits, visit.entered < c.turns :=
        fun visit hvisit => h.count ▸ h.entered_lt visit hvisit
      simp only [Contention.step, hk]
      exact
        { count := by simp [h.count]
          store := by
            rw [h.store, List.map_append, run_append]
            rfl
          waiting := fun other hother => hstill other (List.mem_of_mem_eraseIdx hother)
          read := by
            refine List.forall_mem_append.2 ⟨fun visit hvisit => ?_, List.forall_mem_singleton.2 ?_⟩
            · exact getElem?_concat_of_eq_some (h.read visit hvisit) _
            · exact hstill caller hmem
          began_lt := by
            refine List.forall_mem_append.2 ⟨h.began_lt, List.forall_mem_singleton.2 ?_⟩
            show caller.began < c.turns
            rw [h.count]
            exact hbegan
          entered_lt := by
            rw [List.length_append, List.length_singleton]
            refine List.forall_mem_append.2 ⟨fun visit hvisit => ?_, List.forall_mem_singleton.2 ?_⟩
            · have := h.entered_lt visit hvisit
              omega
            · show c.turns < turns.length + 1
              rw [h.count]
              omega
          ordered := by
            rw [List.pairwise_append]
            refine ⟨h.ordered, List.pairwise_singleton _ _, fun visit hvisit => ?_⟩
            exact List.forall_mem_singleton.2 (hnew visit hvisit) }

theorem run (turns : List Turn) : Scheduled turns (.run turns) := by
  induction turns using List.reverseRecOn with
  | nil => exact start
  | append_singleton turns turn ih =>
    rw [Contention.run_concat]
    exact ih.step turn

end Scheduled

/-! ## The two visits behind a change -/

/-- The visits of the creation that answered with an order and, later, of the pass that moved it to
the status it has. -/
def Behind (visits : List Visit) (order : Order) (at_ : Instant) (creation pass : Visit) : Prop :=
  ∃ before between after,
    visits = before ++ creation :: (between ++ pass :: after) ∧
    CreatedBy (before.map Visit.op) creation.op order ∧
    MovedBy ((before ++ creation :: between).map Visit.op) pass.op order at_

theorem exists_split_of_map_op {visits : List Visit} {before after : List Op} {op : Op}
    (h : visits.map Visit.op = before ++ op :: after) : ∃ first visit last,
      visits = first ++ visit :: last ∧ first.map Visit.op = before ∧ visit.op = op := by
  obtain ⟨first, rest, rfl, hfirst, hrest⟩ := List.map_eq_append_iff.1 h
  obtain ⟨visit, last, rfl, hvisit, -⟩ := List.map_eq_cons_iff.1 hrest
  exact ⟨first, visit, last, rfl, hfirst, hvisit⟩

/-- An order that was moved is led back to a creation and a later pass. -/
theorem exists_behind {visits : List Visit} {id : OrderId} {order : Order} {at_ : Instant}
    (h : (empty.run (visits.map Visit.op)).get? id = some order)
    (hat : order.updatedAt = some at_) :
    ∃ creation pass, Behind visits order at_ creation pass := by
  obtain ⟨_, _, _, hops, hmoved, -⟩ := (dated_of_get? h).setBy at_ hat
  obtain ⟨first, pass, after, rfl, rfl, rfl⟩ := exists_split_of_map_op hops
  have ⟨_, earlier, _, hearlier, hedge, hmove⟩ := hmoved
  have hsame : earlier.SameTerms order := hmove ▸ (Order.Moves.along at_ hedge).sameTerms
  obtain ⟨_, _, _, hops, hcreated⟩ := (born_of_get? hearlier).of_sameTerms hsame
  obtain ⟨before, creation, between, rfl, rfl, rfl⟩ := exists_split_of_map_op hops
  exact ⟨creation, pass, before, between, after, by simp, hcreated, hmoved⟩

theorem CreatedBy.readAt_eq {before : List Op} {visit : Visit} {order : Order}
    (h : CreatedBy before visit.op order) :
    ∃ draws new, visit.task = .create draws new ∧ visit.readAt = order.createdAt := by
  obtain ⟨draws, new, hop, -⟩ := h
  obtain ⟨⟨task, readAt, began⟩, entered⟩ := visit
  cases task with
  | create draws new =>
    simp only [Visit.op, Task.op, Op.create.injEq] at hop
    exact ⟨draws, new, rfl, hop.2.2⟩
  | pass policy => cases hop

theorem MovedBy.readAt_eq {before : List Op} {visit : Visit} {order : Order} {at_ : Instant}
    (h : MovedBy before visit.op order at_) :
    ∃ policy, visit.task = .pass policy ∧ visit.readAt = at_ := by
  obtain ⟨policy, _, hop, -⟩ := h
  obtain ⟨⟨task, readAt, began⟩, entered⟩ := visit
  cases task with
  | create draws new => cases hop
  | pass policy =>
    simp only [Visit.op, Task.op, Op.pass.injEq] at hop
    exact ⟨policy, rfl, hop.2⟩

/-- **Creations that overtake passes.** However the turns of creations and passes follow each other,
by a clock that never goes back: a stored order was last changed at its creation or later, unless
its whole creation, from the reading of the clock on, fell between the two turns of the pass that
moved it to its status. -/
theorem createdAt_le_updatedAt_or_overtaken (turns : List Turn) (hclock : Forward turns)
    (id : OrderId) (order : Order) (h : (Contention.run turns).store.get? id = some order)
    (at_ : Instant) (hat : order.updatedAt = some at_) :
    order.createdAt.le at_ = true ∨
    ∃ creation pass, Behind (Contention.run turns).visits order at_ creation pass ∧
      pass.began < creation.began ∧ creation.began < creation.entered ∧
      creation.entered < pass.entered := by
  have hs := Scheduled.run turns
  rw [hs.store] at h
  obtain ⟨creation, pass, hbehind⟩ := exists_behind h hat
  have ⟨before, between, after, hvisits, hcreated, hmoved⟩ := hbehind
  have hcreation : creation ∈ (Contention.run turns).visits := by simp [hvisits]
  have hpass : pass ∈ (Contention.run turns).visits := by simp [hvisits]
  have hentered : creation.entered < pass.entered := by
    have hordered := hs.ordered
    rw [hvisits, List.pairwise_append, List.pairwise_cons] at hordered
    exact hordered.2.1.1 pass (by simp)
  obtain ⟨draws, new, htask, hcreatedAt⟩ := hcreated.readAt_eq
  obtain ⟨policy, htask', hreadAt⟩ := hmoved.readAt_eq
  have hread := hs.read creation hcreation
  have hread' := hs.read pass hpass
  rcases Nat.lt_trichotomy creation.began pass.began with hlt | heq | hgt
  · left
    rw [← hcreatedAt, ← hreadAt]
    exact hclock.le hlt hread hread'
  · -- Nobody reads the clock for two tasks in one turn.
    rw [heq, hread', htask, htask'] at hread
    cases hread
  · exact .inr ⟨creation, pass, hbehind, hgt, hs.began_lt creation hcreation, hentered⟩

/-- A pass reads the clock, and before it holds the store an order is created, a second later. -/
def overtakenPass : List Turn :=
  [.read (.pass (Policy.fixed .fill)) .epoch,
    .read (.create [⟨.ofNat 1⟩] ⟨⟨.nil⟩, ⟨.nil⟩, .limit, .ofNat 3, 5⟩) ⟨.ofNat 1, 0, by decide⟩,
    .enter 1, .enter 0]

theorem createdAt_le_updatedAt_or_overtaken_overtakenPass :
    let c := Contention.run overtakenPass
    Forward overtakenPass ∧
    ∃ order, c.store.get? ⟨.ofNat 1⟩ = some order ∧ order.updatedAt = some .epoch ∧
      (order.createdAt.le .epoch = true ∨
        ∃ creation pass, Behind c.visits order .epoch creation pass ∧
          pass.began < creation.began ∧ creation.began < creation.entered ∧
          creation.entered < pass.entered) := by
  have hclock : Forward overtakenPass := by decide
  exact ⟨hclock, _, rfl, rfl,
    createdAt_le_updatedAt_or_overtaken overtakenPass hclock ⟨.ofNat 1⟩ _ rfl .epoch rfl⟩

/-- Such an order was last changed before it was created. -/
theorem updatedAt_lt_createdAt_overtaken :
    ¬ ∀ (turns : List Turn), Forward turns → ∀ (id : OrderId) (order : Order),
      (Contention.run turns).store.get? id = some order → ∀ at_, order.updatedAt = some at_ →
        order.createdAt.le at_ = true := by
  intro h
  have hclock : Forward overtakenPass := by decide
  have hle := h overtakenPass hclock ⟨.ofNat 1⟩ _ rfl .epoch rfl
  exact absurd hle (by decide)

end OrderDesk.OrderStore
