import OrderDesk.Proofs.Desk.Following
import OrderDesk.Proofs.Desk.Isolation
import OrderDesk.Proofs.Subscription.Delivery

/-!
# Cancelling a subscription

What the receiver of a subscription is answered in the course of a history of the desk
(`Desk.answers`), before and after the subscription is cancelled. A subscription may be cancelled by
its handle, which also cancels it when it is dropped, by dropping the subscription or the stream
that holds it, or with the whole desk.

`cancelled_winds_down` is what the receiver may count on.
-/

namespace OrderDesk.Desk

open Signal Subscription

/-! ## What a receiver is answered at the desk -/

/-- What an event answers the receiver of a subscription. -/
def answer (desk : Desk) (i : Nat) : Event → List Received
  | .receive j => if j = i then (desk.receive j).1.toList else []
  | _ => []

/-- What a history answers the receiver of a subscription. -/
def answers (desk : Desk) (i : Nat) : List Event → List Received
  | [] => []
  | event :: events => desk.answer i event ++ (desk.step event).answers i events

section
variable {desk : Desk} {i : Nat} {s : Subscription} (hs : desk.subscriptions[i]? = some s)
include hs

theorem answer_eq (event : Event) :
    desk.answer i event = ((event.moveOf i).map s.answers).getD [] := by
  cases event with
  | receive j =>
    by_cases hj : j = i
    · subst hj
      simp [answer, Event.moveOf, receive, hs, Subscription.answers]
    · simp [answer, Event.moveOf, hj]
  | pollerTurn j now =>
    by_cases hj : j = i <;> simp [answer, Event.moveOf, hj, Subscription.answers]
  | cancel j => by_cases hj : j = i <;> simp [answer, Event.moveOf, hj, Subscription.answers]
  | dropReceiver j => by_cases hj : j = i <;> simp [answer, Event.moveOf, hj, Subscription.answers]
  | drop j => by_cases hj : j = i <;> simp [answer, Event.moveOf, hj, Subscription.answers]
  | atStore op => rfl
  | createOrder source draws fresh wall call request => rfl
  | pass policy wall => rfl
  | subscribe query now => rfl
  | startSimulator now => rfl
  | simulatorTurn k policy now wall => rfl
  | shutDown => rfl

theorem answers_eq (events : List Event) :
    desk.answers i events = s.answered (movesOf i (desk.readings events)) := by
  induction events generalizing desk s with
  | nil => rfl
  | cons event events ih =>
    rw [answers, answer_eq hs, ih (getElem?_step hs event), readings, movesOf_cons]
    cases event.moveOf i <;> rfl

theorem trace_eq (events : List Event) :
    desk.trace i events = s.shown (movesOf i (desk.readings events)) := by
  induction events generalizing desk s with
  | nil => rfl
  | cons event events ih =>
    rw [trace, signals, hs, ih (getElem?_step hs event), readings, movesOf_cons]
    cases event.moveOf i <;> rfl

end

theorem answers_append (desk : Desk) (i : Nat) (events later : List Event) :
    desk.answers i (events ++ later) =
      desk.answers i events ++ (desk.run events).answers i later := by
  induction events generalizing desk with
  | nil => rfl
  | cons event events ih => rw [List.cons_append, answers, ih, answers, List.append_assoc, run_cons]

/-! ## What is left to come -/

/-- Whether an event gives the receiving side of a subscription up. -/
def Event.Leaves (i : Nat) (event : Event) : Prop :=
  event = .dropReceiver i ∨ event = .drop i

/-- How a subscription that was cancelled comes to its end. -/
structure WindsDown (desk : Desk) (i : Nat) (s : Subscription) : Prop where
  /-- Nothing more is put on its queue. -/
  silent : ∀ later, updates (desk.trace i later) = []
  /-- An update that waits for room now is never received. -/
  lost : ∀ update, s.phase = .sending update → ∀ later, .update update ∉ desk.answers i later
  /-- A receiver that stays gets what is queued, in its order, and after it only finds that there is
  nothing yet, and then that there is no more. -/
  drains : ∀ later, (∀ event ∈ later, ¬ event.Leaves i) →
    ∃ waited, Drains s.queue waited (desk.answers i later)
  /-- It never waits once the poller had another turn. -/
  prompt : ∀ before now rest,
    .empty ∉ ((desk.run before).step (.pollerTurn i now)).answers i rest

/-- What a receiver may count on at any time, given the desk and the subscription as they are, the
updates that were queued so far and what the receiver was answered. -/
structure Reliable (desk : Desk) (i : Nat) (s : Subscription) (capacity : Nat)
    (queued : List OrderUpdate) (got : List Received) : Prop where
  bounded : s.queue.length ≤ max 1 capacity
  /-- What was received was queued first, in this order. -/
  received : Received.updates got <+: queued
  /-- The rest waits in the queue, as long as there is somebody to receive it. -/
  complete : s.receiverOpen = true → Received.updates got ++ s.queue = queued
  windsDown : s.cancelled = true → WindsDown desk i s
  /-- The handle cancels the subscription, and so does the end of the desk. -/
  cancels : ∀ event, event = .cancel i ∨ event = .shutDown →
    (desk.step event).subscriptions[i]? = some s.cancel
  /-- Dropping the subscription or its stream cancels it too. -/
  drops : (desk.step (.drop i)).subscriptions[i]? = some s.drop
  /-- None of this makes a difference, then or later, to the store and the other subscriptions. -/
  alone : ∀ event, event = .cancel i ∨ event.Leaves i → ∀ later,
    ((desk.step event).run later).store = (desk.run later).store ∧
      ∀ j other, j ≠ i → desk.subscriptions[j]? = some other →
        ((desk.step event).run later).subscriptions[j]? = (desk.run later).subscriptions[j]?

/-- The moves of a history in which nobody gives the receiving side up do not either. -/
theorem stays_of_mem_movesOf {i : Nat} {readings : List (OrderReader × Event)}
    (h : ∀ reading ∈ readings, ¬ reading.2.Leaves i) :
    ∀ move ∈ movesOf i readings, move.2 ≠ .dropReceiver ∧ move.2 ≠ .drop := by
  intro move hmem
  obtain ⟨⟨read, event⟩, hevent, hmove⟩ := List.mem_filterMap.1 hmem
  obtain ⟨move, hm, rfl⟩ := Option.map_eq_some_iff.1 hmove
  have hstays := h _ hevent
  constructor
  · rintro rfl
    exact hstays (.inl (by cases event <;> simp_all [Event.moveOf]))
  · rintro rfl
    exact hstays (.inr (by cases event <;> simp_all [Event.moveOf]))

/-- Once the poller of a cancelled subscription had another turn, its receiver is never kept
waiting. -/
theorem empty_not_mem_answers_of_turn {desk : Desk} {i : Nat} {s : Subscription}
    (hs : desk.subscriptions[i]? = some s) (hc : s.cancelled = true) (before : List Event)
    (now : Nanos) (rest : List Event) :
    .empty ∉ ((desk.run before).step (.pollerTurn i now)).answers i rest := by
  have hturn := getElem?_step_pollerTurn (getElem?_run hs before) now
  rw [(turn_of_cancelled (cancelled_run hc _) _ _).1] at hturn
  rw [answers_eq hturn]
  exact empty_not_mem_answered rfl _

theorem windsDown_of_tracks {desk : Desk} {i : Nat} {s : Subscription} {shown : List Signal}
    (hs : desk.subscriptions[i]? = some s) (h : Tracks desk.store s shown)
    (hc : s.cancelled = true) : WindsDown desk i s := by
  refine
    { silent := fun later => ?_
      lost := fun update hp later hmem => ?_
      drains := fun later hstays => ?_
      prompt := empty_not_mem_answers_of_turn hs hc }
  · rw [trace_eq hs, shown_of_cancelled hc, updates_nil]
  · rw [answers_eq hs, ← Received.mem_updates_iff] at hmem
    have hqueued : update ∈ updates shown :=
      h.queue.subset ((updates_answered_of_cancelled hc _).subset hmem)
    -- the update that waits is further along than each one that was queued, so it is none of them
    have hrising := h.rising
    rw [hp] at hrising
    exact Nat.lt_irrefl _
      ((List.pairwise_append.1 hrising).2.2 update hqueued update (List.mem_singleton_self _))
  · have hmoves := stays_of_mem_movesOf fun reading (hmem : reading ∈ desk.readings later) =>
      hstays reading.2 (mem_of_mem_readings hmem)
    obtain ⟨waited, hdrains, -⟩ := drains_of_cancelled hc hmoves
    rw [answers_eq hs]
    exact ⟨waited, hdrains⟩

/-- **What a receiver may count on.** At any time after a subscription was accepted, its queue is
bounded, and what was received of it was queued in this order, with nothing left out but what still
waits. From the moment that it is cancelled, however that comes about, it winds down. -/
theorem cancelled_winds_down {desk opened : Desk} (h : desk.Reachable) {query : OrderQuery}
    {now : Nanos} {i : Nat} (hi : desk.subscribe desk.reader query now = (.ok i, opened))
    (events : List Event) :
    ∃ s, (opened.run events).subscriptions[i]? = some s ∧
      Reliable (opened.run events) i s desk.bufferCapacity (updates (opened.trace i events))
        (opened.answers i events) := by
  obtain ⟨ha, hstore, hs⟩ := subscribe_eq_ok (congrArg Prod.fst hi)
  rw [hi] at hstore hs
  have hstart := Tracks.start h.store.coherent ha desk.pollInterval desk.bufferCapacity now
    desk.isShutDown
  rw [← hstore] at hstart
  obtain ⟨s, hsub, -, htracks⟩ := tracks_run hs hstart events
  obtain rfl := Option.some.inj (hsub.symm.trans (getElem?_run hs events))
  have hdelivers := (Delivers.start query desk.pollInterval desk.bufferCapacity now
    desk.isShutDown).run (movesOf i (opened.readings events))
  rw [List.nil_append, List.nil_append, ← trace_eq hs, ← answers_eq hs] at hdelivers
  refine ⟨_, hsub, ?_⟩
  exact
    { bounded := by
        have hbounded := hdelivers.bounded
        rwa [capacity_run, capacity_start] at hbounded
      received := (List.prefix_append _ _).trans hdelivers.inOrder
      complete := hdelivers.complete
      windsDown := windsDown_of_tracks hsub htracks
      cancels := fun event hevent => by
        rcases hevent with rfl | rfl <;>
          simp [getElem?_step hsub, Event.moveOf, Subscription.step]
      drops := by simp [getElem?_step hsub, Event.moveOf, Subscription.step]
      alone := fun event hevent later => by
        have hsubscribers : event.isSubscribers = true := by
          rcases hevent with rfl | rfl | rfl <;> rfl
        have hothers : ∀ j, j ≠ i → event.moveOf j = none := fun j hj => by
          rcases hevent with rfl | rfl | rfl <;> simp [Event.moveOf, hj.symm]
        obtain ⟨hsame, hsubs⟩ := run_step_of_isSubscribers _ hsubscribers later
        exact ⟨hsame, fun j other hj => hsubs j other (hothers j hj)⟩ }

/-- The poller waits for room with its second update when the subscription is cancelled. -/
def stallCancelled : List Event :=
  [.pollerTurn 0 0, .pollerTurn 0 0, .pass (Policy.fixed .fill) .epoch, .pollerTurn 0 10,
    .pollerTurn 0 10, .cancel 0]

theorem cancelled_winds_down_from_stall :
    let opened := (narrowDesk.subscribe narrowDesk.reader ownQuery 0).2
    (∃ s, (opened.run stallCancelled).subscriptions[0]? = some s ∧
      Reliable (opened.run stallCancelled) 0 s narrowDesk.bufferCapacity
        (updates (opened.trace 0 stallCancelled)) (opened.answers 0 stallCancelled)) ∧
    (opened.run stallCancelled).subscriptions.map Subscription.phase =
      [.sending ⟨⟨.ofNat 1⟩, .pending, some .epoch⟩] ∧
    (opened.run stallCancelled).answers 0 [.receive 0, .receive 0, .pollerTurn 0 10, .receive 0] =
      [.update ⟨⟨.ofNat 1⟩, .created, none⟩, .empty, .closed] := by
  have hi : narrowDesk.subscribe narrowDesk.reader ownQuery 0 =
      (.ok 0, (narrowDesk.subscribe narrowDesk.reader ownQuery 0).2) := rfl
  exact ⟨cancelled_winds_down ⟨10, 1, 10, _, rfl⟩ hi stallCancelled, by decide, by decide⟩

end OrderDesk.Desk
