import OrderDesk.Proofs.Desk.Recordings
import OrderDesk.Proofs.Rpc.ReadPaths

/-!
# After the end

A desk that was shut down stands still. It stays so in every history (`isShutDown_step_iff`), and
every subscription of it is cancelled, those too that are opened later (`Halted.step`). So no poller
reads or queues anything, and every turn of the simulator ends a loop (`simulatorTurn_of_halted`),
whether it is due or not. With the last loop goes the flag that the simulator runs; only a start
that broke off can leave the flag without a loop (`not_isStuck_run`).

`standsStill_of_halted` is all of that.
-/

namespace OrderDesk.Desk

open Signal Subscription

/-- A desk that is shut down, and each of its subscriptions with it. -/
structure Halted (desk : Desk) : Prop where
  isShutDown : desk.isShutDown = true
  cancelled : ∀ (i : Nat) s, desk.subscriptions[i]? = some s → s.cancelled = true

/-- Whether somebody makes a pass by hand, not a loop of the simulator. -/
def Event.isManualPass : Event → Bool
  | .atStore op => op.isPass
  | .pass .. => true
  | _ => false

variable {desk : Desk}

/-! ## The desk stays halted -/

theorem isShutDown_step_iff {event : Event} :
    (desk.step event).isShutDown = true ↔ desk.isShutDown = true ∨ event = .shutDown := by
  by_cases hsub : event.isSubscribers = true
  · have hsame : (desk.step event).isShutDown = desk.isShutDown :=
      congrArg (·.2.2) (business_step_of_isSubscribers desk hsub)
    rw [hsame]
    refine ⟨.inl, ?_⟩
    rintro (h | rfl)
    · exact h
    · cases hsub
  · cases event with
    | createOrder source draws fresh wall call request =>
      have hsame := congrArg (·.2.2)
        (desk.business_createOrder source draws fresh wall call request ())
      simp only [business] at hsame
      simp [step, hsame]
    | simulatorTurn k policy now wall =>
      rcases desk.simulatorTurn_cases k policy now wall with
        h | ⟨-, -, h⟩ | ⟨due, -, -, -, h⟩
      · simp [step, h]
      · simp [step, h]
      · simp [step, h, pass, record]
    | shutDown => simp [step, shutDown]
    | atStore op => simp [step]
    | pass policy wall => simp [step, pass, record]
    | startSimulator now => simp [step, startSimulator]
    | _ => exact absurd rfl hsub

/-- A subscription that comes with an event was accepted in it. -/
theorem subscribes_of_getElem?_step {i : Nat} {s : Subscription} {event : Event}
    (hnone : desk.subscriptions[i]? = none) (hs : (desk.step event).subscriptions[i]? = some s) :
    ∃ query now, s = .start query desk.pollInterval desk.bufferCapacity now desk.isShutDown := by
  obtain ⟨hi, -⟩ := List.getElem?_eq_some_iff.1 hs
  have hlt : desk.subscriptions.length ≤ i := List.getElem?_eq_none_iff.1 hnone
  -- all other events keep the number of subscriptions
  have hkeeps (h : (desk.step event).subscriptions.length = desk.subscriptions.length) :
      ∃ query now, s = .start query desk.pollInterval desk.bufferCapacity now desk.isShutDown := by
    omega
  cases event with
  | subscribe query now =>
    rw [step, subscribe] at hs
    cases ha : Service.admission desk.reader query with
    | error e =>
      rw [ha, hnone] at hs
      cases hs
    | ok u =>
      rw [ha] at hs
      rw [List.getElem?_append_right hlt, List.getElem?_singleton] at hs
      split at hs
      · exact ⟨query, now, (Option.some.inj hs).symm⟩
      · cases hs
  | createOrder source draws fresh wall call request =>
    exact hkeeps (congrArg _ (subscriptions_createOrder _ _ _ _ _ _ _ _))
  | simulatorTurn k policy now wall =>
    exact hkeeps (congrArg _ (subscriptions_simulatorTurn _ _ _ _ _))
  | pollerTurn j now =>
    refine hkeeps ?_
    rw [step, pollerTurn]
    split
    · rfl
    · simp [setSubscription]
  | receive j =>
    refine hkeeps ?_
    rw [step, receive]
    split
    · rfl
    · simp [setSubscription]
  | cancel j => exact hkeeps (List.length_modify ..)
  | dropReceiver j => exact hkeeps (List.length_modify ..)
  | drop j => exact hkeeps (List.length_modify ..)
  | shutDown => exact hkeeps (List.length_map _)
  | atStore op => exact hkeeps rfl
  | pass policy wall => exact hkeeps rfl
  | startSimulator now => exact hkeeps rfl

theorem Halted.step (h : Halted desk) (event : Event) : Halted (desk.step event) := by
  refine ⟨isShutDown_step_iff.2 (.inl h.isShutDown), fun i s hs => ?_⟩
  cases hold : desk.subscriptions[i]? with
  | none =>
    obtain ⟨query, now, rfl⟩ := subscribes_of_getElem?_step hold hs
    exact h.isShutDown
  | some before =>
    have hc := h.cancelled i before hold
    rw [getElem?_step hold, Option.some.injEq] at hs
    subst hs
    cases event.moveOf i with
    | none => exact hc
    | some move => exact (before.sides_step desk.reader move).1 hc

theorem Halted.run (h : Halted desk) (events : List Event) : Halted (desk.run events) := by
  induction events generalizing desk with
  | nil => exact h
  | cons event events ih => exact ih (h.step event)

theorem halted_shutDown (desk : Desk) : Halted desk.shutDown := by
  refine ⟨rfl, fun i s hs => ?_⟩
  rw [shutDown, List.getElem?_map, Option.map_eq_some_iff] at hs
  obtain ⟨before, -, rfl⟩ := hs
  rfl

/-- A desk that came to be shut down is halted. -/
theorem halted_run (hstart : desk.isShutDown = false) {events : List Event}
    (h : (desk.run events).isShutDown = true) : Halted (desk.run events) := by
  induction events generalizing desk with
  | nil =>
    rw [run_nil, hstart] at h
    cases h
  | cons event events ih =>
    cases hstep : (desk.step event).isShutDown with
    | false => exact ih hstep h
    | true =>
      rcases isShutDown_step_iff.1 hstep with hs | rfl
      · rw [hstart] at hs
        cases hs
      · exact (halted_shutDown desk).run events

/-! ## The simulator stops -/

section
variable (hs : desk.isShutDown = true)
include hs

/-- Whether its time has come or not, a loop ends instead of passing. -/
theorem simulatorTurn_of_halted (k : Nat) (policy : Policy) (now : Nanos) (wall : Instant) :
    desk.simulatorTurn k policy now wall =
      if k < desk.simulator.loops.length then
        (.ended, { desk with simulator := desk.simulator.endLoop k })
      else (.rested, desk) := by
  unfold simulatorTurn
  cases hk : desk.simulator.loops[k]? with
  | none =>
    have hlt : ¬ k < desk.simulator.loops.length :=
      Nat.not_lt.2 (List.getElem?_eq_none_iff.1 hk)
    simp [hlt]
  | some due =>
    obtain ⟨hlt, -⟩ := List.getElem?_eq_some_iff.1 hk
    simp [hs, hlt]

/-- A history without passes by hand has none at all. -/
theorem passes_of_halted {event : Event} (h : event.isManualPass = false) :
    desk.passes event = false := by
  cases event with
  | atStore op => exact h
  | pass policy wall => cases h
  | simulatorTurn k policy now wall =>
    rw [passes, simulatorTurn_of_halted hs]
    split <;> rfl
  | _ => rfl

/-- Once all loops took their turn, the last one first, the flag is cleared, unless there was no
loop to clear it. -/
theorem settleLoops_of_halted (policy : Policy) (now : Nanos) (wall : Instant) {n : Nat}
    (hn : desk.simulator.loops.length = n) :
    ((List.range n).reverse.foldl
      (fun desk i => desk.settleLoop i policy now wall) desk).simulator.isRunning = true ↔
        desk.simulator.IsStuck := by
  induction n generalizing desk with
  | zero =>
    have hnone : desk.simulator.loops = [] := List.length_eq_zero_iff.1 hn
    simp [Simulator.IsStuck, hnone]
  | succ n ih =>
    have hlt : n < desk.simulator.loops.length := by omega
    have hturn : desk.settleLoop n policy now wall =
        { desk with simulator := desk.simulator.endLoop n } := by
      rw [settleLoop, simulatorTurn_of_halted hs, if_pos hlt]
    have hsome : ¬ desk.simulator.IsStuck := fun hstuck => by
      rw [hstuck.2] at hlt
      exact absurd hlt (Nat.not_lt_zero n)
    have hlength : (desk.simulator.endLoop n).loops.length = n := by
      simp only [Simulator.endLoop, List.length_eraseIdx, hlt, if_true]
      omega
    rw [List.range_succ, List.reverse_append, List.reverse_singleton, List.singleton_append,
      List.foldl_cons, hturn]
    -- the loop that ended has cleared the flag, which no loop before it sets again
    rw [@ih { desk with simulator := desk.simulator.endLoop n } hs hlength]
    exact iff_of_false (fun hstuck => Bool.false_ne_true hstuck.1) hsome

end

theorem isQuiet_of_halted (h : Halted desk) {later : List Event}
    (hl : ∀ event ∈ later, event.isManualPass = false) : desk.isQuiet later = true := by
  induction later generalizing desk with
  | nil => rfl
  | cons event later ih =>
    obtain ⟨hevent, hrest⟩ := List.forall_mem_cons.1 hl
    rw [isQuiet, passes_of_halted h.isShutDown hevent, ih (h.step event) hrest]
    rfl

theorem business_settlePoller (desk : Desk) (i : Nat) (read : OrderReader) (now : Nanos) :
    (desk.settlePoller i read now).business = desk.business := by
  unfold settlePoller
  induction turnsToRest desk.pollInterval generalizing desk with
  | zero => rfl
  | succ n ih => exact (business_pollerTurn _ i read now).trans (ih desk)

theorem business_settlePollers (desk : Desk) (view : OrderStore → OrderReader) (now : Nanos)
    (indices : List Nat) :
    (indices.foldl (fun desk i => desk.settlePoller i (view desk.store) now) desk).business =
      desk.business := by
  induction indices generalizing desk with
  | nil => rfl
  | cons i indices ih => exact (ih _).trans (business_settlePoller desk i _ now)

theorem isRunning_settle_of_halted (hs : desk.isShutDown = true)
    (view : OrderStore → OrderReader) (policy : Policy) (now : Nanos) (wall : Instant) :
    (desk.settle view policy now wall).simulator.isRunning = true ↔ desk.simulator.IsStuck := by
  have hpollers : (desk.settle view policy now wall).simulator = _ :=
    congrArg (·.2.1) (business_settlePollers _ view now _)
  rw [hpollers]
  exact settleLoops_of_halted hs policy now wall rfl

/-! ## The flag goes with the last loop -/

/-- Only a start that breaks off leaves the flag without a loop. -/
theorem not_isStuck_step (h : ¬ desk.simulator.IsStuck) {event : Event}
    (hstarts : ∀ now, event = .startSimulator now → desk.simulator.CanStart now) :
    ¬ (desk.step event).simulator.IsStuck := by
  by_cases hsub : event.isSubscribers = true
  · have hsame : (desk.step event).simulator = desk.simulator :=
      congrArg (·.2.1) (business_step_of_isSubscribers desk hsub)
    rwa [hsame]
  · cases event with
    | createOrder source draws fresh wall call request =>
      have hsame : (desk.step (.createOrder source draws fresh wall call request)).simulator =
          desk.simulator :=
        congrArg (·.2.1) (desk.business_createOrder source draws fresh wall call request ())
      rwa [hsame]
    | startSimulator now =>
      have hloops := Simulator.loops_startLoop (hstarts now rfl)
      intro hstuck
      exact absurd (hloops.symm.trans hstuck.2) (by simp)
    | simulatorTurn k policy now wall =>
      rw [step]
      rcases desk.simulatorTurn_cases k policy now wall with
        hturn | ⟨-, -, hturn⟩ | ⟨due, hk, -, -, hturn⟩
      · rwa [hturn]
      · rw [hturn]
        exact fun hstuck => Bool.false_ne_true hstuck.1
      · rw [hturn]
        intro hstuck
        have hnone : desk.simulator.loops = [] := (List.set_eq_nil_iff ..).1 hstuck.2
        rw [hnone] at hk
        cases hk
    | atStore op => exact h
    | pass policy wall => exact h
    | shutDown => exact h
    | _ => exact absurd rfl hsub

/-- Whether every start in a history comes in time for its loop to begin. -/
def StartsInTime (interval : Nanos) (events : List Event) : Prop :=
  ∀ now, .startSimulator now ∈ events → interval ≠ 0 ∧ OnClock (now + interval)

theorem not_isStuck_run (h : ¬ desk.simulator.IsStuck) {events : List Event}
    (hstarts : StartsInTime desk.simulator.interval events) :
    ¬ (desk.run events).simulator.IsStuck := by
  induction events generalizing desk with
  | nil => exact h
  | cons event events ih =>
    have hinterval : (desk.step event).simulator.interval = desk.simulator.interval :=
      congrArg (·.2.2) (desk.setUp_step event)
    refine ih (not_isStuck_step h fun now heq => ?_) fun now hmem => ?_
    · exact hstarts now (heq ▸ List.mem_cons_self)
    · rw [hinterval]
      exact hstarts now (List.mem_cons_of_mem _ hmem)

/-! ## The subscriptions end -/

theorem signals_of_halted (h : Halted desk) (i : Nat) (event : Event) :
    desk.signals i event = [] := by
  unfold signals
  cases hi : desk.subscriptions[i]? with
  | none => rfl
  | some s =>
    cases event.moveOf i with
    | none => rfl
    | some move =>
      have hshown := shown_of_cancelled (h.cancelled i s hi) [(desk.reader, move)]
      rwa [shown, shown, List.append_nil] at hshown

/-- No poller reads or queues anything more, of whatever subscription. -/
theorem trace_of_halted (h : Halted desk) (i : Nat) (later : List Event) :
    desk.trace i later = [] := by
  induction later generalizing desk with
  | nil => rfl
  | cons event later ih => rw [trace, signals_of_halted h, ih (h.step event), List.append_nil]

/-- How a subscription goes that nothing was queued for before it was cancelled. -/
structure StaysEmpty (desk : Desk) (i : Nat) : Prop where
  /-- It tells no update. -/
  silent : ∀ later, Received.updates (desk.answers i later) = []
  /-- It is at its end when its poller had a turn. -/
  closed : ∀ before now rest,
    ∀ received ∈ ((desk.run before).step (.pollerTurn i now)).answers i rest, received = .closed

theorem staysEmpty_of_cancelled {i : Nat} {s : Subscription}
    (hs : desk.subscriptions[i]? = some s) (hc : s.cancelled = true) (hq : s.queue = []) :
    StaysEmpty desk i := by
  have hsilent (later : List Event) : Received.updates (desk.answers i later) = [] := by
    have hprefix := updates_answered_of_cancelled hc (movesOf i (desk.readings later))
    rw [hq, ← answers_eq hs] at hprefix
    exact List.prefix_nil.1 hprefix
  refine ⟨hsilent, fun before now rest received hmem => ?_⟩
  cases received with
  | closed => rfl
  | empty => exact absurd hmem (empty_not_mem_answers_of_turn hs hc before now rest)
  | update told =>
    have hall := hsilent (before ++ .pollerTurn i now :: rest)
    rw [answers_append, answers, Received.updates_append, Received.updates_append,
      List.append_eq_nil_iff, List.append_eq_nil_iff] at hall
    have htold := Received.mem_updates_iff.2 hmem
    rw [hall.2.2] at htold
    cases htold

/-- A stream that its owner opens after the end is accepted, and is at its end too. -/
theorem streamOrderUpdates_of_halted (hs : desk.isShutDown = true) {orderId userId : String}
    {query : OrderQuery} {order : Order} (hd : OrderQuery.decode orderId userId = .ok query)
    (hget : desk.store.get query.orderId = .ok order) (howner : order.userId = query.userId)
    (now : Nanos) : ∃ i opened,
      Rpc.streamOrderUpdates desk desk.reader orderId userId now = (.ok i, opened) ∧
        StaysEmpty opened i := by
  have ha : Service.admission desk.reader query = .ok () :=
    Service.admission_eq_ok_iff.2 ⟨order, hget, howner⟩
  obtain ⟨opened, hi, hstream⟩ := Rpc.streamOrderUpdates_of_admitted hd ha desk now
  obtain ⟨-, hsub⟩ := Rpc.opened_of_subscribe hi
  exact ⟨_, opened, hstream, staysEmpty_of_cancelled hsub hs rfl⟩

/-! ## All at once -/

/-- How a desk stands still. -/
structure StandsStill (desk : Desk) : Prop where
  isShutDown : desk.isShutDown = true
  /-- Whether its time has come or not, a loop of the simulator does not pass but ends. -/
  ends : ∀ k policy now wall, desk.simulatorTurn k policy now wall =
    if k < desk.simulator.loops.length then
      (.ended, { desk with simulator := desk.simulator.endLoop k })
    else (.rested, desk)
  /-- The simulator is not running any more as soon as everything took its turn, unless a start that
  broke off left it without a loop. -/
  stops : ∀ view policy now wall,
    (desk.settle view policy now wall).simulator.isRunning = true ↔ desk.simulator.IsStuck
  /-- The passes that were made and the orders stay as they are, if nobody passes by hand. -/
  frozen : ∀ later, (∀ event ∈ later, event.isManualPass = false) → Frozen desk (desk.run later)
  /-- No poller reads or queues anything, those of later subscriptions included. -/
  silent : ∀ i later, desk.trace i later = []
  /-- The owner of an order may still open a stream, which tells nothing and ends. -/
  streams : ∀ orderId userId query order, OrderQuery.decode orderId userId = .ok query →
    desk.store.get query.orderId = .ok order → order.userId = query.userId → ∀ now, ∃ i opened,
      Rpc.streamOrderUpdates desk desk.reader orderId userId now = (.ok i, opened) ∧
        StaysEmpty opened i
  /-- The status of an order is answered as before. -/
  answers : ∀ orderId userId status, Rpc.getOrderStatus desk.reader orderId userId = .ok status →
    ∀ later, (∀ event ∈ later, event.isManualPass = false) →
      Rpc.getOrderStatus (desk.run later).reader orderId userId = .ok status

/-- While the orders stay as they are, so do the statuses that their owners are answered. -/
theorem Frozen.getOrderStatus_eq {after : Desk} (h : Frozen desk after) {orderId userId : String}
    {status : Int} (hs : Rpc.getOrderStatus desk.reader orderId userId = .ok status) :
    Rpc.getOrderStatus after.reader orderId userId = .ok status := by
  obtain ⟨query, order, hd, hget, howner, hstatus⟩ := Rpc.getOrderStatus_eq_ok_iff.1 hs
  exact Rpc.getOrderStatus_eq_ok_iff.2 ⟨query, order, hd, h.get_eq hget, howner, hstatus⟩

theorem standsStill_of_halted (h : Halted desk) : StandsStill desk := by
  have hfrozen {later : List Event} (hl : ∀ event ∈ later, event.isManualPass = false) :
      Frozen desk (desk.run later) := .of_isQuiet (isQuiet_of_halted h hl)
  exact
    { isShutDown := h.isShutDown
      ends := simulatorTurn_of_halted h.isShutDown
      stops := isRunning_settle_of_halted h.isShutDown
      frozen := fun later hl => hfrozen hl
      silent := trace_of_halted h
      streams := fun _ _ _ _ hd hget howner now =>
        streamOrderUpdates_of_halted h.isShutDown hd hget howner now
      answers := fun _ _ _ hs later hl => (hfrozen hl).getOrderStatus_eq hs }

/-- **After the end the desk stands still.** However it came to be shut down, and whatever happens
afterwards, no loop of the simulator passes again but leaves, no subscription tells anything more,
and what is stored stays as it is and is still answered. The simulator does not run any more, if no
start of it broke off. -/
theorem shutDown_stands_still (pollInterval : Nanos) (bufferCapacity : Nat) (interval : Nanos)
    (events later : List Event)
    (hs : ((Desk.make pollInterval bufferCapacity interval).run events).isShutDown = true) :
    let desk := ((Desk.make pollInterval bufferCapacity interval).run events).run later
    StandsStill desk ∧
      (StartsInTime interval (events ++ later) → ∀ view policy now wall,
        (desk.settle view policy now wall).simulator.isRunning = false) := by
  intro desk
  have hstill : StandsStill desk := standsStill_of_halted ((halted_run rfl hs).run later)
  refine ⟨hstill, fun hstarts view policy now wall => ?_⟩
  have hfresh : ¬ (Desk.make pollInterval bufferCapacity interval).simulator.IsStuck :=
    fun hstuck => Bool.false_ne_true hstuck.1
  have hfree := not_isStuck_run hfresh hstarts
  rw [run, List.foldl_append] at hfree
  exact Bool.not_eq_true _ ▸ fun hrunning => hfree ((hstill.stops view policy now wall).1 hrunning)

/-- A desk is shut down while a loop of its simulator runs and an update waits for room. -/
def closing : List Event :=
  [.atStore (.create [⟨.ofNat 1⟩] ⟨⟨.nil⟩, ⟨.nil⟩, .limit, .ofNat 3, 5⟩ .epoch),
    .startSimulator 0, .subscribe ownQuery 0, .pollerTurn 0 0, .pollerTurn 0 0,
    .simulatorTurn 0 (Policy.fixed .fill) 10 .epoch, .pollerTurn 0 10, .shutDown]

def closedDesk : Desk :=
  (Desk.make 10 1 10).run closing

/-- What comes afterwards: the turn of the loop at its due time, another start, another
subscription. -/
def afterwards : List Event :=
  [.simulatorTurn 0 (Policy.fixed .fill) 20 .epoch, .startSimulator 20, .pollerTurn 0 20,
    .subscribe ownQuery 20, .pollerTurn 1 20, .simulatorTurn 0 (Policy.fixed .fill) 30 .epoch]

theorem startsInTime_closing : StartsInTime 10 (closing ++ afterwards) := by
  intro now hmem
  simp only [closing, afterwards, List.cons_append, List.nil_append, List.mem_cons,
    List.not_mem_nil, Event.startSimulator.injEq, reduceCtorEq, false_or, or_false] at hmem
  rcases hmem with rfl | rfl <;> decide

theorem shutDown_stands_still_afterwards :
    StandsStill (closedDesk.run afterwards) ∧
      (∀ view policy now wall,
        ((closedDesk.run afterwards).settle view policy now wall).simulator.isRunning = false) ∧
      closedDesk.simulator = ⟨10, 1, some .epoch, [20], true⟩ ∧
      (closedDesk.run afterwards).simulator = ⟨10, 1, some .epoch, [], false⟩ ∧
      (closedDesk.run afterwards).subscriptions.map (fun s => (s.phase, s.queue.length)) =
        [(.ended, 1), (.ended, 0)] := by
  obtain ⟨hstill, hstops⟩ := shutDown_stands_still 10 1 10 closing afterwards (by decide)
  exact ⟨hstill, hstops startsInTime_closing, by decide +kernel, by decide +kernel,
    by decide +kernel⟩

/-- A simulator that could not start, without an interval or with one that the clock does not reach
the end of, still says that it runs when the desk is shut down. -/
theorem isRunning_of_broken_start :
    let endless := 0xFFFFFFFFFFFFFFFF * nanosPerSecond
    let settled (interval : Nanos) : Desk :=
      ((Desk.make 10 1 interval).run [.startSimulator 0, .shutDown]).settle OrderStore.get
        (Policy.fixed .fill) interval .epoch
    (settled 0).isShutDown = true ∧ (settled 0).simulator.isRunning = true ∧
      (settled endless).isShutDown = true ∧ (settled endless).simulator.isRunning = true := by
  decide

end OrderDesk.Desk
