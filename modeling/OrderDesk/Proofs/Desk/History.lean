import OrderDesk.Proofs.Service.Placing
import OrderDesk.Proofs.Subscription.Moves
import OrderDesk.Rpc.Handlers

/-!
# Histories of a desk

`Desk.Event` is one thing that happens at a desk: a call, a turn of a poller or of the simulator, a
touch of a subscription, or the end. What is drawn or answered from outside is part of the event,
and so is its time, so every interleaving is a list of events.

`simulatorTurn_cases` is all that a loop of the simulator can do in its turn. An event does at most
two things that others can tell: it runs some operations on the store (`exists_run_step`), and it
makes one move of each subscription, or none (`getElem?_step`). What the desk was set up with stays
(`setUp_run`).
-/

namespace OrderDesk.Desk

/-- One thing that happens at a desk. Pollers read the store of the desk. -/
inductive Event where
  /-- Somebody works on the store directly. -/
  | atStore (op : OrderStore.Op)
  | createOrder (source : MarketSource Unit) (draws : List OrderId) (fresh : Uuid) (wall : Instant)
      (call : RequestId.Call) (request : WireCreateRequest)
  | pass (policy : Policy) (wall : Instant)
  | subscribe (query : OrderQuery) (now : Nanos)
  | pollerTurn (i : Nat) (now : Nanos)
  | receive (i : Nat)
  | cancel (i : Nat)
  | dropReceiver (i : Nat)
  | drop (i : Nat)
  | startSimulator (now : Nanos)
  | simulatorTurn (k : Nat) (policy : Policy) (now : Nanos) (wall : Instant)
  | shutDown

/-- The desk after an event. -/
def step (desk : Desk) : Event → Desk
  | .atStore op => { desk with store := desk.store.step op }
  | .createOrder source draws fresh wall call request =>
    (Rpc.createOrder desk source draws fresh wall call request ()).desk
  | .pass policy wall => (desk.pass policy wall).2
  | .subscribe query now => (desk.subscribe desk.reader query now).2
  | .pollerTurn i now => desk.pollerTurn i desk.reader now
  | .receive i => (desk.receive i).2
  | .cancel i => desk.modifySubscription i Subscription.cancel
  | .dropReceiver i => desk.modifySubscription i Subscription.dropReceiver
  | .drop i => desk.modifySubscription i Subscription.drop
  | .startSimulator now => desk.startSimulator now
  | .simulatorTurn k policy now wall => (desk.simulatorTurn k policy now wall).2
  | .shutDown => desk.shutDown

/-- The desk after several events. -/
def run (desk : Desk) (events : List Event) : Desk :=
  events.foldl step desk

/-- The desk after an event at which the orders are read through `read`, whatever it stores. -/
def stepWith (desk : Desk) (read : OrderReader) : Event → Desk
  | .subscribe query now => (desk.subscribe read query now).2
  | .pollerTurn i now => desk.pollerTurn i read now
  | event => desk.step event

/-- The desk after several events, each with the reader that the orders are read through then. -/
def runWith (desk : Desk) (readings : List (OrderReader × Event)) : Desk :=
  readings.foldl (fun desk reading => desk.stepWith reading.1 reading.2) desk

/-- Some events, each with what the store answers before it. -/
def readings (desk : Desk) : List Event → List (OrderReader × Event)
  | [] => []
  | event :: events => (desk.reader, event) :: (desk.step event).readings events

/-- A desk that came about by events alone. -/
def Reachable (desk : Desk) : Prop :=
  ∃ pollInterval bufferCapacity simulatorInterval events,
    desk = (Desk.make pollInterval bufferCapacity simulatorInterval).run events

@[simp] theorem run_nil (desk : Desk) : desk.run [] = desk := rfl

@[simp] theorem run_cons (desk : Desk) (event : Event) (events : List Event) :
    desk.run (event :: events) = (desk.step event).run events := rfl

@[simp] theorem runWith_nil (desk : Desk) : desk.runWith [] = desk := rfl

@[simp] theorem runWith_cons (desk : Desk) (read : OrderReader) (event : Event)
    (readings : List (OrderReader × Event)) :
    desk.runWith ((read, event) :: readings) = (desk.stepWith read event).runWith readings := rfl

theorem stepWith_reader (desk : Desk) (event : Event) :
    desk.stepWith desk.reader event = desk.step event := by
  cases event <;> rfl

theorem runWith_readings (desk : Desk) (events : List Event) :
    desk.runWith (desk.readings events) = desk.run events := by
  induction events generalizing desk with
  | nil => rfl
  | cons event events ih => rw [readings, runWith_cons, stepWith_reader, ih, run_cons]

theorem mem_of_mem_readings {desk : Desk} {events : List Event} {reading : OrderReader × Event}
    (h : reading ∈ desk.readings events) : reading.2 ∈ events := by
  induction events generalizing desk with
  | nil => cases h
  | cons event events ih =>
    rcases List.mem_cons.1 h with rfl | h
    · exact List.mem_cons_self
    · exact List.mem_cons_of_mem _ (ih h)

@[simp] theorem store_record (desk : Desk) (recorded : List Recording) :
    (desk.record recorded).store = desk.store := rfl

@[simp] theorem subscriptions_record (desk : Desk) (recorded : List Recording) :
    (desk.record recorded).subscriptions = desk.subscriptions := rfl

@[simp] theorem store_afterTurn (desk : Desk) (turn : PollerTurn) :
    (desk.afterTurn turn).store = desk.store := by
  cases turn <;> rfl

@[simp] theorem subscriptions_afterTurn (desk : Desk) (turn : PollerTurn) :
    (desk.afterTurn turn).subscriptions = desk.subscriptions := by
  cases turn <;> rfl

/-! ## The simulator -/

/-- All that a loop of the simulator can do in its turn: it rests, it ends since the desk is shut
down, or it is due and passes. -/
theorem simulatorTurn_cases (desk : Desk) (k : Nat) (policy : Policy) (now : Nanos)
    (wall : Instant) :
    desk.simulatorTurn k policy now wall = (.rested, desk) ∨
    (k < desk.simulator.loops.length ∧ desk.isShutDown = true ∧
      desk.simulatorTurn k policy now wall =
        (.ended, { desk with simulator := desk.simulator.endLoop k })) ∨
    ∃ due, desk.simulator.loops[k]? = some due ∧ desk.isShutDown = false ∧ due ≤ now ∧
      desk.simulatorTurn k policy now wall =
        (.passed (desk.pass policy wall).1,
          { (desk.pass policy wall).2 with
            simulator := (desk.pass policy wall).2.simulator.setLoop k
              (nextDue due desk.simulator.interval now) }) := by
  unfold simulatorTurn
  cases hk : desk.simulator.loops[k]? with
  | none => exact .inl rfl
  | some due =>
    obtain ⟨hlt, -⟩ := List.getElem?_eq_some_iff.1 hk
    dsimp only
    split
    · next hshut => exact .inr (.inl ⟨hlt, hshut, rfl⟩)
    · next hopen =>
      split
      · next hdue => exact .inr (.inr ⟨due, rfl, by simpa using hopen, hdue, rfl⟩)
      · exact .inl rfl

/-! ## The store -/

theorem exists_run_createOrder {σ : Type} (desk : Desk) (source : MarketSource σ)
    (draws : List OrderId) (fresh : Uuid) (wall : Instant) (call : RequestId.Call)
    (request : WireCreateRequest) (state : σ) : ∃ ops,
      (Rpc.createOrder desk source draws fresh wall call request state).desk.store =
        desk.store.run ops := by
  unfold Rpc.createOrder
  cases request.decode with
  | error e => exact ⟨[], rfl⟩
  | ok decoded =>
    obtain ⟨ops, h⟩ := Service.exists_run_placeOrder source draws fresh wall
      { decoded with requestId := some call.id } desk.store state
    refine ⟨ops, ?_⟩
    rw [← h]
    dsimp only
    split <;> rfl

theorem store_simulatorTurn (desk : Desk) (k : Nat) (policy : Policy) (now : Nanos)
    (wall : Instant) : (desk.simulatorTurn k policy now wall).2.store = desk.store ∨
      (desk.simulatorTurn k policy now wall).2.store = desk.store.step (.pass policy wall) := by
  rcases desk.simulatorTurn_cases k policy now wall with h | ⟨-, -, h⟩ | ⟨due, -, -, -, h⟩
  · exact .inl (by rw [h])
  · exact .inl (by rw [h])
  · exact .inr (by rw [h]; rfl)

/-- An event does to the store what some operations do. -/
theorem exists_run_step (desk : Desk) (event : Event) :
    ∃ ops, (desk.step event).store = desk.store.run ops := by
  cases event with
  | atStore op => exact ⟨[op], rfl⟩
  | createOrder source draws fresh wall call request =>
    exact exists_run_createOrder desk source draws fresh wall call request ()
  | pass policy wall => exact ⟨[.pass policy wall], rfl⟩
  | subscribe query now =>
    refine ⟨[], ?_⟩
    simp only [step, subscribe]
    split <;> rfl
  | pollerTurn i now =>
    refine ⟨[], ?_⟩
    simp only [step, pollerTurn]
    split <;> simp [setSubscription]
  | receive i =>
    refine ⟨[], ?_⟩
    simp only [step, receive]
    split <;> rfl
  | cancel i => exact ⟨[], rfl⟩
  | dropReceiver i => exact ⟨[], rfl⟩
  | drop i => exact ⟨[], rfl⟩
  | startSimulator now => exact ⟨[], rfl⟩
  | simulatorTurn k policy now wall =>
    rcases desk.store_simulatorTurn k policy now wall with h | h
    · exact ⟨[], h⟩
    · exact ⟨[.pass policy wall], h⟩
  | shutDown => exact ⟨[], rfl⟩

theorem exists_run_run (desk : Desk) (events : List Event) :
    ∃ ops, (desk.run events).store = desk.store.run ops := by
  induction events generalizing desk with
  | nil => exact ⟨[], rfl⟩
  | cons event events ih =>
    obtain ⟨ops, h⟩ := desk.exists_run_step event
    obtain ⟨ops', h'⟩ := ih (desk.step event)
    exact ⟨ops ++ ops', by rw [run_cons, h', h, OrderStore.run_append]⟩

theorem Reachable.store {desk : Desk} (h : desk.Reachable) : desk.store.Reachable := by
  obtain ⟨pollInterval, bufferCapacity, simulatorInterval, events, rfl⟩ := h
  obtain ⟨ops, hops⟩ := exists_run_run (.make pollInterval bufferCapacity simulatorInterval) events
  exact ⟨ops, hops⟩

/-! ## One subscription -/

/-- The move that an event makes of a subscription. -/
def Event.moveOf (i : Nat) : Event → Option Subscription.Move
  | .pollerTurn j now => if j = i then some (.turn now) else none
  | .receive j => if j = i then some .receive else none
  | .cancel j => if j = i then some .cancel else none
  | .dropReceiver j => if j = i then some .dropReceiver else none
  | .drop j => if j = i then some .drop else none
  | .shutDown => some .cancel
  | _ => none

/-- A call to place an order touches the store and the metrics only. -/
theorem exists_desk_createOrder {σ : Type} (desk : Desk) (source : MarketSource σ)
    (draws : List OrderId) (fresh : Uuid) (wall : Instant) (call : RequestId.Call)
    (request : WireCreateRequest) (state : σ) : ∃ store metrics,
      (Rpc.createOrder desk source draws fresh wall call request state).desk =
        { desk with store, metrics } := by
  unfold Rpc.createOrder
  split
  · exact ⟨_, _, rfl⟩
  · dsimp only
    split <;> exact ⟨_, _, rfl⟩

theorem subscriptions_createOrder {σ : Type} (desk : Desk) (source : MarketSource σ)
    (draws : List OrderId) (fresh : Uuid) (wall : Instant) (call : RequestId.Call)
    (request : WireCreateRequest) (state : σ) :
    (Rpc.createOrder desk source draws fresh wall call request state).desk.subscriptions =
      desk.subscriptions := by
  obtain ⟨store, metrics, h⟩ :=
    desk.exists_desk_createOrder source draws fresh wall call request state
  rw [h]

theorem subscriptions_simulatorTurn (desk : Desk) (k : Nat) (policy : Policy) (now : Nanos)
    (wall : Instant) :
    (desk.simulatorTurn k policy now wall).2.subscriptions = desk.subscriptions := by
  rcases desk.simulatorTurn_cases k policy now wall with h | ⟨-, -, h⟩ | ⟨due, -, -, -, h⟩
  · rw [h]
  · rw [h]
  · rw [h]
    rfl

/-- A subscription in the list stays in its place when others are added. -/
theorem getElem?_subscribe {desk : Desk} {i : Nat} {s : Subscription}
    (h : desk.subscriptions[i]? = some s) (read : OrderReader) (query : OrderQuery) (now : Nanos) :
    (desk.subscribe read query now).2.subscriptions[i]? = some s := by
  unfold subscribe
  split
  · exact h
  · obtain ⟨hi, -⟩ := List.getElem?_eq_some_iff.1 h
    rw [List.getElem?_append_left hi]
    exact h

theorem getElem?_modifySubscription {desk : Desk} {i : Nat} {s : Subscription}
    (h : desk.subscriptions[i]? = some s) (j : Nat) (f : Subscription → Subscription) :
    (desk.modifySubscription j f).subscriptions[i]? = some (if j = i then f s else s) := by
  simp only [modifySubscription, List.getElem?_modify, h]
  split <;> rfl

theorem getElem?_setSubscription {desk : Desk} {i : Nat} {s : Subscription}
    (h : desk.subscriptions[i]? = some s) (j : Nat) (t : Subscription) :
    (desk.setSubscription j t).subscriptions[i]? = some (if j = i then t else s) := by
  obtain ⟨hi, -⟩ := List.getElem?_eq_some_iff.1 h
  rw [setSubscription, List.getElem?_set]
  by_cases hj : j = i
  · simp [hj, hi]
  · simp [hj, h]

theorem getElem?_pollerTurn {desk : Desk} {i : Nat} {s : Subscription}
    (h : desk.subscriptions[i]? = some s) (j : Nat) (read : OrderReader) (now : Nanos) :
    (desk.pollerTurn j read now).subscriptions[i]? =
      some (if j = i then (s.turn read now).1 else s) := by
  unfold pollerTurn
  by_cases hj : j = i
  · subst hj
    simp [h, getElem?_setSubscription h]
  · cases desk.subscriptions[j]? with
    | none => simpa [hj] using h
    | some other => simp [getElem?_setSubscription h, hj]

theorem getElem?_receive {desk : Desk} {i : Nat} {s : Subscription}
    (h : desk.subscriptions[i]? = some s) (j : Nat) :
    (desk.receive j).2.subscriptions[i]? = some (if j = i then s.receive.2 else s) := by
  unfold receive
  by_cases hj : j = i
  · subst hj
    simp [h, getElem?_setSubscription h]
  · cases desk.subscriptions[j]? with
    | none => simpa [hj] using h
    | some other => simp [getElem?_setSubscription h, hj]

/-- A subscription makes the move of an event. -/
theorem getElem?_stepWith {desk : Desk} {i : Nat} {s : Subscription}
    (h : desk.subscriptions[i]? = some s) (read : OrderReader) (event : Event) :
    (desk.stepWith read event).subscriptions[i]? =
      some (((event.moveOf i).map (s.step read)).getD s) := by
  cases event with
  | atStore op => exact h
  | createOrder source draws fresh wall call request =>
    simp only [stepWith, step, subscriptions_createOrder]
    exact h
  | pass policy wall => exact h
  | subscribe query now => exact getElem?_subscribe h read query now
  | pollerTurn j now =>
    rw [stepWith, getElem?_pollerTurn h, Event.moveOf]
    split <;> rfl
  | receive j =>
    simp only [stepWith, step, getElem?_receive h, Event.moveOf]
    split <;> rfl
  | cancel j =>
    simp only [stepWith, step, getElem?_modifySubscription h, Event.moveOf]
    split <;> rfl
  | dropReceiver j =>
    simp only [stepWith, step, getElem?_modifySubscription h, Event.moveOf]
    split <;> rfl
  | drop j =>
    simp only [stepWith, step, getElem?_modifySubscription h, Event.moveOf]
    split <;> rfl
  | startSimulator now => exact h
  | simulatorTurn k policy now wall =>
    simp only [stepWith, step, subscriptions_simulatorTurn]
    exact h
  | shutDown => simp [stepWith, step, shutDown, h, Event.moveOf, Subscription.step]

theorem getElem?_step {desk : Desk} {i : Nat} {s : Subscription}
    (h : desk.subscriptions[i]? = some s) (event : Event) :
    (desk.step event).subscriptions[i]? =
      some (((event.moveOf i).map (s.step desk.reader)).getD s) := by
  rw [← stepWith_reader]
  exact getElem?_stepWith h desk.reader event

theorem getElem?_stepWith_pollerTurn {desk : Desk} {i : Nat} {s : Subscription}
    (h : desk.subscriptions[i]? = some s) (read : OrderReader) (now : Nanos) :
    (desk.stepWith read (.pollerTurn i now)).subscriptions[i]? = some (s.turn read now).1 := by
  rw [stepWith, getElem?_pollerTurn h, if_pos rfl]

theorem getElem?_step_pollerTurn {desk : Desk} {i : Nat} {s : Subscription}
    (h : desk.subscriptions[i]? = some s) (now : Nanos) :
    (desk.step (.pollerTurn i now)).subscriptions[i]? = some (s.turn desk.reader now).1 :=
  getElem?_stepWith_pollerTurn h desk.reader now

/-- The moves that a history makes of a subscription. -/
def movesOf (i : Nat) (readings : List (OrderReader × Event)) :
    List (OrderReader × Subscription.Move) :=
  readings.filterMap fun reading => (reading.2.moveOf i).map fun move => (reading.1, move)

theorem movesOf_cons (i : Nat) (read : OrderReader) (event : Event)
    (readings : List (OrderReader × Event)) : movesOf i ((read, event) :: readings) =
      match event.moveOf i with
      | none => movesOf i readings
      | some move => (read, move) :: movesOf i readings := by
  rw [movesOf, List.filterMap_cons]
  cases event.moveOf i <;> rfl

/-- A subscription makes the moves of a history and nothing else. -/
theorem getElem?_runWith {desk : Desk} {i : Nat} {s : Subscription}
    (h : desk.subscriptions[i]? = some s) (readings : List (OrderReader × Event)) :
    (desk.runWith readings).subscriptions[i]? = some (s.run (movesOf i readings)) := by
  induction readings generalizing desk s with
  | nil => exact h
  | cons reading readings ih =>
    obtain ⟨read, event⟩ := reading
    rw [runWith_cons, ih (getElem?_stepWith h read event), movesOf_cons]
    cases event.moveOf i <;> rfl

theorem getElem?_run {desk : Desk} {i : Nat} {s : Subscription}
    (h : desk.subscriptions[i]? = some s) (events : List Event) :
    (desk.run events).subscriptions[i]? = some (s.run (movesOf i (desk.readings events))) := by
  rw [← runWith_readings]
  exact getElem?_runWith h (desk.readings events)

/-! ## What a desk was set up with -/

/-- What a desk was set up with: the period of its subscriptions, the room in their queues, and the
interval of its simulator. -/
def setUp (desk : Desk) : Nanos × Nat × Nanos :=
  (desk.pollInterval, desk.bufferCapacity, desk.simulator.interval)

@[simp] theorem setUp_afterTurn (desk : Desk) (turn : PollerTurn) :
    (desk.afterTurn turn).setUp = desk.setUp := by
  cases turn <;> rfl

theorem setUp_createOrder {σ : Type} (desk : Desk) (source : MarketSource σ)
    (draws : List OrderId) (fresh : Uuid) (wall : Instant) (call : RequestId.Call)
    (request : WireCreateRequest) (state : σ) :
    (Rpc.createOrder desk source draws fresh wall call request state).desk.setUp = desk.setUp := by
  obtain ⟨store, metrics, h⟩ :=
    desk.exists_desk_createOrder source draws fresh wall call request state
  rw [h]
  rfl

theorem setUp_simulatorTurn (desk : Desk) (k : Nat) (policy : Policy) (now : Nanos)
    (wall : Instant) : (desk.simulatorTurn k policy now wall).2.setUp = desk.setUp := by
  rcases desk.simulatorTurn_cases k policy now wall with h | ⟨-, -, h⟩ | ⟨due, -, -, -, h⟩
  · rw [h]
  · rw [h]
    rfl
  · rw [h]
    rfl

theorem setUp_step (desk : Desk) (event : Event) : (desk.step event).setUp = desk.setUp := by
  cases event with
  | createOrder source draws fresh wall call request =>
    exact setUp_createOrder desk source draws fresh wall call request ()
  | subscribe query now =>
    rw [step, subscribe]
    split <;> rfl
  | pollerTurn i now =>
    rw [step, pollerTurn]
    split
    · rfl
    · exact setUp_afterTurn _ _
  | receive i =>
    rw [step, receive]
    split <;> rfl
  | simulatorTurn k policy now wall => exact desk.setUp_simulatorTurn k policy now wall
  | atStore op => rfl
  | pass policy wall => rfl
  | cancel i => rfl
  | dropReceiver i => rfl
  | drop i => rfl
  | startSimulator now => rfl
  | shutDown => rfl

theorem setUp_run (desk : Desk) (events : List Event) : (desk.run events).setUp = desk.setUp := by
  induction events generalizing desk with
  | nil => rfl
  | cons event events ih => rw [run_cons, ih, setUp_step]

end OrderDesk.Desk
