import OrderDesk.Proofs.Desk.Isolation

/-!
# What happens without a pass

Orders move in passes only. An event that makes none (`Desk.passes`) may add orders, but keeps every
order that is stored as it is, and so does a history without passes (`Frozen.of_isQuiet`).

The simulator counts its passes and keeps the time of the last one. A history that leaves the count
leaves the time (`lastTickAt_run`).
-/

namespace OrderDesk

/-- Whether a loop of the simulator made a pass in its turn. -/
def SimulatorTurn.isPass : SimulatorTurn → Bool
  | .passed _ => true
  | _ => false

namespace Desk

/-- Whether an event makes a pass over the orders. -/
def passes (desk : Desk) : Event → Bool
  | .atStore op => op.isPass
  | .pass .. => true
  | .simulatorTurn k policy now wall => (desk.simulatorTurn k policy now wall).1.isPass
  | _ => false

/-- Whether no pass is made in a history. -/
def isQuiet (desk : Desk) : List Event → Bool
  | [] => true
  | event :: events => !desk.passes event && (desk.step event).isQuiet events

theorem isQuiet_append (desk : Desk) (events later : List Event) :
    desk.isQuiet (events ++ later) = (desk.isQuiet events && (desk.run events).isQuiet later) := by
  induction events generalizing desk with
  | nil => rfl
  | cons event events ih => rw [List.cons_append, isQuiet, ih, isQuiet, Bool.and_assoc, run_cons]

/-- Everything that a pass changes is as it was: the passes that were made, and the orders that were
stored. -/
structure Frozen (desk after : Desk) : Prop where
  ticks : after.simulator.ticks = desk.simulator.ticks
  lastTickAt : after.simulator.lastTickAt = desk.simulator.lastTickAt
  orders : ∀ id order, desk.store.get? id = some order → after.store.get? id = some order

namespace Frozen

theorem refl (desk : Desk) : Frozen desk desk :=
  ⟨rfl, rfl, fun _ _ h => h⟩

theorem trans {a b c : Desk} (hab : Frozen a b) (hbc : Frozen b c) : Frozen a c :=
  ⟨hbc.ticks.trans hab.ticks, hbc.lastTickAt.trans hab.lastTickAt,
    fun id order h => hbc.orders id order (hab.orders id order h)⟩

theorem of_business {desk after : Desk} (h : after.business = desk.business) :
    Frozen desk after := by
  obtain ⟨hstore, hsimulator, -⟩ := by simpa [business] using h
  exact ⟨by rw [hsimulator], by rw [hsimulator], fun id order ho => by rwa [hstore]⟩

end Frozen

theorem frozen_createOrder {σ : Type} (desk : Desk) (source : MarketSource σ)
    (draws : List OrderId) (fresh : Uuid) (wall : Instant) (call : RequestId.Call)
    (request : WireCreateRequest) (state : σ) :
    Frozen desk (Rpc.createOrder desk source draws fresh wall call request state).desk := by
  have hbusiness := desk.business_createOrder source draws fresh wall call request state
  obtain ⟨hstore, hsimulator, -⟩ := by simpa [business] using hbusiness
  refine ⟨by rw [hsimulator], by rw [hsimulator], fun id order ho => ?_⟩
  rw [hstore]
  cases request.decode with
  | error e => exact ho
  | ok decoded => exact Service.get?_placeOrder source draws fresh wall _ _ state ho

theorem frozen_simulatorTurn {desk : Desk} {k : Nat} {policy : Policy} {now : Nanos}
    {wall : Instant} (h : (desk.simulatorTurn k policy now wall).1.isPass = false) :
    Frozen desk (desk.simulatorTurn k policy now wall).2 := by
  rcases desk.simulatorTurn_cases k policy now wall with ht | ⟨-, -, ht⟩ | ⟨due, -, -, -, ht⟩
  · rw [ht]
    exact .refl desk
  · rw [ht]
    exact ⟨rfl, rfl, fun _ _ ho => ho⟩
  · rw [ht] at h
    cases h

/-- An event that makes no pass keeps everything that a pass changes. -/
theorem frozen_step {desk : Desk} {event : Event} (h : desk.passes event = false) :
    Frozen desk (desk.step event) := by
  by_cases hsub : event.isSubscribers = true
  · exact .of_business (business_step_of_isSubscribers desk hsub)
  · cases event with
    | atStore op =>
      exact ⟨rfl, rfl, fun _ _ ho => OrderStore.get?_step_of_isPass_eq_false h ho⟩
    | createOrder source draws fresh wall call request =>
      exact desk.frozen_createOrder source draws fresh wall call request ()
    | pass policy wall => cases h
    | startSimulator now => exact ⟨rfl, rfl, fun _ _ ho => ho⟩
    | simulatorTurn k policy now wall => exact frozen_simulatorTurn h
    | shutDown => exact ⟨rfl, rfl, fun _ _ ho => ho⟩
    | _ => exact absurd rfl hsub

theorem Frozen.of_isQuiet {desk : Desk} {events : List Event} (h : desk.isQuiet events = true) :
    Frozen desk (desk.run events) := by
  induction events generalizing desk with
  | nil => exact .refl desk
  | cons event events ih =>
    obtain ⟨hevent, hrest⟩ := by simpa [isQuiet] using h
    exact (frozen_step hevent).trans (ih hrest)

/-- What the owner of a stored order is told of it stays while no pass is made. -/
theorem Frozen.get_eq {desk after : Desk} (h : Frozen desk after) {id : OrderId} {order : Order}
    (ho : desk.store.get id = .ok order) : after.store.get id = .ok order :=
  OrderStore.get_eq_ok_iff.2 (h.orders id order (OrderStore.get_eq_ok_iff.1 ho))

/-! ## The count of passes -/

/-- A loop that passes in its turn makes the pass, puts off its next one, and goes on. -/
theorem simulatorTurn_of_isPass {desk : Desk} {k : Nat} {policy : Policy} {now : Nanos}
    {wall : Instant} (h : (desk.simulatorTurn k policy now wall).1.isPass = true) :
    ∃ due, (desk.simulatorTurn k policy now wall).2.simulator =
      (desk.pass policy wall).2.simulator.setLoop k due := by
  rcases desk.simulatorTurn_cases k policy now wall with ht | ⟨-, -, ht⟩ | ⟨due, -, -, -, ht⟩
  · rw [ht] at h
    cases h
  · rw [ht] at h
    cases h
  · exact ⟨_, by rw [ht]⟩

/-- An event leaves the count of passes and the time of the last one, or is counted itself. -/
theorem ticks_step (desk : Desk) (event : Event) :
    ((desk.step event).simulator.ticks = desk.simulator.ticks ∧
      (desk.step event).simulator.lastTickAt = desk.simulator.lastTickAt) ∨
    (desk.step event).simulator.ticks = desk.simulator.ticks + 1 := by
  cases h : desk.passes event with
  | false => exact .inl ⟨(frozen_step h).ticks, (frozen_step h).lastTickAt⟩
  | true =>
    cases event with
    | atStore op => exact .inl ⟨rfl, rfl⟩
    | pass policy wall => exact .inr rfl
    | simulatorTurn k policy now wall =>
      obtain ⟨due, hturn⟩ := simulatorTurn_of_isPass h
      exact .inr (by rw [step, hturn]; rfl)
    | _ => cases h

theorem ticks_le_run (desk : Desk) (events : List Event) :
    desk.simulator.ticks ≤ (desk.run events).simulator.ticks := by
  induction events generalizing desk with
  | nil => exact Nat.le_refl _
  | cons event events ih =>
    have hrest := ih (desk.step event)
    rw [run_cons]
    rcases desk.ticks_step event with ⟨hticks, -⟩ | hticks <;> omega

/-- The time of the last pass stays as long as no pass is counted. -/
theorem lastTickAt_run {desk : Desk} {events : List Event}
    (h : (desk.run events).simulator.ticks = desk.simulator.ticks) :
    (desk.run events).simulator.lastTickAt = desk.simulator.lastTickAt := by
  induction events generalizing desk with
  | nil => rfl
  | cons event events ih =>
    rw [run_cons] at h ⊢
    rcases desk.ticks_step event with ⟨hticks, hlast⟩ | hticks
    · rw [ih (h.trans hticks.symm), hlast]
    · have hle := ticks_le_run (desk.step event) events
      omega

end Desk

end OrderDesk
