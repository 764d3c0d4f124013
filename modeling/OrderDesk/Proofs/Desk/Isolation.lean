import OrderDesk.Proofs.Desk.History

/-!
# Subscribers do not get in each other's way

`Desk.business` is the part of a desk that no subscription has a share in. What happens to
subscriptions leaves it alone (`business_step_of_isSubscribers`), and everything that happens to it
depends on it alone (`business_step`). So what one subscriber does makes no difference, then or
later, to the orders and to the subscriptions of others (`run_step_of_isSubscribers`).
-/

namespace OrderDesk.Desk

/-- The part of a desk that no subscription has a share in. -/
def business (desk : Desk) : OrderStore × Simulator × Bool :=
  (desk.store, desk.simulator, desk.isShutDown)

/-- Whether an event is about subscriptions alone. -/
def Event.isSubscribers : Event → Bool
  | .subscribe .. | .pollerTurn .. | .receive _ | .cancel _ | .dropReceiver _ | .drop _ => true
  | _ => false

@[simp] theorem business_afterTurn (desk : Desk) (turn : PollerTurn) :
    (desk.afterTurn turn).business = desk.business := by
  cases turn <;> rfl

theorem business_pollerTurn (desk : Desk) (i : Nat) (read : OrderReader) (now : Nanos) :
    (desk.pollerTurn i read now).business = desk.business := by
  unfold pollerTurn
  split
  · rfl
  · exact business_afterTurn _ _

theorem business_step_of_isSubscribers (desk : Desk) {event : Event}
    (h : event.isSubscribers = true) : (desk.step event).business = desk.business := by
  cases event with
  | subscribe query now =>
    rw [step, subscribe]
    split <;> rfl
  | pollerTurn i now => exact desk.business_pollerTurn i desk.reader now
  | receive i =>
    rw [step, receive]
    split <;> rfl
  | cancel i => rfl
  | dropReceiver i => rfl
  | drop i => rfl
  | _ => cases h

theorem business_createOrder {σ : Type} (desk : Desk) (source : MarketSource σ)
    (draws : List OrderId) (fresh : Uuid) (wall : Instant) (call : RequestId.Call)
    (request : WireCreateRequest) (state : σ) :
    (Rpc.createOrder desk source draws fresh wall call request state).desk.business =
      (match request.decode with
        | .error _ => desk.store
        | .ok decoded => (Service.placeOrder source draws fresh wall
            { decoded with requestId := some call.id } desk.store state).store,
        desk.simulator, desk.isShutDown) := by
  unfold Rpc.createOrder
  cases request.decode with
  | error e => rfl
  | ok decoded =>
    dsimp only
    split <;> rfl

theorem business_simulatorTurn {a b : Desk} (h : a.business = b.business) (k : Nat)
    (policy : Policy) (now : Nanos) (wall : Instant) :
    (a.simulatorTurn k policy now wall).2.business =
      (b.simulatorTurn k policy now wall).2.business := by
  obtain ⟨hstore, hsimulator, hshut⟩ := by simpa [business] using h
  unfold simulatorTurn
  rw [hsimulator, hshut]
  cases b.simulator.loops[k]? with
  | none => exact h
  | some due =>
    dsimp only
    split
    · simp [business, hstore]
    · split
      · simp [business, pass, record, hstore, hsimulator, hshut]
      · exact h

theorem business_step {a b : Desk} (h : a.business = b.business) (event : Event) :
    (a.step event).business = (b.step event).business := by
  by_cases hsub : event.isSubscribers = true
  · rw [business_step_of_isSubscribers a hsub, business_step_of_isSubscribers b hsub, h]
  · obtain ⟨hstore, hsimulator, hshut⟩ := by simpa [business] using h
    cases event with
    | atStore op => simp [step, business, hstore, hsimulator, hshut]
    | createOrder source draws fresh wall call request =>
      rw [step, step, business_createOrder, business_createOrder, hstore, hsimulator, hshut]
    | pass policy wall => simp [step, business, pass, record, hstore, hsimulator, hshut]
    | startSimulator now => simp [step, business, startSimulator, hstore, hsimulator, hshut]
    | simulatorTurn k policy now wall => exact business_simulatorTurn h k policy now wall
    | shutDown => simp [step, business, shutDown, hstore, hsimulator]
    | _ => exact absurd rfl hsub

theorem business_run {a b : Desk} (h : a.business = b.business) (events : List Event) :
    (a.run events).business = (b.run events).business ∧ a.readings events = b.readings events := by
  induction events generalizing a b with
  | nil => exact ⟨h, rfl⟩
  | cons event events ih =>
    obtain ⟨hrun, hreadings⟩ := ih (business_step h event)
    have hreader : a.reader = b.reader := congrArg (fun x => x.1.get) h
    exact ⟨hrun, by rw [readings, readings, hreader, hreadings]⟩

/-- Whether something happens among subscribers or not makes no difference later, neither to the
store nor to a subscription that it did not happen to. -/
theorem run_step_of_isSubscribers (desk : Desk) {event : Event} (h : event.isSubscribers = true)
    (later : List Event) : ((desk.step event).run later).store = (desk.run later).store ∧
      ∀ j s, event.moveOf j = none → desk.subscriptions[j]? = some s →
        ((desk.step event).run later).subscriptions[j]? = (desk.run later).subscriptions[j]? := by
  obtain ⟨hbusiness, hreadings⟩ := business_run (business_step_of_isSubscribers desk h) later
  refine ⟨congrArg Prod.fst hbusiness, fun j s hnone hs => ?_⟩
  have hstep : (desk.step event).subscriptions[j]? = some s := by
    rw [getElem?_step hs, hnone]
    rfl
  rw [getElem?_run hstep, getElem?_run hs, hreadings]

end OrderDesk.Desk
