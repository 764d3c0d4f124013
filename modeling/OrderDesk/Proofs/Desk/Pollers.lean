import OrderDesk.Proofs.Desk.Recordings
import OrderDesk.Proofs.Metrics.Gauge
import OrderDesk.Proofs.Subscription.Ending

/-!
# Counting pollers

Which pollers a history starts (`Desk.started`) and which it ends (`Desk.ended`), by the numbers of
their subscriptions, and what the desk counts of that.

`Desk.tally` is all that is counted: for each subscription whether its poller is live, the count of
the desk and the gauge. `tally_stepWith` is all that an event can do to it: it adds a live poller,
ends one that is live, or leaves everything as it is. So the count agrees with what was started and
has not ended (`Counted.start`, `Counted.runWith`), and is never taken below zero
(`Counted.recounts`).

`pollers_counted` is what anybody who reads the count or the gauge may count on.
-/

namespace OrderDesk.Desk

open Subscription

/-- Whether the source of a call to place an order records nothing about subscriptions. -/
def Event.CountsOnly : Event → Prop
  | .createOrder source _ _ _ _ _ => source.CountsOnly
  | _ => True

/-- Whether an event gives a subscription up: by its handle, on the side of its receiver, both ways
at once, or with the whole desk. -/
def Event.Stops (i : Nat) (event : Event) : Prop :=
  event = .cancel i ∨ event = .dropReceiver i ∨ event = .drop i ∨ event = .shutDown

/-! ## What starts and what ends -/

/-- The poller that an event starts, if it starts one. -/
def starts (desk : Desk) (read : OrderReader) : Event → List Nat
  | .subscribe query now =>
    match (desk.subscribe read query now).1 with
    | .ok i => [i]
    | .error _ => []
  | _ => []

/-- The poller that an event ends, if it ends one. -/
def ends (desk : Desk) (read : OrderReader) : Event → List Nat
  | .pollerTurn i now =>
    match desk.subscriptions[i]? with
    | some s => if (s.turn read now).2 = .ended then [i] else []
    | none => []
  | _ => []

/-- The pollers that a history starts, in their order. -/
def started (desk : Desk) : List (OrderReader × Event) → List Nat
  | [] => []
  | (read, event) :: readings =>
    desk.starts read event ++ (desk.stepWith read event).started readings

/-- The pollers that a history ends, in the order in which they end. -/
def ended (desk : Desk) : List (OrderReader × Event) → List Nat
  | [] => []
  | (read, event) :: readings => desk.ends read event ++ (desk.stepWith read event).ended readings

variable {desk : Desk} {read : OrderReader}

theorem ends_pollerTurn_eq {i : Nat} {s : Subscription} (hs : desk.subscriptions[i]? = some s)
    (now : Nanos) :
    desk.ends read (.pollerTurn i now) = if (s.turn read now).2 = .ended then [i] else [] := by
  simp only [ends, hs]

/-- A poller ends in the first of its turns in which it is not wanted. -/
theorem ends_pollerTurn_iff {i : Nat} {now : Nanos} :
    desk.ends read (.pollerTurn i now) = [i] ↔
      ∃ s, desk.subscriptions[i]? = some s ∧ s.Ends := by
  cases hs : desk.subscriptions[i]? with
  | none => simp [ends, hs]
  | some s =>
    rw [ends_pollerTurn_eq hs]
    simp [turn_snd_eq_ended_iff]

/-! ## What is counted -/

/-- For each subscription whether its poller is live. -/
def living (desk : Desk) : List Bool :=
  desk.subscriptions.map isLive

/-- All that is counted of pollers: those that are live, the count of the desk, and the gauge. -/
def tally (desk : Desk) : List Bool × Nat × Nat :=
  (desk.living, desk.active, desk.metrics.activeSubscriptions)

theorem getElem?_living (desk : Desk) (i : Nat) :
    desk.living[i]? = desk.subscriptions[i]?.map isLive :=
  List.getElem?_map

theorem living_set {i : Nat} {s : Subscription} (hs : desk.subscriptions[i]? = some s)
    {t : Subscription} (ht : t.isLive = s.isLive) :
    (desk.subscriptions.set i t).map isLive = desk.living := by
  obtain ⟨hi, rfl⟩ := List.getElem?_eq_some_iff.1 hs
  rw [List.map_set, ht, ← List.getElem_map isLive, List.set_getElem_self]
  · rfl
  · simpa using hi

theorem living_modify (i : Nat) {f : Subscription → Subscription}
    (hf : ∀ s, (f s).isLive = s.isLive) :
    (desk.subscriptions.modify i f).map isLive = desk.living := by
  refine List.ext_getElem? fun j => ?_
  rw [List.getElem?_map, List.getElem?_modify, getElem?_living]
  cases desk.subscriptions[j]? with
  | none => rfl
  | some s =>
    by_cases hij : i = j
    · simp [hij, hf]
    · simp [hij]

theorem tally_record {recorded : List Recording} (h : ∀ r ∈ recorded, r.IsCount) (desk : Desk) :
    (desk.record recorded).tally = desk.tally := by
  simp only [tally, living, record, Metrics.activeSubscriptions_recordAll h]

theorem tally_createOrder {σ : Type} {source : MarketSource σ} (h : source.CountsOnly)
    (desk : Desk) (draws : List OrderId) (fresh : Uuid) (wall : Instant) (call : RequestId.Call)
    (request : WireCreateRequest) (state : σ) :
    (Rpc.createOrder desk source draws fresh wall call request state).desk.tally = desk.tally := by
  have hfailed (desk : Desk) (e : ServiceError) : (Rpc.countFailure desk e).tally = desk.tally :=
    tally_record (fun r hr => ⟨_, List.mem_singleton.1 hr⟩) desk
  unfold Rpc.createOrder
  cases request.decode with
  | error e => exact hfailed desk _
  | ok decoded =>
    have hplaced : (desk.placeOrder source draws fresh wall
        { decoded with requestId := some call.id } state).desk.tally = desk.tally :=
      tally_record (fun r hr => Service.isCount_of_mem_recorded h hr) _
    dsimp only
    split
    · exact hplaced
    · exact (hfailed _ _).trans hplaced

theorem tally_pass (desk : Desk) (policy : Policy) (wall : Instant) :
    (desk.pass policy wall).2.tally = desk.tally :=
  tally_record (fun _ hr => Simulator.isCount_of_mem_recordings hr) _

theorem tally_subscribe (desk : Desk) (read : OrderReader) (query : OrderQuery) (now : Nanos) :
    (desk.starts read (.subscribe query now) = [desk.subscriptions.length] ∧
      (desk.subscribe read query now).2.tally =
        (desk.living ++ [true], desk.active + 1, desk.active + 1)) ∨
    (desk.starts read (.subscribe query now) = [] ∧
      (desk.subscribe read query now).2 = desk) := by
  simp only [starts, subscribe]
  cases Service.admission read query with
  | error e => exact .inr ⟨rfl, rfl⟩
  | ok u =>
    refine .inl ⟨rfl, ?_⟩
    simp only [tally, living, List.map_append]
    rfl

/-- A turn of a poller ends it and counts it down, or it leaves everything as it is. -/
theorem tally_pollerTurn (desk : Desk) (i : Nat) (read : OrderReader) (now : Nanos) :
    (desk.ends read (.pollerTurn i now) = [i] ∧ desk.living[i]? = some true ∧
      (desk.pollerTurn i read now).tally =
        (desk.living.set i false, desk.active - 1, desk.active - 1)) ∨
    (desk.ends read (.pollerTurn i now) = [] ∧
      (desk.pollerTurn i read now).tally = desk.tally) := by
  cases hs : desk.subscriptions[i]? with
  | none => exact .inr ⟨by simp only [ends, hs], by simp only [pollerTurn, hs]⟩
  | some s =>
    rw [ends_pollerTurn_eq hs]
    by_cases he : s.Ends
    · refine .inl ⟨if_pos (turn_snd_eq_ended_iff.2 he), ?_, ?_⟩
      · rw [getElem?_living, hs, Option.map_some, isLive_of_ends he]
      · simp only [pollerTurn, hs, turn_of_ends he]
        simp only [afterTurn, setSubscription, tally, living, setActive, record, List.map_set]
        rfl
    · have hne : (s.turn read now).2 ≠ .ended := mt turn_snd_eq_ended_iff.1 he
      have hlive : (s.turn read now).1.isLive = s.isLive :=
        isLive_step read (.turn now) fun _ _ => he
      have hset : (desk.setSubscription i (s.turn read now).1).tally = desk.tally := by
        simp only [tally, living, setSubscription]
        rw [living_set hs hlive]
        rfl
      refine .inr ⟨if_neg hne, ?_⟩
      simp only [pollerTurn, hs]
      rw [← hset]
      cases ht : (s.turn read now).2 with
      | rested => rfl
      | polled => rfl
      | queued update => rfl
      | ended => exact absurd ht hne

theorem tally_receive (desk : Desk) (i : Nat) : (desk.receive i).2.tally = desk.tally := by
  unfold receive
  cases hs : desk.subscriptions[i]? with
  | none => rfl
  | some s =>
    have hlive : s.receive.2.isLive = s.isLive :=
      isLive_step desk.reader .receive fun _ h => by cases h
    simp only [tally, living, setSubscription]
    rw [living_set hs hlive]
    rfl

theorem tally_modifySubscription (desk : Desk) (i : Nat) {f : Subscription → Subscription}
    (hf : ∀ s, (f s).isLive = s.isLive) : (desk.modifySubscription i f).tally = desk.tally := by
  simp only [tally, modifySubscription, living]
  rw [living_modify i hf]
  rfl

theorem tally_shutDown (desk : Desk) : desk.shutDown.tally = desk.tally := by
  simp only [tally, shutDown, living, List.map_map]
  rfl

theorem tally_simulatorTurn (desk : Desk) (k : Nat) (policy : Policy) (now : Nanos)
    (wall : Instant) : (desk.simulatorTurn k policy now wall).2.tally = desk.tally := by
  rcases desk.simulatorTurn_cases k policy now wall with h | ⟨-, -, h⟩ | ⟨due, -, -, -, h⟩
  · rw [h]
  · rw [h]
    rfl
  · rw [h]
    exact desk.tally_pass policy wall

/-- All that an event can do to what is counted: it starts a poller and counts it, it ends a live
one and counts it down, or it leaves everything as it is. -/
theorem tally_stepWith {event : Event} (h : event.CountsOnly) (desk : Desk) (read : OrderReader) :
    (desk.starts read event = [desk.subscriptions.length] ∧ desk.ends read event = [] ∧
      (desk.stepWith read event).tally =
        (desk.living ++ [true], desk.active + 1, desk.active + 1)) ∨
    (∃ i, desk.starts read event = [] ∧ desk.ends read event = [i] ∧
      desk.living[i]? = some true ∧
      (desk.stepWith read event).tally =
        (desk.living.set i false, desk.active - 1, desk.active - 1)) ∨
    (desk.starts read event = [] ∧ desk.ends read event = [] ∧
      (desk.stepWith read event).tally = desk.tally) := by
  cases event with
  | atStore op => exact .inr (.inr ⟨rfl, rfl, rfl⟩)
  | createOrder source draws fresh wall call request =>
    exact .inr (.inr ⟨rfl, rfl, tally_createOrder h desk draws fresh wall call request ()⟩)
  | pass policy wall => exact .inr (.inr ⟨rfl, rfl, desk.tally_pass policy wall⟩)
  | subscribe query now =>
    rcases desk.tally_subscribe read query now with ⟨hstarts, ht⟩ | ⟨hstarts, ht⟩
    · exact .inl ⟨hstarts, rfl, ht⟩
    · exact .inr (.inr ⟨hstarts, rfl, congrArg tally ht⟩)
  | pollerTurn i now =>
    rcases desk.tally_pollerTurn i read now with ⟨hends, hlive, ht⟩ | ⟨hends, ht⟩
    · exact .inr (.inl ⟨i, rfl, hends, hlive, ht⟩)
    · exact .inr (.inr ⟨rfl, hends, ht⟩)
  | receive i => exact .inr (.inr ⟨rfl, rfl, desk.tally_receive i⟩)
  | cancel i =>
    exact .inr (.inr ⟨rfl, rfl, desk.tally_modifySubscription i fun _ => rfl⟩)
  | dropReceiver i =>
    exact .inr (.inr ⟨rfl, rfl, desk.tally_modifySubscription i fun _ => rfl⟩)
  | drop i => exact .inr (.inr ⟨rfl, rfl, desk.tally_modifySubscription i fun _ => rfl⟩)
  | startSimulator now => exact .inr (.inr ⟨rfl, rfl, rfl⟩)
  | simulatorTurn k policy now wall =>
    exact .inr (.inr ⟨rfl, rfl, desk.tally_simulatorTurn k policy now wall⟩)
  | shutDown => exact .inr (.inr ⟨rfl, rfl, desk.tally_shutDown⟩)

/-! ## The count and the history -/

/-- How what is counted agrees with the pollers that were started and those that have ended. -/
structure Counted (desk : Desk) (started ended : List Nat) : Prop where
  /-- Every subscription had its poller started, once. -/
  started_eq : started = List.range desk.living.length
  /-- No poller ended twice. -/
  nodup : ended.Nodup
  mem_ended_iff : ∀ i, i ∈ ended ↔ desk.living[i]? = some false
  /-- The count is the number of pollers that were started and have not ended, -/
  active_add : desk.active + ended.length = started.length
  /-- and these are the live ones. -/
  active_eq : desk.active = desk.living.count true
  gauge_eq : desk.metrics.activeSubscriptions = desk.active

namespace Counted

variable {started ended : List Nat}

theorem start (pollInterval : Nanos) (bufferCapacity : Nat) (simulatorInterval : Nanos) :
    Counted (Desk.make pollInterval bufferCapacity simulatorInterval) [] [] :=
  { started_eq := rfl
    nodup := List.nodup_nil
    mem_ended_iff := fun i => by simp [living, Desk.make]
    active_add := rfl
    active_eq := rfl
    gauge_eq := rfl }

/-- Nothing changes while what is counted stays as it is. -/
theorem of_tally_eq (h : Counted desk started ended) {after : Desk}
    (ht : after.tally = desk.tally) : Counted after started ended := by
  obtain ⟨hliving, hactive, hgauge⟩ : after.living = desk.living ∧ after.active = desk.active ∧
      after.metrics.activeSubscriptions = desk.metrics.activeSubscriptions := by
    simpa only [tally, Prod.mk.injEq] using ht
  exact
    { started_eq := by rw [hliving]; exact h.started_eq
      nodup := h.nodup
      mem_ended_iff := by rw [hliving]; exact h.mem_ended_iff
      active_add := by rw [hactive]; exact h.active_add
      active_eq := by rw [hactive, hliving]; exact h.active_eq
      gauge_eq := by rw [hgauge, hactive]; exact h.gauge_eq }

theorem started_one (h : Counted desk started ended) {after : Desk}
    (ht : after.tally = (desk.living ++ [true], desk.active + 1, desk.active + 1)) :
    Counted after (started ++ [desk.living.length]) ended := by
  obtain ⟨hliving, hactive, hgauge⟩ : after.living = desk.living ++ [true] ∧
      after.active = desk.active + 1 ∧ after.metrics.activeSubscriptions = desk.active + 1 := by
    simpa only [tally, Prod.mk.injEq] using ht
  have hadd := h.active_add
  refine
    { started_eq := ?_
      nodup := h.nodup
      mem_ended_iff := fun i => ?_
      active_add := ?_
      active_eq := ?_
      gauge_eq := by rw [hgauge, hactive] }
  · rw [hliving, List.length_append, List.length_singleton, List.range_succ, h.started_eq]
  · rw [h.mem_ended_iff, hliving, List.getElem?_append]
    split
    · rfl
    · next hi =>
      -- a new subscription is live, and beyond it there is none
      rw [List.getElem?_eq_none (Nat.not_lt.1 hi), List.getElem?_singleton]
      split <;> simp
  · rw [hactive, List.length_append, List.length_singleton]
    omega
  · rw [hactive, hliving, List.count_append, h.active_eq]
    rfl

/-- There is something to count down as long as a poller is live. -/
theorem active_pos (h : Counted desk started ended) {i : Nat} (hi : desk.living[i]? = some true) :
    0 < desk.active := by
  rw [h.active_eq]
  exact List.count_pos_iff.2 (List.mem_of_getElem? hi)

theorem ended_one (h : Counted desk started ended) {i : Nat} (hi : desk.living[i]? = some true)
    {after : Desk}
    (ht : after.tally = (desk.living.set i false, desk.active - 1, desk.active - 1)) :
    Counted after started (ended ++ [i]) := by
  obtain ⟨hliving, hactive, hgauge⟩ : after.living = desk.living.set i false ∧
      after.active = desk.active - 1 ∧ after.metrics.activeSubscriptions = desk.active - 1 := by
    simpa only [tally, Prod.mk.injEq] using ht
  obtain ⟨hlt, hlive⟩ := List.getElem?_eq_some_iff.1 hi
  have hpos := h.active_pos hi
  have hnew : i ∉ ended := by
    rw [h.mem_ended_iff, hi]
    simp
  have hadd := h.active_add
  refine
    { started_eq := by rw [hliving, List.length_set]; exact h.started_eq
      nodup := ?_
      mem_ended_iff := fun j => ?_
      active_add := ?_
      active_eq := ?_
      gauge_eq := by rw [hgauge, hactive] }
  · rw [List.nodup_append]
    refine ⟨h.nodup, List.pairwise_singleton _ i, fun j hj k hk hjk => ?_⟩
    rw [hjk, List.mem_singleton.1 hk] at hj
    exact hnew hj
  · rw [List.mem_append, List.mem_singleton, h.mem_ended_iff, hliving, List.getElem?_set]
    by_cases hij : i = j
    · subst hij
      simp [hlt]
    · simp [hij, Ne.symm hij]
  · rw [hactive, List.length_append, List.length_singleton]
    omega
  · rw [hactive, hliving, List.count_set hlt, h.active_eq, hlive]
    simp

theorem stepWith (h : Counted desk started ended) {event : Event} (he : event.CountsOnly)
    (read : OrderReader) : Counted (desk.stepWith read event) (started ++ desk.starts read event)
      (ended ++ desk.ends read event) := by
  have hlength : desk.living.length = desk.subscriptions.length := List.length_map _
  rcases tally_stepWith he desk read with ⟨hstarts, hends, ht⟩ | ⟨i, hstarts, hends, hi, ht⟩ |
    ⟨hstarts, hends, ht⟩
  · rw [hstarts, hends, List.append_nil, ← hlength]
    exact h.started_one ht
  · rw [hstarts, hends, List.append_nil]
    exact h.ended_one hi ht
  · rw [hstarts, hends, List.append_nil, List.append_nil]
    exact h.of_tally_eq ht

theorem runWith (h : Counted desk started ended) {readings : List (OrderReader × Event)}
    (hr : ∀ reading ∈ readings, reading.2.CountsOnly) :
    Counted (desk.runWith readings) (started ++ desk.started readings)
      (ended ++ desk.ended readings) := by
  induction readings generalizing desk started ended with
  | nil => simpa [Desk.started, Desk.ended] using h
  | cons reading readings ih =>
    obtain ⟨read, event⟩ := reading
    obtain ⟨he, hrest⟩ := List.forall_mem_cons.1 hr
    rw [runWith_cons, Desk.started, Desk.ended, ← List.append_assoc, ← List.append_assoc]
    exact ih (h.stepWith he read) hrest

end Counted

/-- How the count of a desk changes. -/
structure Recounts (desk : Desk) : Prop where
  /-- A poller that an event starts is counted, and one that it ends is counted down. -/
  count : ∀ read event, event.CountsOnly →
    (desk.stepWith read event).active + (desk.ends read event).length =
      desk.active + (desk.starts read event).length
  /-- The count is not taken below zero. -/
  positive : ∀ read event, desk.ends read event ≠ [] → 0 < desk.active
  /-- A call to subscribe that is refused leaves everything as it is. -/
  refused : ∀ read query now e, (desk.subscribe read query now).1 = .error e →
    desk.stepWith read (.subscribe query now) = desk
  /-- A poller ends in the first of its turns in which it is not wanted any more, whether it waits
  for its next read then or for room in the queue. -/
  ends : ∀ read i now, desk.ends read (.pollerTurn i now) = [i] ↔
    ∃ s, desk.subscriptions[i]? = some s ∧ s.Ends
  /-- Once its subscription is given up, a poller has ended when it had another turn, whatever
  happens before that. -/
  stops : ∀ i, i < desk.subscriptions.length → ∀ event, event.Stops i → ∀ read later read' now,
    (((desk.stepWith read event).runWith later).stepWith read' (.pollerTurn i now)).living[i]? =
      some false

theorem living_of_stops {i : Nat} (hi : i < desk.subscriptions.length) {event : Event}
    (he : event.Stops i) (read : OrderReader) (later : List (OrderReader × Event))
    (read' : OrderReader) (now : Nanos) :
    (((desk.stepWith read event).runWith later).stepWith read' (.pollerTurn i now)).living[i]? =
      some false := by
  have hs := List.getElem?_eq_getElem hi
  obtain ⟨move, hmove, hwanted⟩ : ∃ move, event.moveOf i = some move ∧
      (desk.subscriptions[i].step read move).isWanted = false := by
    rcases he with rfl | rfl | rfl | rfl
    · exact ⟨.cancel, by simp [Event.moveOf], by simp [Subscription.step, cancel, isWanted]⟩
    · exact ⟨.dropReceiver, by simp [Event.moveOf], isWanted_dropReceiver _⟩
    · exact ⟨.drop, by simp [Event.moveOf], isWanted_dropReceiver _⟩
    · exact ⟨.cancel, rfl, by simp [Subscription.step, cancel, isWanted]⟩
  have hstop := getElem?_stepWith hs read event
  rw [hmove] at hstop
  rw [getElem?_living, getElem?_stepWith_pollerTurn (getElem?_runWith hstop later) read' now]
  exact congrArg some (isLive_turn_of_unwanted (isWanted_run hwanted _) read' now)

theorem Counted.recounts {started ended : List Nat} (h : Counted desk started ended) :
    Recounts desk := by
  refine
    { count := fun read event he => ?_
      positive := fun read event hne => ?_
      refused := fun read query now e hr => ?_
      ends := fun read i now => ends_pollerTurn_iff
      stops := fun i hi event he read later read' now => living_of_stops hi he read later read' now }
  · have hbefore := h.active_add
    have hafter := (h.stepWith he read).active_add
    rw [List.length_append, List.length_append] at hafter
    omega
  · cases event with
    | pollerTurn i now =>
      rcases desk.tally_pollerTurn i read now with ⟨-, hi, -⟩ | ⟨hends, -⟩
      · exact h.active_pos hi
      · exact absurd hends hne
    | _ => exact absurd rfl hne
  · rcases desk.tally_subscribe read query now with ⟨hstarts, -⟩ | ⟨-, hsame⟩
    · simp [starts, hr] at hstarts
    · exact hsame

/-- **Every poller is counted from its start to its end, once.** After any history, however its
calls to subscribe were answered and its pollers ended, the count and the gauge are the number of
pollers that were started and have not ended, and whatever comes next changes them by just that. -/
theorem pollers_counted (pollInterval : Nanos) (bufferCapacity : Nat) (simulatorInterval : Nanos)
    {readings : List (OrderReader × Event)} (h : ∀ reading ∈ readings, reading.2.CountsOnly) :
    let opened := Desk.make pollInterval bufferCapacity simulatorInterval
    Counted (opened.runWith readings) (opened.started readings) (opened.ended readings) ∧
      Recounts (opened.runWith readings) := by
  have hcounted := (Counted.start pollInterval bufferCapacity simulatorInterval).runWith h
  rw [List.nil_append, List.nil_append] at hcounted
  exact ⟨hcounted, hcounted.recounts⟩

/-- A remote service that is away and is called once. -/
def away : MarketSource Unit :=
  .remote (unreachableService .unavailable "") { RetryConfig.standard with maxRetries := 0 } id

/-- Another history, of a desk with one order: four subscriptions, one of them not by the owner. The
poller of the first one ends while it waits for room, the second one while it waits to read. -/
def comings : List Event :=
  [.atStore (.create [⟨.ofNat 1⟩] ⟨⟨.nil⟩, ⟨.nil⟩, .limit, .ofNat 3, 5⟩ .epoch),
    .subscribe ownQuery 0, .subscribe ⟨⟨.ofNat 1⟩, ⟨.ofNat 9⟩⟩ 0, .subscribe ownQuery 0,
    .pollerTurn 0 0, .pollerTurn 0 0, .pass (Policy.fixed .fill) .epoch, .pollerTurn 0 10,
    .cancel 0,
    .createOrder away [] .nil .epoch (.arriving [])
      ⟨"00000000000000000000000000000000", "00000000000000000000000000000000", 1, "1", 1, [1]⟩,
    .pollerTurn 0 10, .pollerTurn 0 20, .drop 1, .pollerTurn 1 20, .subscribe ownQuery 20]

theorem pollers_counted_through_comings :
    let opened := Desk.make 10 1 10
    let readings := opened.readings comings
    (Counted (opened.runWith readings) (opened.started readings) (opened.ended readings) ∧
      Recounts (opened.runWith readings)) ∧
    opened.started readings = [0, 1, 2] ∧ opened.ended readings = [0, 1] ∧
      (opened.runWith readings).active = 1 := by
  have hcounts : ∀ event ∈ comings, event.CountsOnly := by
    have haway : away.CountsOnly := MarketSource.countsOnly_remote _ _ _
    simp [comings, haway, Event.CountsOnly]
  exact ⟨pollers_counted 10 1 10 fun reading hr => hcounts _ (mem_of_mem_readings hr),
    by decide, by decide, by decide⟩

end OrderDesk.Desk
