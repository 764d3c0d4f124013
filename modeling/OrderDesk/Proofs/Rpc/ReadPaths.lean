import OrderDesk.Proofs.Desk.Cancellation
import OrderDesk.Proofs.Desk.Passes
import OrderDesk.Proofs.Service.Ownership
import OrderDesk.Proofs.Subscription.Opening

/-!
# Asking for a status and opening a stream

Both calls read the same order and let the same users in (`getOrderStatus_eq_ok_iff`,
`streamOrderUpdates_fst_eq_ok_iff`), and the stream begins with what the status would have been
(`opensWith_of_isQuiet`), since orders move in passes only. They refuse alike too, but for an order
that is not stored.

`read_paths_agree` is all of that.
-/

namespace OrderDesk.Rpc

open Desk Signal Subscription

/-! ## Who is let in -/

section
variable {orderId userId : String} {query : OrderQuery} {read : OrderReader}

/-- A request that cannot be read is refused in the same way by both calls. -/
theorem refused_of_decode {e : ValidationError} (hd : OrderQuery.decode orderId userId = .error e)
    (desk : Desk) (read : OrderReader) (now : Nanos) :
    getOrderStatus read orderId userId = .error (ServiceError.validation e).toStatus ∧
      streamOrderUpdates desk read orderId userId now =
        (.error (ServiceError.validation e).toStatus, desk) := by
  rw [getOrderStatus, streamOrderUpdates, hd]
  exact ⟨rfl, rfl⟩

theorem getOrderStatus_eq_ok_iff {code : Int} : getOrderStatus read orderId userId = .ok code ↔
    ∃ query order, OrderQuery.decode orderId userId = .ok query ∧
      read query.orderId = .ok order ∧ order.userId = query.userId ∧
        order.status.toWire = code := by
  unfold getOrderStatus
  cases hd : OrderQuery.decode orderId userId with
  | error e => simp
  | ok query =>
    cases hs : Service.orderStatus read query with
    | error e =>
      refine iff_of_false (by simp [hs]) ?_
      rintro ⟨query', order, hq, hget, howner, -⟩
      obtain rfl := Except.ok.inj hq
      rw [Service.orderStatus_eq_ok_iff.2 ⟨order, hget, howner, rfl⟩] at hs
      cases hs
    | ok status =>
      obtain ⟨order, hget, howner, rfl⟩ := Service.orderStatus_eq_ok_iff.1 hs
      simp [hs, hget, howner]

section
variable (hd : OrderQuery.decode orderId userId = .ok query)
include hd

theorem getOrderStatus_of_error {e : ServiceError}
    (hs : Service.orderStatus read query = .error e) :
    getOrderStatus read orderId userId = .error e.toStatus := by
  rw [getOrderStatus, hd]
  dsimp only
  rw [hs]

theorem streamOrderUpdates_of_admitted (ha : Service.admission read query = .ok ()) (desk : Desk)
    (now : Nanos) : ∃ opened,
      desk.subscribe read query now = (.ok desk.subscriptions.length, opened) ∧
      streamOrderUpdates desk read orderId userId now =
        (.ok desk.subscriptions.length, opened) := by
  refine ⟨(desk.subscribe read query now).2, ?_, ?_⟩
  · rw [subscribe, ha]
  · rw [streamOrderUpdates, hd]
    dsimp only
    rw [subscribe, ha]

theorem streamOrderUpdates_of_refused {e : ServiceError}
    (ha : Service.admission read query = .error e) (desk : Desk) (now : Nanos) :
    streamOrderUpdates desk read orderId userId now = (.error e.toStatus, desk) := by
  rw [streamOrderUpdates, hd]
  dsimp only
  rw [subscribe, ha]

theorem subscribe_eq_of_stream {desk opened : Desk} {now : Nanos} {i : Nat}
    (hi : streamOrderUpdates desk read orderId userId now = (.ok i, opened)) :
    desk.subscribe read query now = (.ok i, opened) := by
  cases ha : Service.admission read query with
  | error e =>
    rw [streamOrderUpdates_of_refused hd ha] at hi
    cases hi
  | ok u =>
    obtain ⟨after, hsub, hstream⟩ := streamOrderUpdates_of_admitted hd ha desk now
    rw [hstream] at hi
    cases hi
    exact hsub

end

theorem streamOrderUpdates_fst_eq_ok_iff {desk : Desk} {now : Nanos} :
    (∃ i, (streamOrderUpdates desk read orderId userId now).1 = .ok i) ↔
      ∃ query order, OrderQuery.decode orderId userId = .ok query ∧
        read query.orderId = .ok order ∧ order.userId = query.userId := by
  cases hd : OrderQuery.decode orderId userId with
  | error e => simp [(refused_of_decode hd desk read now).2]
  | ok query =>
    cases ha : Service.admission read query with
    | error e =>
      refine iff_of_false (by simp [streamOrderUpdates_of_refused hd ha]) ?_
      rintro ⟨query', order, hq, hget, howner⟩
      obtain rfl := Except.ok.inj hq
      rw [Service.admission_eq_ok_iff.2 ⟨order, hget, howner⟩] at ha
      cases ha
    | ok u =>
      obtain ⟨order, hget, howner⟩ := Service.admission_eq_ok_iff.1 ha
      obtain ⟨opened, -, hstream⟩ := streamOrderUpdates_of_admitted hd ha desk now
      exact iff_of_true ⟨_, congrArg Prod.fst hstream⟩ ⟨query, order, rfl, hget, howner⟩

theorem snd_eq_of_refused {desk : Desk} {now : Nanos} {status : RpcStatus}
    (hr : (streamOrderUpdates desk read orderId userId now).1 = .error status) :
    (streamOrderUpdates desk read orderId userId now).2 = desk := by
  cases hd : OrderQuery.decode orderId userId with
  | error e => rw [(refused_of_decode hd desk read now).2]
  | ok query =>
    cases ha : Service.admission read query with
    | error e => rw [streamOrderUpdates_of_refused hd ha]
    | ok u =>
      obtain ⟨opened, -, hstream⟩ := streamOrderUpdates_of_admitted hd ha desk now
      rw [hstream] at hr
      cases hr

end

/-! ## The first message -/

/-- What the receiver of a subscription is told first in a history. -/
structure OpensWith (opened : Desk) (i : Nat) (events : List Event) (orderId : String)
    (status : Int) : Prop where
  /-- The first message that was received tells this. -/
  received : ∀ u, (Received.updates (opened.answers i events)).head? = some u →
    u.toWire.orderId = orderId ∧ u.toWire.status = status
  /-- If there was none yet, it is received after the next turn of the poller, unless one side gave
  the stream up. -/
  next : Received.updates (opened.answers i events) = [] →
    ∀ s, (opened.run events).subscriptions[i]? = some s → s.isWanted = true → ∀ now, ∃ u,
      (opened.run events).answers i [.pollerTurn i now, .receive i] = [.update u] ∧
        u.toWire.orderId = orderId ∧ u.toWire.status = status

theorem opened_of_subscribe {desk opened : Desk} {read : OrderReader} {query : OrderQuery}
    {now : Nanos} {i : Nat} (hi : desk.subscribe read query now = (.ok i, opened)) :
    opened.store = desk.store ∧ opened.subscriptions[i]? = some
      (Subscription.start query desk.pollInterval desk.bufferCapacity now desk.isShutDown) := by
  obtain ⟨-, hstore, hs⟩ := subscribe_eq_ok (congrArg Prod.fst hi)
  rw [hi] at hstore hs
  exact ⟨hstore, hs⟩

theorem answers_turn_receive {desk : Desk} {i : Nat} {s : Subscription}
    (hs : desk.subscriptions[i]? = some s) (now : Nanos) :
    desk.answers i [.pollerTurn i now, .receive i] =
      [(s.turn desk.reader now).1.receive.1] := by
  rw [answers_eq hs]
  simp [readings, movesOf, Event.moveOf, answered, Subscription.answers, Subscription.step]

section
variable {desk opened : Desk} {query : OrderQuery} {now : Nanos} {i : Nat}
  (hi : desk.subscribe desk.reader query now = (.ok i, opened)) {order : Order}
  (hget : desk.store.get query.orderId = .ok order)
include hi hget

/-- A poll before the next pass finds the order as it is. -/
theorem eq_of_mem_polls {part : List Event} (hquiet : opened.isQuiet part = true)
    {found : Except StoreError Order} (hf : found ∈ polls (opened.trace i part)) :
    found = .ok order := by
  obtain ⟨hstore, hs⟩ := opened_of_subscribe hi
  obtain ⟨before, ⟨rest, rfl⟩, rfl⟩ := exists_run_of_mem_polls hs hf
  rw [isQuiet_append, Bool.and_eq_true] at hquiet
  exact (Frozen.of_isQuiet hquiet.1).get_eq (by rw [hstore]; exact hget)

/-- A stream whose first poll comes before the next pass begins with the order as it was when the
stream was opened. -/
theorem opensWith_of_isQuiet (hs : desk.store.Reachable) (howner : order.userId = query.userId)
    {part : List Event} (hquiet : opened.isQuiet part = true)
    (hpolled : polls (opened.trace i part) ≠ []) (rest : List Event) :
    OpensWith opened i (part ++ rest) query.orderId.toText order.status.toWire := by
  obtain ⟨-, hsub⟩ := opened_of_subscribe hi
  have hid : order.toUpdate.orderId = query.orderId :=
    hs.coherent.id_of_get? (OrderStore.get_eq_ok_iff.1 hget)
  have hwire : order.toUpdate.toWire.orderId = query.orderId.toText := by
    rw [OrderUpdate.toWire, hid]
  have hfirst : (polls (opened.trace i (part ++ rest))).head? = some (.ok order) := by
    obtain ⟨found, more, hpolls⟩ := List.exists_cons_of_ne_nil hpolled
    have hmem : found ∈ polls (opened.trace i part) := by
      rw [hpolls]
      exact List.mem_cons_self
    rw [trace_append, polls, List.filterMap_append, ← polls, hpolls, List.cons_append,
      List.head?_cons, eq_of_mem_polls hi hget hquiet hmem]
  have hopening := (Opening.start query desk.pollInterval desk.bufferCapacity now
    desk.isShutDown).run (movesOf i (opened.readings (part ++ rest)))
  have hdelivers := (Delivers.start query desk.pollInterval desk.bufferCapacity now
    desk.isShutDown).run (movesOf i (opened.readings (part ++ rest)))
  rw [List.nil_append, ← trace_eq hsub] at hopening
  rw [List.nil_append, List.nil_append, ← trace_eq hsub, ← answers_eq hsub] at hdelivers
  refine ⟨fun u hu => ?_, fun hnone s hrun hw now' => ⟨order.toUpdate, ?_, hwire, rfl⟩⟩
  · have hhead : (updates (opened.trace i (part ++ rest))).head? = some u := by
      obtain ⟨more, hmore⟩ := (List.prefix_append _ _).trans hdelivers.inOrder
      rw [← hmore, List.head?_append, hu]
      rfl
    rw [hopening.head_updates hfirst (by rw [query_run]; exact howner) hhead]
    exact ⟨hwire, rfl⟩
  · obtain rfl := Option.some.inj (hrun.symm.trans (getElem?_run hsub (part ++ rest)))
    have hopen : (Subscription.run _ _).receiverOpen = true := (Bool.and_eq_true_iff.1 hw).2
    have hqueue := hdelivers.complete hopen
    rw [hnone, List.nil_append] at hqueue
    have hhead := hopening.head_of_wanted hfirst (by rw [query_run]; exact howner) hw
    rw [← hqueue] at hhead
    have hreceived := received_of_head hhead hw
      (by rw [capacity_run, capacity_start]; omega) (opened.run (part ++ rest)).reader now'
    rw [answers_turn_receive hrun, hreceived]

end

/-! ## Both calls -/

/-- How the two calls of a user about an order agree. -/
structure ReadAlike (desk : Desk) (orderId userId : String) (now : Nanos) : Prop where
  accepts_iff : (∃ i, (streamOrderUpdates desk desk.reader orderId userId now).1 = .ok i) ↔
    ∃ status, getOrderStatus desk.reader orderId userId = .ok status
  /-- A stream begins with the status that is answered now, in a message about that order, if its
  first poll comes before the next pass. -/
  opens : ∀ i opened status query,
    streamOrderUpdates desk desk.reader orderId userId now = (.ok i, opened) →
    getOrderStatus desk.reader orderId userId = .ok status →
    OrderQuery.decode orderId userId = .ok query →
    ∀ part rest, opened.isQuiet part = true → polls (opened.trace i part) ≠ [] →
      OpensWith opened i (part ++ rest) query.orderId.toText status
  /-- Both refuse alike, unless the order that is asked for is missing. -/
  refused_iff : (∀ query, OrderQuery.decode orderId userId = .ok query →
      desk.store.contains query.orderId = true) →
    ∀ status, getOrderStatus desk.reader orderId userId = .error status ↔
      (streamOrderUpdates desk desk.reader orderId userId now).1 = .error status
  /-- Of a missing order the one call says nothing, and the other one that it is missing. -/
  missing : ∀ query, OrderQuery.decode orderId userId = .ok query →
    desk.store.contains query.orderId = false →
    getOrderStatus desk.reader orderId userId =
      .error ⟨.internal, "internal error", ⟨"UNKNOWN", "order.service", []⟩, []⟩ ∧
    (streamOrderUpdates desk desk.reader orderId userId now).1 =
      .error ⟨.invalidArgument, "order not found: " ++ query.orderId.toText,
        ⟨"INVALID_ORDER_ID", "order.service", [("order_id", query.orderId.toText)]⟩, []⟩
  /-- What is refused changes nothing; a status is answered without any change at all. -/
  unchanged : ∀ status,
    (streamOrderUpdates desk desk.reader orderId userId now).1 = .error status →
    (streamOrderUpdates desk desk.reader orderId userId now).2 = desk

section
variable {desk : Desk} {orderId userId : String} {now : Nanos}

theorem accepts_iff_answers :
    (∃ i, (streamOrderUpdates desk desk.reader orderId userId now).1 = .ok i) ↔
      ∃ status, getOrderStatus desk.reader orderId userId = .ok status := by
  rw [streamOrderUpdates_fst_eq_ok_iff]
  constructor
  · rintro ⟨query, order, hd, hget, howner⟩
    exact ⟨_, getOrderStatus_eq_ok_iff.2 ⟨query, order, hd, hget, howner, rfl⟩⟩
  · rintro ⟨status, hs⟩
    obtain ⟨query, order, hd, hget, howner, -⟩ := getOrderStatus_eq_ok_iff.1 hs
    exact ⟨query, order, hd, hget, howner⟩

/-- Of an order that is stored, both calls tell the owner the same, and others nothing. -/
theorem refused_alike (h : ∀ query, OrderQuery.decode orderId userId = .ok query →
    desk.store.contains query.orderId = true) (status : RpcStatus) :
    getOrderStatus desk.reader orderId userId = .error status ↔
      (streamOrderUpdates desk desk.reader orderId userId now).1 = .error status := by
  cases hd : OrderQuery.decode orderId userId with
  | error e =>
    obtain ⟨hg, hs⟩ := refused_of_decode hd desk desk.reader now
    simp [hg, hs]
  | ok query =>
    obtain ⟨order, ho⟩ := Option.isSome_iff_exists.1 (h query hd)
    have hget : desk.reader query.orderId = .ok order := OrderStore.get_eq_ok_iff.2 ho
    by_cases howner : order.userId = query.userId
    · have hg : getOrderStatus desk.reader orderId userId = .ok order.status.toWire :=
        getOrderStatus_eq_ok_iff.2 ⟨query, order, hd, hget, howner, rfl⟩
      have ha := Service.admission_eq_ok_iff.2 ⟨order, hget, howner⟩
      obtain ⟨opened, -, hs⟩ := streamOrderUpdates_of_admitted hd ha desk now
      simp [hg, hs]
    · have hg := getOrderStatus_of_error hd (Service.orderStatus_of_foreign hget howner)
      have ha := Service.admission_of_foreign hget howner
      simp [hg, streamOrderUpdates_of_refused hd ha]

theorem reader_of_missing {id : OrderId} (hmissing : desk.store.contains id = false) :
    desk.reader id = .error (.notFound id) := by
  rw [reader, OrderStore.get, OrderStore.contains_eq_false_iff.1 hmissing]

/-- Whoever asks for the status of an order that is not stored learns nothing about it. -/
theorem getOrderStatus_of_missing {query : OrderQuery}
    (hd : OrderQuery.decode orderId userId = .ok query)
    (hmissing : desk.store.contains query.orderId = false) :
    getOrderStatus desk.reader orderId userId =
      .error ⟨.internal, "internal error", ⟨"UNKNOWN", "order.service", []⟩, []⟩ := by
  have hstatus : Service.orderStatus desk.reader query =
      .error (.unknown (StoreError.notFound query.orderId).message) := by
    rw [Service.orderStatus, reader_of_missing hmissing]
  rw [getOrderStatus_of_error hd hstatus]
  rfl

theorem refused_of_missing {query : OrderQuery}
    (hd : OrderQuery.decode orderId userId = .ok query)
    (hmissing : desk.store.contains query.orderId = false) :
    getOrderStatus desk.reader orderId userId =
      .error ⟨.internal, "internal error", ⟨"UNKNOWN", "order.service", []⟩, []⟩ ∧
    (streamOrderUpdates desk desk.reader orderId userId now).1 =
      .error ⟨.invalidArgument, "order not found: " ++ query.orderId.toText,
        ⟨"INVALID_ORDER_ID", "order.service", [("order_id", query.orderId.toText)]⟩, []⟩ := by
  have hadmission : Service.admission desk.reader query =
      .error (.invalidOrderId query.orderId) := by
    rw [Service.admission, reader_of_missing hmissing]
  refine ⟨getOrderStatus_of_missing hd hmissing, ?_⟩
  rw [streamOrderUpdates_of_refused hd hadmission]
  rfl

end

/-- **Asking for the status of an order and opening a stream of it agree.** Both let the same users
in, and the stream begins with the status; both refuse alike, unless there is no such order, and
change nothing then. -/
theorem read_paths_agree {desk : Desk} (h : desk.store.Reachable) (orderId userId : String)
    (now : Nanos) : ReadAlike desk orderId userId now := by
  refine
    { accepts_iff := accepts_iff_answers
      opens := fun i opened status query hi hs hd part rest hquiet hpolled => ?_
      refused_iff := refused_alike
      missing := fun query hd hmissing => refused_of_missing hd hmissing
      unchanged := fun status hr => snd_eq_of_refused hr }
  obtain ⟨query', order, hd', hget, howner, rfl⟩ := getOrderStatus_eq_ok_iff.1 hs
  obtain rfl : query' = query := Except.ok.inj (hd'.symm.trans hd)
  exact opensWith_of_isQuiet (subscribe_eq_of_stream hd hi) hget h howner hquiet hpolled rest

theorem read_paths_agree_narrowDesk :
    let order := "00000000-0000-0000-0000-000000000001"
    let owner := "00000000-0000-0000-0000-000000000000"
    ReadAlike narrowDesk order owner 0 ∧
      getOrderStatus narrowDesk.reader order owner = .ok 1 ∧
      ((streamOrderUpdates narrowDesk narrowDesk.reader order owner 0).2.answers 0
        [.pollerTurn 0 0, .pass (Policy.fixed .fill) .epoch, .pollerTurn 0 0, .receive 0]) =
          [.update ⟨⟨.ofNat 1⟩, .created, none⟩] :=
  ⟨read_paths_agree (Reachable.store ⟨10, 1, 10, _, rfl⟩) _ _ 0, rfl, by decide +kernel⟩

end OrderDesk.Rpc
