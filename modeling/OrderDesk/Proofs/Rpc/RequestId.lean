import OrderDesk.Proofs.Lookup.Fetching
import OrderDesk.Proofs.Rpc.CreateOrder
import OrderDesk.Proofs.Text.Trimming

/-!
# One request ID all the way

The ID that the interceptor settles is clean (`RequestId.Clean`): it can be read as a header, and
there is nothing to trim of it. So it is offered again as it is (`Clean.offered?_cons`), and may be
sent on (`Clean.isSendable`).

`request_id_travels` follows it from the headers of a call through the handler to the source of
markets, through a cache or not, and to every request that is sent to the remote service.
-/

namespace OrderDesk

open Text

/-! ## The text of a UUID -/

/-- The text of a UUID consists of hexadecimal digits and hyphens. -/
theorem Uuid.mem_render {u : Uuid} {c : Char} (h : c ∈ u.render) :
    c = '-' ∨ ∃ d : Fin 16, c = hexChar d.val := by
  have hhex {c : Char} (hc : c ∈ u.hex) : c = '-' ∨ ∃ d : Fin 16, c = hexChar d.val := by
    obtain ⟨d, -, hd⟩ := List.mem_map.1 hc
    exact .inr ⟨d, hd.symm⟩
  simp only [render, List.mem_append, List.mem_cons] at h
  rcases h with ((((h | rfl | h) | rfl | h) | rfl | h) | rfl | h)
  · exact hhex (List.mem_of_mem_take h)
  · exact .inl rfl
  · exact hhex (List.mem_of_mem_drop (List.mem_of_mem_take h))
  · exact .inl rfl
  · exact hhex (List.mem_of_mem_drop (List.mem_of_mem_take h))
  · exact .inl rfl
  · exact hhex (List.mem_of_mem_drop (List.mem_of_mem_take h))
  · exact .inl rfl
  · exact hhex (List.mem_of_mem_drop h)

namespace RequestId

/-- Whether a character is printable ASCII or a tab. -/
def isPlain (c : Char) : Bool :=
  c == '\t' || (decide (32 ≤ c.toNat) && decide (c.toNat ≤ 126))

theorem isReadable_eq_true_iff {value : String} :
    isReadable value = true ↔ ∀ c ∈ value.toList, isPlain c = true :=
  List.all_eq_true

/-- An ID that can be read as a header and is not blank, with nothing to trim. -/
structure Clean (id : String) : Prop where
  readable : isReadable id = true
  nonempty : id.toList ≠ []
  trimmed : trim id.toList = id.toList

theorem offered?_eq_some_iff {headers : List String} {id : String} :
    offered? headers = some id ↔ ∃ value rest, headers = value :: rest ∧ isReadable value = true ∧
      trim value.toList ≠ [] ∧ id = String.ofList (trim value.toList) := by
  cases headers with
  | nil => simp [offered?]
  | cons value rest =>
    cases hr : isReadable value with
    | false => simp [offered?, hr]
    | true =>
      cases ht : trim value.toList with
      | nil => simp [offered?, hr, ht]
      | cons c cs =>
        simp only [offered?, hr, ht, if_true, Option.some.injEq]
        constructor
        · rintro rfl
          exact ⟨value, rest, rfl, hr, by simp [ht], by rw [ht]⟩
        · rintro ⟨_, _, heq, -, -, rfl⟩
          cases heq
          rw [ht]

namespace Clean

variable {id : String}

/-- A clean ID is found again as it is. -/
theorem offered?_cons (h : Clean id) (rest : List String) : offered? (id :: rest) = some id :=
  offered?_eq_some_iff.2 ⟨id, rest, rfl, h.readable, by rw [h.trimmed]; exact h.nonempty,
    by rw [h.trimmed, String.ofList_toList]⟩

theorem isSendable (h : Clean id) : isSendable id = true := by
  refine List.all_eq_true.2 fun c hc => ?_
  have hplain := isReadable_eq_true_iff.1 h.readable c hc
  simp only [isPlain, Bool.or_eq_true, Bool.and_eq_true, decide_eq_true_eq] at hplain
  simp only [Bool.or_eq_true, Bool.and_eq_true, decide_eq_true_eq, bne_iff_ne]
  refine hplain.imp_right fun hrange => ⟨hrange.1, ?_⟩
  omega

theorem of_offered? {headers : List String} (h : offered? headers = some id) : Clean id := by
  obtain ⟨value, rest, -, hr, ht, rfl⟩ := offered?_eq_some_iff.1 h
  refine ⟨isReadable_eq_true_iff.2 fun c hc => ?_, ?_, ?_⟩
  · rw [String.toList_ofList] at hc
    exact isReadable_eq_true_iff.1 hr c (mem_of_mem_trim hc)
  · rwa [String.toList_ofList]
  · rw [String.toList_ofList, trim_trim]

theorem toText (u : Uuid) : Clean u.toText := by
  have hplain (c : Char) (hc : c ∈ u.render) : isPlain c = true ∧ isBlank c = false := by
    have hhex : ∀ d : Fin 16, isPlain (hexChar d.val) = true ∧ isBlank (hexChar d.val) = false := by
      decide
    rcases Uuid.mem_render hc with rfl | ⟨d, rfl⟩
    · decide
    · exact hhex d
  have hne : u.render ≠ [] := by simp [Uuid.render]
  refine ⟨isReadable_eq_true_iff.2 fun c hc => ?_, ?_, ?_⟩
  · rw [Uuid.toText, String.toList_ofList] at hc
    exact (hplain c hc).1
  · rwa [Uuid.toText, String.toList_ofList]
  · rw [Uuid.toText, String.toList_ofList]
    refine trim_eq_self fun c hc => (hplain c ?_).2
    exact hc.elim List.mem_of_head? List.mem_of_getLast?

end Clean

/-! ## The interceptor -/

/-- What the interceptor makes of the headers of a call. -/
structure Settled (headers : List String) (fresh : Uuid) (call : Call) (id : String) : Prop where
  requestId : call.requestId = some id
  onlyHeader : call.headers = [id]
  nonempty : id ≠ ""
  /-- There is no blank at the front or at the end. -/
  trimmed : ∀ c, id.toList.head? = some c ∨ id.toList.getLast? = some c → isBlank c = false
  sendable : isSendable id = true
  /-- It is the first header, without the blanks around it, if that can be read and is not blank. -/
  offered : ∀ value rest, headers = value :: rest → isReadable value = true →
    (∃ c ∈ value.toList, isBlank c = false) → ∃ front back,
      value.toList = front ++ id.toList ++ back ∧ ∀ c ∈ front ++ back, isBlank c = true
  /-- Otherwise it is fresh. -/
  generated : (∀ value rest, headers = value :: rest → isReadable value = true →
    ∀ c ∈ value.toList, isBlank c = true) → id = fresh.toText
  /-- It is kept when the call is intercepted again. -/
  kept : ∀ fresh', call.intercept fresh' = call

theorem settled_intercept (headers : List String) (fresh : Uuid) :
    Settled headers fresh ((Call.arriving headers).intercept fresh)
      ((offered? headers).getD fresh.toText) := by
  have hclean : Clean ((offered? headers).getD fresh.toText) := by
    cases ho : offered? headers with
    | none => exact .toText fresh
    | some id => exact .of_offered? ho
  refine
    { requestId := rfl
      onlyHeader := rfl
      nonempty := fun h => hclean.nonempty (by rw [h]; rfl)
      trimmed := fun c hc => isBlank_eq_false_of_trim (by rwa [hclean.trimmed])
      sendable := hclean.isSendable
      offered := fun value rest hheaders hr hc => ?_
      generated := fun hblank => ?_
      kept := fun fresh' => ?_ }
  · have hne : trim value.toList ≠ [] := by
      obtain ⟨c, hmem, hc⟩ := hc
      intro hnil
      rw [trim_eq_nil_iff.1 hnil c hmem] at hc
      cases hc
    rw [offered?_eq_some_iff.2 ⟨value, rest, hheaders, hr, hne, rfl⟩, Option.getD_some,
      String.toList_ofList]
    exact exists_trim value.toList
  · cases ho : offered? headers with
    | none => rfl
    | some id =>
      obtain ⟨value, rest, hheaders, hr, hne, -⟩ := offered?_eq_some_iff.1 ho
      exact absurd (trim_eq_nil_iff.2 (hblank value rest hheaders hr)) hne
  · simp only [Call.intercept, Call.arriving, hclean.offered?_cons, Option.getD_some]

example : (Call.arriving ["  req-42\t", "other"]).intercept .nil = ⟨some "req-42", ["req-42"]⟩ := by
  decide

end RequestId

/-! ## Behind the interceptor -/

/-- The source behind a cache is asked on a miss only. -/
theorem MarketSource.inner_cached {σ : Type} (source : MarketSource σ) (health : CacheHealth)
    (ttl readAt writtenAt : Nanos) (roles : List Role) (requestId : String) (state : Cached σ) :
    (source.cached health ttl readAt writtenAt roles requestId state).state.inner =
      if (state.cache.readFor health roles readAt).1.isSome then state.inner
      else (source roles requestId state.inner).state := by
  unfold MarketSource.cached
  rcases state.cache.readFor health roles readAt with ⟨_ | markets, cache⟩
  · dsimp only
    split <;> rfl
  · rfl

theorem MarketsRequest.make_of_isSendable {id : String} (h : RequestId.isSendable id = true)
    (roles : List Role) : make roles id = ⟨roles.map Role.toWire, some id⟩ := by
  rw [make, if_pos h]

namespace Rpc

open RequestId

/-- How a call to place an order carries its ID, if the request is valid and asks for some roles. -/
structure Carries (call : Call) (request : WireCreateRequest) (roles : List Role) (id : String) :
    Prop where
  /-- The source is asked once, under the ID. -/
  asked : ∀ {σ : Type} (source : MarketSource σ) desk draws fresh wall state,
    (createOrder desk source.logged draws fresh wall call request state).state.2 =
      state.2 ++ [(roles, id)]
  /-- So is one behind a cache, unless the cache answers. -/
  askedOnMiss : ∀ {σ : Type} (source : MarketSource σ) health ttl readAt writtenAt desk draws fresh
      wall state,
    (createOrder desk (source.logged.cached health ttl readAt writtenAt) draws fresh wall call
      request state).state.inner.2 = state.inner.2 ++
        if (state.cache.readFor health roles readAt).1.isSome then [] else [(roles, id)]
  /-- The ID is sent to the remote service in every attempt, and there is one at least. -/
  sent : ∀ {σ : Type} (service : MarketService σ) config draw desk draws fresh wall state, ∃ n,
    0 < n ∧ n ≤ config.maxRetries + 1 ∧
      (createOrder desk (.remote service.logged config draw) draws fresh wall call request
        state).state.2 = state.2 ++ List.replicate n ⟨roles.map Role.toWire, some id⟩
  sentOnMiss : ∀ {σ : Type} (service : MarketService σ) config draw health ttl readAt writtenAt desk
      draws fresh wall state, ∃ n, n ≤ config.maxRetries + 1 ∧
    (n = 0 ↔ (state.cache.readFor health roles readAt).1.isSome = true) ∧
      (createOrder desk ((MarketSource.remote service.logged config draw).cached health ttl readAt
        writtenAt) draws fresh wall call request state).state.inner.2 =
          state.inner.2 ++ List.replicate n ⟨roles.map Role.toWire, some id⟩

theorem carries_of_validated {call : Call} {request : WireCreateRequest} {roles : List Role}
    {new : NewOrder} (hv : validated request = .ok (roles, new))
    (hsend : isSendable call.id = true) : Carries call request roles call.id := by
  refine
    { asked := fun source desk draws fresh wall state => ?_
      askedOnMiss := fun source health ttl readAt writtenAt desk draws fresh wall state => ?_
      sent := fun service config draw desk draws fresh wall state => ?_
      sentOnMiss := fun service config draw health ttl readAt writtenAt desk draws fresh wall
        state => ?_ }
  · rw [state_createOrder, hv]
    rfl
  · rw [state_createOrder, hv]
    dsimp only
    rw [MarketSource.inner_cached]
    split
    · exact (List.append_nil _).symm
    · rfl
  · obtain ⟨n, hpos, hle, hn⟩ := exists_remote_logged service config draw roles call.id state
    refine ⟨n, hpos, hle, ?_⟩
    rw [state_createOrder, hv]
    dsimp only
    rw [hn, MarketsRequest.make_of_isSendable hsend]
  · obtain ⟨n, hpos, hle, hn⟩ :=
      exists_remote_logged service config draw roles call.id state.inner
    rw [state_createOrder, hv]
    dsimp only
    rw [MarketSource.inner_cached]
    cases (state.cache.readFor health roles readAt).1.isSome with
    | true => exact ⟨0, Nat.zero_le _, by simp, by simp⟩
    | false =>
      refine ⟨n, hle, by simp [Nat.pos_iff_ne_zero.1 hpos], ?_⟩
      rw [if_neg Bool.false_ne_true, hn, MarketsRequest.make_of_isSendable hsend]

/-- **A call keeps its request ID.** Whatever headers it arrives with, the interceptor settles one
ID, in the call and in its only header: what the first header offers, or a fresh one. Under this ID
the source of markets is asked, and it is sent in every attempt at the remote service. -/
theorem request_id_travels (headers : List String) (fresh : Uuid) :
    let call := (Call.arriving headers).intercept fresh
    ∃ id, Settled headers fresh call id ∧ ∀ request,
      match validated request with
      | .error _ => ∀ {σ : Type} (source : MarketSource σ) desk draws fresh' wall state,
        (createOrder desk source draws fresh' wall call request state).state = state
      | .ok (roles, _) => Carries call request roles id := by
  have hsettled := settled_intercept headers fresh
  refine ⟨_, hsettled, fun request => ?_⟩
  cases hv : validated request with
  | error e =>
    intro σ source desk draws fresh' wall state
    rw [state_createOrder, hv]
  | ok valid => exact carries_of_validated hv hsettled.sendable

end Rpc

end OrderDesk
