import OrderDesk.Proofs.Lookup.Fetching

/-!
# Lookups that fail

`FailingReplies` is every way in which a lookup at the market service can fail, given what the
service would reply to each call; there is no other but to break off
(`exists_answer_remote_eq_error_iff`). Behind a cache a lookup fails when the cache misses and the
lookup behind it fails (`exists_answer_cached_eq_error_iff`). `FailingLookup` puts the two together.
-/

namespace OrderDesk

/-! ## At the market service -/

/-- How a lookup at the market service fails, given what the service would reply to each call. -/
inductive FailingReplies (replies : Nat → MarketsReply) (maxRetries : Nat) : Prop
  /-- Every call that may be made fails for a passing reason. -/
  | exhausted (h : ∀ j ≤ maxRetries, (replies j).isPassing = true)
  /-- A call fails for a reason that does not pass. -/
  | refused (last : Nat) (code : RpcCode) (text : String) (hlast : last ≤ maxRetries)
      (hpassing : ∀ j < last, (replies j).isPassing = true)
      (hreply : replies last = .failed code text) (hcode : code.isRetryable = false)
  /-- A call is answered with a market that cannot be read. -/
  | unreadable (last : Nat) (sent : List WireMarket) (hlast : last ≤ maxRetries)
      (hpassing : ∀ j < last, (replies j).isPassing = true) (hreply : replies last = .markets sent)
      (hspoilt : ∃ wire ∈ sent, ∀ id, Id.parse .market wire.id ≠ .ok id)

namespace Attempts

variable {replies : Nat → MarketsReply} {maxRetries last : Nat}

/-- The last call concludes with an error in these cases, and in no others. -/
theorem exists_conclusion_eq_error_iff (h : Attempts replies maxRetries last) :
    (∃ e, (replies last).conclusion (maxRetries + 1) = .error e) ↔
      FailingReplies replies maxRetries := by
  constructor
  · rintro ⟨e, he⟩
    rcases conclusion_cases (replies last) (maxRetries + 1) with ⟨sent, markets, -, hok⟩ |
      ⟨sent, detail, hsent, herr⟩ | ⟨code, text, hfailed, hcode, -⟩ |
      ⟨code, text, hfailed, hcode, -⟩
    · cases hok.symm.trans he
    · refine .unreadable last sent h.within h.earlier hsent ?_
      by_contra hread
      push Not at hread
      obtain ⟨markets, hok⟩ := exists_decodeMarkets_eq_ok_iff.2 hread
      rw [hsent, MarketsReply.conclusion, hok] at herr
      cases herr
    · refine .exhausted (h.eq_retries_iff.1 ?_)
      rw [hfailed]
      exact hcode
    · exact .refused last code text h.within h.earlier hfailed hcode
  · intro hfailing
    cases hfailing with
    | exhausted hall =>
      have hlast := h.eq_retries_iff.2 hall
      cases hreply : replies last with
      | markets sent =>
        rw [hreply] at hlast
        cases hlast
      | failed code text =>
        rw [hreply] at hlast
        have hcode : code.isRetryable = true := hlast
        exact ⟨_, by rw [MarketsReply.conclusion, if_pos hcode]⟩
    | refused i code text hi hpassing hreply hcode =>
      have hfinal : (replies i).isPassing = false := by rw [hreply]; exact hcode
      rw [h.eq_min hpassing hfinal, Nat.min_eq_left hi, hreply]
      exact ⟨_, by rw [MarketsReply.conclusion, hcode, if_neg Bool.false_ne_true]⟩
    | unreadable i sent hi hpassing hreply hspoilt =>
      have hfinal : (replies i).isPassing = false := by rw [hreply]; rfl
      rw [h.eq_min hpassing hfinal, Nat.min_eq_left hi, hreply]
      obtain ⟨wire, hmem, hwire⟩ := hspoilt
      obtain ⟨detail, hd⟩ := exists_decodeMarkets_eq_error fun hok => by
        obtain ⟨id, hid⟩ := exists_decodeMarkets_eq_ok_iff.1 hok wire hmem
        exact hwire id hid
      exact ⟨_, hd⟩

end Attempts

section
variable {σ : Type} {roles : List Role} {requestId : String}

theorem exists_answer_remote_eq_error_iff {service : MarketService σ} {config : RetryConfig}
    {draw : Binary64 → Binary64} {state : σ} :
    (∃ e, (MarketSource.remote service config draw roles requestId state).answer = .error e) ↔
      FailingReplies (repliesOf service (.make roles requestId) state) config.maxRetries ∨
        ∃ last, BreaksOff (repliesOf service (.make roles requestId) state) (.start config)
          last := by
  rw [← answer_fetchMarkets_eq_none_iff service config draw roles requestId state,
    MarketSource.remote]
  rcases fetchMarkets_cases service config draw roles requestId state with
    ⟨last, hattempts, -, -, hanswer⟩ | ⟨last, -, -, hanswer⟩
  · rw [← hattempts.exists_conclusion_eq_error_iff, hanswer]
    cases (repliesOf service (.make roles requestId) state last).conclusion
      (config.maxRetries + 1) <;> simp [Except.mapError]
  · rw [hanswer]
    exact iff_of_true ⟨_, rfl⟩ (.inr rfl)

/-! ## Behind a cache -/

theorem exists_answer_cached_eq_error_iff {source : MarketSource σ} {health : CacheHealth}
    {ttl readAt writtenAt : Nanos} {state : Cached σ} :
    (∃ e, (source.cached health ttl readAt writtenAt roles requestId state).answer = .error e) ↔
      (state.cache.readFor health roles readAt).1 = none ∧
        ∃ e, (source roles requestId state.inner).answer = .error e := by
  unfold MarketSource.cached
  rcases state.cache.readFor health roles readAt with ⟨_ | markets, cache⟩
  · cases ha : (source roles requestId state.inner).answer <;> simp [ha]
  · simp

/-- A lookup that fails, at the market service itself or behind a cache. -/
inductive FailingLookup (roles : List Role) (requestId : String) :
    {σ : Type} → MarketSource σ → σ → Prop
  | remote {σ : Type} (service : MarketService σ) (config : RetryConfig)
      (draw : Binary64 → Binary64) (state : σ)
      (h : FailingReplies (repliesOf service (.make roles requestId) state) config.maxRetries) :
      FailingLookup roles requestId (.remote service config draw) state
  | cached {σ : Type} {source : MarketSource σ} (health : CacheHealth)
      (ttl readAt writtenAt : Nanos) (state : Cached σ)
      (hmiss : (state.cache.readFor health roles readAt).1 = none)
      (h : FailingLookup roles requestId source state.inner) :
      FailingLookup roles requestId (source.cached health ttl readAt writtenAt) state

namespace FailingLookup

variable {source : MarketSource σ} {state : σ}

theorem exists_error (h : FailingLookup roles requestId source state) :
    ∃ e, (source roles requestId state).answer = .error e := by
  induction h with
  | remote service config draw state h => exact exists_answer_remote_eq_error_iff.2 (.inl h)
  | cached health ttl readAt writtenAt state hmiss _ ih =>
    exact exists_answer_cached_eq_error_iff.2 ⟨hmiss, ih⟩

/-- Nothing is recorded but the misses of the cache. -/
theorem recorded (h : FailingLookup roles requestId source state) :
    ∀ r ∈ (source roles requestId state).recorded, r = .count (.cacheLookups false) := by
  induction h with
  | remote service config draw state h => exact fun r hr => absurd hr List.not_mem_nil
  | cached health ttl readAt writtenAt state hmiss h ih =>
    obtain ⟨e, he⟩ := h.exists_error
    have hread : state.cache.readFor health roles readAt =
        (none, (state.cache.readFor health roles readAt).2) := by rw [← hmiss]
    rw [MarketSource.cached, hread]
    dsimp only
    rw [he]
    exact List.forall_mem_cons.2 ⟨rfl, ih⟩

end FailingLookup

end

end OrderDesk
