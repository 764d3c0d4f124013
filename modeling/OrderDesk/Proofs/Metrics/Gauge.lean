import OrderDesk.Lookup.Remote
import OrderDesk.Proofs.Service.Placing
import OrderDesk.Simulator

/-!
# What leaves the gauge alone

Everything but the start and the end of a poller records counts only, which leave the gauge of
subscriptions as it is (`activeSubscriptions_recordAll`). Of a source of markets this is asked
(`MarketSource.CountsOnly`); the remote service has nothing to record, and a cache in front of a
source counts its own hits and misses.
-/

namespace OrderDesk

/-- A recording that adds to a counter, and none of the gauge. -/
def Recording.IsCount (r : Recording) : Prop :=
  ∃ c, r = .count c

/-- A source that records nothing about subscriptions. -/
def MarketSource.CountsOnly {σ : Type} (source : MarketSource σ) : Prop :=
  ∀ roles requestId state, ∀ r ∈ (source roles requestId state).recorded, r.IsCount

theorem Metrics.activeSubscriptions_recordAll {recorded : List Recording}
    (h : ∀ r ∈ recorded, r.IsCount) (m : Metrics) :
    (m.recordAll recorded).activeSubscriptions = m.activeSubscriptions := by
  induction recorded generalizing m with
  | nil => rfl
  | cons r recorded ih =>
    obtain ⟨c, rfl⟩ := h r List.mem_cons_self
    exact ih (fun r hr => h r (List.mem_cons_of_mem _ hr)) (m.record (.count c))

/-! ## Sources -/

theorem MarketSource.countsOnly_remote {σ : Type} (service : MarketService σ) (config : RetryConfig)
    (draw : Binary64 → Binary64) : (MarketSource.remote service config draw).CountsOnly := by
  intro roles requestId state r hr
  cases hr

theorem MarketSource.CountsOnly.cached {σ : Type} {source : MarketSource σ}
    (h : source.CountsOnly) (health : CacheHealth) (ttl readAt writtenAt : Nanos) :
    (source.cached health ttl readAt writtenAt).CountsOnly := by
  intro roles requestId state r hr
  unfold MarketSource.cached at hr
  split at hr
  · exact ⟨_, List.mem_singleton.1 hr⟩
  · have hmem : r = .count (.cacheLookups false) ∨
        r ∈ (source roles requestId state.inner).recorded := by
      dsimp only at hr
      split at hr <;> exact List.mem_cons.1 hr
    rcases hmem with rfl | hmem
    · exact ⟨_, rfl⟩
    · exact h roles requestId state.inner r hmem

/-! ## Passes and placed orders -/

theorem Simulator.isCount_of_mem_recordings {transitions : List Transition} {r : Recording}
    (h : r ∈ Simulator.recordings transitions) : r.IsCount := by
  obtain ⟨t, -, rfl⟩ := List.mem_map.1 h
  exact ⟨_, rfl⟩

/-- Placing an order records nothing about subscriptions unless the source does. -/
theorem Service.isCount_of_mem_recorded {σ : Type} {source : MarketSource σ}
    (h : source.CountsOnly) {draws : List OrderId} {fresh : Uuid} {now : Instant}
    {request : CreateRequest} {store : OrderStore} {state : σ} {r : Recording}
    (hr : r ∈ (placeOrder source draws fresh now request store state).recorded) : r.IsCount := by
  have hcount (c : Counter) {recorded : List Recording} (hall : ∀ r ∈ recorded, r.IsCount)
      (hmem : r ∈ recorded ++ [.count c]) : r.IsCount := by
    rcases List.mem_append.1 hmem with hmem | hmem
    · exact hall r hmem
    · exact ⟨c, List.mem_singleton.1 hmem⟩
  rcases placeOrder_cases source draws fresh now request store state with
    ⟨e, -, hp⟩ | ⟨new, found, -, hsource, hrest⟩
  · rw [hp] at hr
    cases hr
  · have hfound : ∀ r ∈ found.recorded, r.IsCount := hsource ▸ h _ _ _
    rcases hrest with ⟨e, -, hp⟩ | ⟨markets, -, ⟨-, hp⟩ | ⟨-, -, hp⟩ | ⟨order, after, -, -, hp⟩⟩
    · rw [hp] at hr
      exact hcount _ hfound hr
    · rw [hp] at hr
      exact hcount _ hfound hr
    · rw [hp] at hr
      exact hcount _ hfound hr
    · rw [hp] at hr
      rcases List.mem_append.1 hr with hr | hr
      · exact hcount _ hfound hr
      · exact ⟨_, List.mem_singleton.1 hr⟩

end OrderDesk
