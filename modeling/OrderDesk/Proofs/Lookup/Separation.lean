import OrderDesk.Proofs.Lookup.Provenance

/-!
# Cached lists of different roles

Lists that were found for different sets of roles lie under different keys of the cache. What is
kept for the one set is not read for the other (`readFor_writeFor_of_ne`), and whatever is read for
some roles was kept for just these (`Lookups.keptAt_of_answered`).
-/

namespace OrderDesk

/-- Two lists that name the same roles. -/
def SameRoles (a b : List Role) : Prop :=
  ∀ r, r ∈ a ↔ r ∈ b

namespace MarketsCache

variable {a b : List Role} (h : ¬ SameRoles a b) (cache : MarketsCache) (health : CacheHealth)
  (markets : List Market) (ttl writtenAt : Nanos)
include h

theorem entry?_writeFor_of_ne :
    entry? (cache.writeFor health a markets ttl writtenAt) (marketsKey b) =
      cache.entry? (marketsKey b) := by
  rw [writeFor]
  split
  · rw [entry?_set, if_neg]
    rintro ⟨hkey, -⟩
    exact h fun r => (marketsKey_eq_iff.1 hkey r).symm
  · rfl

/-- What is kept for some roles is not read for others. -/
theorem readFor_writeFor_of_ne (health' : CacheHealth) (readAt : Nanos) :
    ((cache.writeFor health a markets ttl writtenAt).readFor health' b readAt).1 =
      (cache.readFor health' b readAt).1 := by
  unfold readFor
  split
  · refine Option.ext fun found => ?_
    rw [get_fst_eq_some_iff, get_fst_eq_some_iff, entry?_writeFor_of_ne h]
  · rfl

end MarketsCache

namespace Lookups

/-- A lookup that finds its answer in the cache finds what a lookup for the same roles kept. -/
theorem keptAt_of_answered {σ : Type} {source : MarketSource σ} {ttl : Nanos} {lookups : Lookups σ}
    {notes : List (Nat × LookupNote)} (h : Sound ttl lookups notes) {k : Nat} {roles : List Role}
    {requestId : String} (hk : lookups.calls[k]? = some ⟨roles, requestId, .reading⟩)
    {health : CacheHealth} {markets : List Market}
    (ha : (lookups.step source ttl (.turn k health)).calls[k]? =
      some ⟨roles, requestId, .answered (.ok markets)⟩) :
    ∃ writtenAt, KeptAt notes roles markets writtenAt := by
  obtain ⟨hlt, -⟩ := List.getElem?_eq_some_iff.1 hk
  rw [step_turn source ttl hk, List.getElem?_set_self hlt] at ha
  dsimp only [LookupCall.turn] at ha
  cases hl : lookups.state.cache.lookFor health roles lookups.now with
  | none => simp [hl, LookupPhase.afterRead] at ha
  | some found =>
    cases found with
    | live markets' =>
      obtain rfl : markets' = markets := by simpa [hl, LookupPhase.afterRead] using ha
      obtain ⟨writtenAt, hkept, -⟩ := keptAt_of_lookFor h.stored hl
      exact ⟨writtenAt, hkept⟩
    | absent => simp [hl, LookupPhase.afterRead] at ha
    | expired => simp [hl, LookupPhase.afterRead] at ha

end Lookups

/-- **A key of the cache tells sets of roles apart, and nothing else.** Two lists of roles have one
key exactly when they name the same roles; hence what is kept for one set of roles is never read for
another, and whatever a caller is answered from the cache was kept for just its roles. -/
theorem keys_separate_roles :
    (∀ a b, marketsKey a = marketsKey b ↔ SameRoles a b) ∧
    (∀ roles, marketsKey roles = "markets:" ++ ",".intercalate (sortedNames roles)) ∧
    (∀ (cache : MarketsCache) health health' a b markets ttl writtenAt readAt, ¬ SameRoles a b →
      ((cache.writeFor health a markets ttl writtenAt).readFor health' b readAt).1 =
        (cache.readFor health' b readAt).1) ∧
    ∀ {σ : Type} (source : MarketSource σ) (ttl now : Nanos) (inner : σ)
      (events : List Lookups.Event) (k : Nat) (roles : List Role) (requestId : String)
      (health : CacheHealth) (markets : List Market),
      let lookups := (Lookups.start now inner).run source ttl events
      lookups.calls[k]? = some ⟨roles, requestId, .reading⟩ →
      (lookups.step source ttl (.turn k health)).calls[k]? =
        some ⟨roles, requestId, .answered (.ok markets)⟩ →
      ∃ writtenAt,
        Lookups.KeptAt ((Lookups.start now inner).trace source ttl events) roles markets
          writtenAt := by
  refine ⟨fun _ _ => marketsKey_eq_iff, marketsKey_eq_sorted, ?_, ?_⟩
  · intro cache health health' a b markets ttl writtenAt readAt h
    exact cache.readFor_writeFor_of_ne h health markets ttl writtenAt health' readAt
  · intro σ source ttl now inner events k roles requestId health markets lookups hk ha
    exact Lookups.keptAt_of_answered ((Lookups.Sound.start now inner).run events) hk ha

end OrderDesk
