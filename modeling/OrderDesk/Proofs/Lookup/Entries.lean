import OrderDesk.Lookup.Source

/-!
# The entries of the markets cache

What the operations of the cache leave under every key. Nothing but a write adds an entry, and it
adds the one under its key, if the clock reaches its end (`entry?_set`); an eviction drops the one
under its key at most (`entry?_evict`). No operation makes a key occur twice, so every entry is the
one that is found under its key (`entry?_eq_some_iff`).
-/

namespace OrderDesk.MarketsCache

theorem lookup_filter_ne (entries : List (String × CacheEntry)) (key key' : String) :
    (entries.filter (·.1 != key)).lookup key' =
      if key' = key then none else entries.lookup key' := by
  induction entries with
  | nil => simp
  | cons entry entries ih =>
    obtain ⟨k, entry⟩ := entry
    rw [List.filter_cons]
    by_cases hk : k = key
    · subst hk
      by_cases hk' : key' = k
      · simpa [hk'] using ih
      · simpa [hk', List.lookup_cons, beq_eq_false_iff_ne.2 hk'] using ih
    · by_cases hk' : key' = k
      · subst hk'
        simp [hk]
      · simpa [hk, List.lookup_cons, beq_eq_false_iff_ne.2 hk'] using ih

variable (cache : MarketsCache) (key key' : String)

theorem entry?_erase :
    entry? (cache.erase key) key' = if key' = key then none else cache.entry? key' :=
  lookup_filter_ne cache.entries key key'

theorem entry?_cons_erase (entry : CacheEntry) :
    entry? ⟨(key, entry) :: (cache.erase key).entries⟩ key' =
      if key' = key then some entry else cache.entry? key' := by
  by_cases hk : key' = key
  · simp [hk, entry?]
  · rw [if_neg hk, entry?, List.lookup_cons, beq_eq_false_iff_ne.2 hk]
    exact (cache.entry?_erase key key').trans (if_neg hk)

/-- A list is kept just when the clock reaches its end. -/
theorem exists_set?_iff (markets : List Market) (ttl now : Nanos) :
    (∃ kept, cache.set? key markets ttl now = some kept ∧
      kept.entry? key = some ⟨markets, now + ttl⟩) ↔ OnClock (now + ttl) := by
  constructor
  · rintro ⟨kept, hkept, -⟩
    refine Decidable.of_not_not fun hlate => ?_
    rw [set?, if_neg hlate] at hkept
    cases hkept
  · intro hclock
    exact ⟨_, if_pos hclock, (cache.entry?_cons_erase key key _).trans (if_pos rfl)⟩

theorem set_of_onClock {ttl now : Nanos} (h : OnClock (now + ttl)) (markets : List Market) :
    cache.set key markets ttl now = ⟨(key, ⟨markets, now + ttl⟩) :: (cache.erase key).entries⟩ := by
  rw [set, set?, if_pos h, Option.getD_some]

/-- A list that the clock does not reach the end of is not kept, and nothing is lost for it. -/
theorem set_of_not_onClock {ttl now : Nanos} (h : ¬ OnClock (now + ttl)) (markets : List Market) :
    cache.set key markets ttl now = cache := by
  rw [set, set?, if_neg h, Option.getD_none]

theorem entry?_set (markets : List Market) (ttl now : Nanos) :
    entry? (cache.set key markets ttl now) key' =
      if key' = key ∧ OnClock (now + ttl) then some ⟨markets, now + ttl⟩
      else cache.entry? key' := by
  by_cases hclock : OnClock (now + ttl)
  · rw [set_of_onClock cache key hclock, entry?_cons_erase]
    simp only [hclock, and_true]
  · rw [set_of_not_onClock cache key hclock, if_neg fun h => hclock h.2]

/-- An eviction drops the entry under its key if it does not hold any more. -/
theorem entry?_evict (now : Nanos) :
    entry? (cache.evict key now) key' =
      if key' = key then (cache.entry? key).filter (·.isLive now) else cache.entry? key' := by
  unfold evict
  cases he : cache.entry? key with
  | none =>
    by_cases hk : key' = key
    · simp [hk, he]
    · simp [hk]
  | some entry =>
    by_cases hl : entry.isLive now = true
    · by_cases hk : key' = key
      · simp [hk, he, hl, Option.filter_some]
      · simp [hk, hl]
    · by_cases hk : key' = key
      · simp [hk, hl, entry?_erase, Option.filter_some]
      · simp [hk, hl, entry?_erase]

/-- An eviction adds nothing. -/
theorem entry?_of_evict {cache : MarketsCache} {key key' : String} {now : Nanos}
    {entry : CacheEntry} (h : entry? (cache.evict key now) key' = some entry) :
    cache.entry? key' = some entry := by
  rw [entry?_evict] at h
  by_cases hk : key' = key
  · rw [if_pos hk, Option.filter_eq_some_iff] at h
    rw [hk]
    exact h.1
  · rwa [if_neg hk] at h

/-- An eviction spares every entry that still held when the clock was read for it. -/
theorem entry?_evict_of_lt {cache : MarketsCache} {key key' : String} {now : Nanos}
    {entry : CacheEntry} (h : cache.entry? key' = some entry) (hlive : now < entry.expiresAt) :
    entry? (cache.evict key now) key' = some entry := by
  rw [entry?_evict]
  by_cases hk : key' = key
  · subst hk
    simp [h, Option.filter_some, CacheEntry.isLive, hlive]
  · rw [if_neg hk, h]

/-- A read finds a list exactly when there is an entry that still holds. -/
theorem look_eq_live_iff {cache : MarketsCache} {key : String} {now : Nanos}
    {markets : List Market} :
    cache.look key now = .live markets ↔
      ∃ entry, cache.entry? key = some entry ∧ entry.markets = markets ∧ now < entry.expiresAt := by
  unfold look
  cases cache.entry? key with
  | none => simp
  | some entry => by_cases hl : now < entry.expiresAt <;> simp [CacheEntry.isLive, hl]

/-! ## Reads -/

section
variable {cache : MarketsCache} {key : String} {now : Nanos}

theorem get_fst_eq_some_iff {markets : List Market} : (cache.get key now).1 = some markets ↔
    ∃ entry, cache.entry? key = some entry ∧ entry.markets = markets ∧ now < entry.expiresAt := by
  rw [← look_eq_live_iff, get]
  cases cache.look key now <;> simp

theorem evict_of_look (h : cache.look key now ≠ .expired) : cache.evict key now = cache := by
  unfold evict
  cases he : cache.entry? key with
  | none => rfl
  | some entry =>
    cases hl : entry.isLive now with
    | true => simp [hl]
    | false => exact absurd (by simp [look, he, hl]) h

/-- A read leaves the cache as an eviction at the same time does. -/
theorem get_snd : (cache.get key now).2 = cache.evict key now := by
  rw [get]
  cases hl : cache.look key now with
  | absent => exact (evict_of_look (by simp [hl])).symm
  | live markets => exact (evict_of_look (by simp [hl])).symm
  | expired => rfl

end

/-! ## Keys -/

/-- The keys of all entries. -/
def keys (cache : MarketsCache) : List String :=
  cache.entries.map Prod.fst

section
variable {cache : MarketsCache} (h : cache.keys.Nodup)
include h

theorem nodup_keys_erase (key : String) : (cache.erase key).keys.Nodup :=
  h.sublist (List.filter_sublist.map _)

theorem nodup_keys_set (key : String) (markets : List Market) (ttl now : Nanos) :
    (cache.set key markets ttl now).keys.Nodup := by
  by_cases hclock : OnClock (now + ttl)
  · rw [set_of_onClock cache key hclock]
    refine List.nodup_cons.2 ⟨fun hmem => ?_, nodup_keys_erase h key⟩
    obtain ⟨entry, he, hkey⟩ := List.mem_map.1 hmem
    simpa [hkey] using (List.mem_filter.1 he).2
  · rwa [set_of_not_onClock cache key hclock]

theorem nodup_keys_evict (key : String) (now : Nanos) : (cache.evict key now).keys.Nodup := by
  unfold evict
  split
  · split
    · exact h
    · exact nodup_keys_erase h key
  · exact h

/-- An entry is found under its key. -/
theorem entry?_eq_some_iff {key : String} {entry : CacheEntry} :
    cache.entry? key = some entry ↔ (key, entry) ∈ cache.entries := by
  unfold entry?
  rw [List.lookup_eq_some_iff]
  constructor
  · rintro ⟨l₁, l₂, hl, -⟩
    rw [hl]
    exact List.mem_append_right _ List.mem_cons_self
  · intro hmem
    obtain ⟨l₁, l₂, hl⟩ := List.append_of_mem hmem
    refine ⟨l₁, l₂, hl, fun other ho => ?_⟩
    rw [keys, hl, List.map_append, List.nodup_append] at h
    simpa using Ne.symm (h.2.2 other.1 (List.mem_map_of_mem ho) key (by simp))

end

end OrderDesk.MarketsCache
