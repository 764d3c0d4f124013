import OrderDesk.Proofs.Lookup.Entries

/-!
# The markets cache as a timed map

`SharedCache` is a cache that any number of calls use at once. A call reads the clock before it
comes to the cache, and a read that found an expired entry comes back to drop it; in between,
anything else may happen to the cache. `SharedCache.written` is the log of what was set and deleted.

`Mirrors` says how the cache and the log go together. Every event keeps it (`Mirrors.step`): a
forgotten list is found nowhere, and what is dropped had expired by the time the clock showed when
the read began, so it is missed at no later time. `run_timedMap` is what follows for those who read.
-/

namespace OrderDesk

/-- A read that found an expired entry and has yet to drop it. -/
structure Eviction where
  key : String
  /-- What the clock showed when the read began. -/
  readAt : Nanos

/-- What is written under a key. -/
inductive CacheWrite where
  | kept (markets : List Market) (ttl since : Nanos)
  | deleted

/-- A cache in the hands of many, and the time. -/
structure SharedCache where
  now : Nanos
  cache : MarketsCache
  /-- The reads that are about to come back. -/
  evictions : List Eviction

namespace SharedCache

/-- What happens around a cache. Those who set a list or look for one go by what the clock showed
some time `ago`. -/
inductive Event where
  | wait (time : Nanos)
  | set (key : String) (markets : List Market) (ttl ago : Nanos)
  | delete (key : String)
  | look (key : String) (ago : Nanos)
  | evict (i : Nat)

/-- Whether an event is the second step of a read. -/
def Event.isEvict : Event → Bool
  | .evict _ => true
  | _ => false

/-- Before the first call: the cache is empty. -/
def start (now : Nanos) : SharedCache :=
  ⟨now, .empty, []⟩

def step (s : SharedCache) : Event → SharedCache
  | .wait time => { s with now := s.now + time }
  | .set key markets ttl ago => { s with cache := s.cache.set key markets ttl (s.now - ago) }
  | .delete key => { s with cache := s.cache.erase key }
  | .look key ago =>
    if s.cache.look key (s.now - ago) = .expired then
      { s with evictions := s.evictions ++ [⟨key, s.now - ago⟩] }
    else s
  | .evict i =>
    match s.evictions[i]? with
    | none => s
    | some eviction =>
      { s with
        cache := s.cache.evict eviction.key eviction.readAt
        evictions := s.evictions.eraseIdx i }

def run (s : SharedCache) (events : List Event) : SharedCache :=
  events.foldl step s

/-- What an event writes, and under which key. Nothing is written of a list when the clock does not
reach its end. -/
def writes (s : SharedCache) : Event → List (String × CacheWrite)
  | .set key markets ttl ago =>
    if OnClock (s.now - ago + ttl) then [(key, .kept markets ttl (s.now - ago))] else []
  | .delete key => [(key, .deleted)]
  | .wait _ => []
  | .look .. => []
  | .evict _ => []

/-- All that is written in the course of some events. -/
def written (s : SharedCache) : List Event → List (String × CacheWrite)
  | [] => []
  | event :: events => s.writes event ++ (s.step event).written events

/-- The key whose entry an event may change. -/
def touched? (s : SharedCache) : Event → Option String
  | .set key .. => some key
  | .delete key => some key
  | .evict i => s.evictions[i]?.map Eviction.key
  | .wait _ => none
  | .look .. => none

/-- What was written last under a key. -/
def lastWrite (log : List (String × CacheWrite)) (key : String) : Option CacheWrite :=
  log.reverse.lookup key

@[simp] theorem run_nil (s : SharedCache) : s.run [] = s := rfl

@[simp] theorem run_cons (s : SharedCache) (event : Event) (events : List Event) :
    s.run (event :: events) = (s.step event).run events := rfl

@[simp] theorem lastWrite_nil (key : String) : lastWrite [] key = none := rfl

theorem lastWrite_concat (log : List (String × CacheWrite)) (key key' : String)
    (write : CacheWrite) :
    lastWrite (log ++ [(key, write)]) key' =
      if key' = key then some write else lastWrite log key' := by
  rw [lastWrite, List.reverse_append, List.reverse_singleton, List.singleton_append,
    List.lookup_cons]
  by_cases h : key' = key
  · simp [h]
  · rw [beq_eq_false_iff_ne.2 h, if_neg h]
    rfl

/-- What is not set leaves all as it is. -/
theorem step_set_of_not_onClock {s : SharedCache} {ttl ago : Nanos}
    (h : ¬ OnClock (s.now - ago + ttl)) (key : String) (markets : List Market) :
    s.step (.set key markets ttl ago) = s := by
  rw [step, s.cache.set_of_not_onClock key h]

/-! ## Cache and log -/

/-- How a cache goes together with the log of what was written. -/
structure Mirrors (s : SharedCache) (log : List (String × CacheWrite)) : Prop where
  /-- Every entry was written last under its key. -/
  last : ∀ key entry, s.cache.entry? key = some entry → ∃ ttl since,
    lastWrite log key = some (.kept entry.markets ttl since) ∧ entry.expiresAt = since + ttl
  /-- What was written last and still holds has an entry. -/
  held : ∀ key markets ttl since, lastWrite log key = some (.kept markets ttl since) →
    s.now < since + ttl → s.cache.entry? key = some ⟨markets, since + ttl⟩
  /-- Whoever comes back read the clock before. -/
  past : ∀ eviction ∈ s.evictions, eviction.readAt ≤ s.now
  nodup : s.cache.keys.Nodup

namespace Mirrors

variable {s : SharedCache} {log : List (String × CacheWrite)}

theorem start (now : Nanos) : Mirrors (start now) [] :=
  { last := fun _ _ he => by cases he
    held := fun _ _ _ _ hl => by cases hl
    past := fun _ he => by cases he
    nodup := List.nodup_nil }

theorem wait (h : Mirrors s log) (time : Nanos) : Mirrors (s.step (.wait time)) log :=
  { last := h.last
    held := fun key markets ttl since hl hlt =>
      h.held key markets ttl since hl (Nat.lt_of_le_of_lt (Nat.le_add_right _ time) hlt)
    past := fun eviction he => Nat.le_trans (h.past eviction he) (Nat.le_add_right _ time)
    nodup := h.nodup }

theorem set (h : Mirrors s log) (key : String) (markets : List Market) {ttl ago : Nanos}
    (hclock : OnClock (s.now - ago + ttl)) :
    Mirrors (s.step (.set key markets ttl ago))
      (log ++ [(key, .kept markets ttl (s.now - ago))]) := by
  refine
    { last := fun key' entry he => ?_
      held := fun key' markets' ttl' since hl hlt => ?_
      past := h.past
      nodup := MarketsCache.nodup_keys_set h.nodup key markets ttl (s.now - ago) }
  · simp only [step, MarketsCache.entry?_set, hclock, and_true] at he
    rw [lastWrite_concat]
    by_cases hk : key' = key
    · rw [if_pos hk, Option.some.injEq] at he
      subst he
      exact ⟨ttl, s.now - ago, if_pos hk, rfl⟩
    · rw [if_neg hk] at he ⊢
      exact h.last key' entry he
  · rw [lastWrite_concat] at hl
    simp only [step, MarketsCache.entry?_set, hclock, and_true]
    by_cases hk : key' = key
    · simp only [hk, if_true, Option.some.injEq, CacheWrite.kept.injEq] at hl
      obtain ⟨rfl, rfl, rfl⟩ := hl
      rw [if_pos hk]
    · rw [if_neg hk] at hl ⊢
      exact h.held key' markets' ttl' since hl hlt

theorem delete (h : Mirrors s log) (key : String) :
    Mirrors (s.step (.delete key)) (log ++ [(key, .deleted)]) := by
  refine
    { last := fun key' entry he => ?_
      held := fun key' markets ttl since hl hlt => ?_
      past := h.past
      nodup := MarketsCache.nodup_keys_erase h.nodup key }
  · rw [step, MarketsCache.entry?_erase] at he
    rw [lastWrite_concat]
    by_cases hk : key' = key
    · simp [hk] at he
    · rw [if_neg hk] at he ⊢
      exact h.last key' entry he
  · rw [lastWrite_concat] at hl
    rw [step, MarketsCache.entry?_erase]
    by_cases hk : key' = key
    · simp [hk] at hl
    · rw [if_neg hk] at hl ⊢
      exact h.held key' markets ttl since hl hlt

theorem look (h : Mirrors s log) (key : String) (ago : Nanos) :
    Mirrors (s.step (.look key ago)) log := by
  rw [step]
  split
  · refine { last := h.last, held := h.held, past := fun eviction he => ?_, nodup := h.nodup }
    rcases List.mem_append.1 he with he | he
    · exact h.past eviction he
    · rw [List.mem_singleton.1 he]
      exact Nat.sub_le s.now ago
  · exact h

/-- What still holds is not dropped, since it held when the clock was read before. -/
theorem entry?_evict (h : Mirrors s log) (i : Nat) {key : String} {entry : CacheEntry}
    (he : s.cache.entry? key = some entry) (hlive : s.now < entry.expiresAt) :
    MarketsCache.entry? (s.step (.evict i)).cache key = some entry := by
  rw [step]
  split
  · exact he
  · next eviction hi =>
    have hpast := h.past eviction (List.mem_of_getElem? hi)
    exact MarketsCache.entry?_evict_of_lt he (Nat.lt_of_le_of_lt hpast hlive)

theorem evict (h : Mirrors s log) (i : Nat) : Mirrors (s.step (.evict i)) log := by
  have hheld : ∀ key markets ttl since, lastWrite log key = some (.kept markets ttl since) →
      s.now < since + ttl →
        MarketsCache.entry? (s.step (.evict i)).cache key = some ⟨markets, since + ttl⟩ :=
    fun key markets ttl since hl hlt => h.entry?_evict i (h.held key markets ttl since hl hlt) hlt
  rw [step] at hheld ⊢
  split
  · exact h
  · next eviction hi =>
    rw [hi] at hheld
    exact
      { last := fun key entry he => h.last key entry (MarketsCache.entry?_of_evict he)
        held := hheld
        past := fun other ho => h.past other (List.mem_of_mem_eraseIdx ho)
        nodup := MarketsCache.nodup_keys_evict h.nodup eviction.key eviction.readAt }

theorem step (h : Mirrors s log) (event : Event) :
    Mirrors (s.step event) (log ++ s.writes event) := by
  cases event with
  | wait time => rw [writes, List.append_nil]; exact h.wait time
  | set key markets ttl ago =>
    rw [writes]
    split
    · next hclock => exact h.set key markets hclock
    · next hlate => rwa [step_set_of_not_onClock hlate, List.append_nil]
  | delete key => exact h.delete key
  | look key ago => rw [writes, List.append_nil]; exact h.look key ago
  | evict i => rw [writes, List.append_nil]; exact h.evict i

theorem run (h : Mirrors s log) (events : List Event) :
    Mirrors (s.run events) (log ++ s.written events) := by
  induction events generalizing s log with
  | nil =>
    rw [written, List.append_nil]
    exact h
  | cons event events ih =>
    rw [run_cons, written, ← List.append_assoc]
    exact ih (h.step event)

/-! ## What reads find -/

theorem exists_of_look (h : Mirrors s log) {key : String} {markets : List Market} {time : Nanos}
    (hl : s.cache.look key time = .live markets) : ∃ ttl since,
      lastWrite log key = some (.kept markets ttl since) ∧ time < since + ttl := by
  obtain ⟨entry, he, rfl, hlt⟩ := MarketsCache.look_eq_live_iff.1 hl
  obtain ⟨ttl, since, hlast, hexpires⟩ := h.last key entry he
  exact ⟨ttl, since, hlast, by rwa [← hexpires]⟩

theorem get_iff (h : Mirrors s log) {key : String} {markets : List Market} {time : Nanos}
    (ht : s.now ≤ time) : (s.cache.get key time).1 = some markets ↔ ∃ ttl since,
      lastWrite log key = some (.kept markets ttl since) ∧ time < since + ttl := by
  rw [MarketsCache.get_fst_eq_some_iff]
  constructor
  · intro hentry
    exact h.exists_of_look (MarketsCache.look_eq_live_iff.2 hentry)
  · rintro ⟨ttl, since, hlast, hlt⟩
    exact ⟨_, h.held key markets ttl since hlast (Nat.lt_of_le_of_lt ht hlt), rfl, hlt⟩

end Mirrors

/-! ## Evictions are not seen -/

theorem entry?_step_of_ne {s : SharedCache} {event : Event} {key : String}
    (h : s.touched? event ≠ some key) :
    MarketsCache.entry? (s.step event).cache key = s.cache.entry? key := by
  cases event with
  | wait time => rfl
  | set key' markets ttl ago =>
    rw [step, MarketsCache.entry?_set, if_neg]
    rintro ⟨rfl, -⟩
    exact h rfl
  | delete key' =>
    rw [step, MarketsCache.entry?_erase, if_neg]
    rintro rfl
    exact h rfl
  | look key' ago =>
    rw [step]
    split <;> rfl
  | evict i =>
    rw [step]
    split
    · rfl
    · next eviction hi =>
      rw [MarketsCache.entry?_evict, if_neg]
      rintro rfl
      exact h (by rw [touched?, hi]; rfl)

/-- A read that nobody interferes with does in its two steps what a read does in one go. -/
theorem run_look_evict (s : SharedCache) (key : String) :
    s.run [.look key 0, .evict s.evictions.length] =
      { s with cache := (s.cache.get key s.now).2 } := by
  rw [MarketsCache.get_snd]
  by_cases hl : s.cache.look key s.now = .expired
  · simp [run, step, hl, List.eraseIdx_append_of_length_le]
  · simp [run, step, hl, MarketsCache.evict_of_look hl]

/-- How much time an event takes. -/
def Event.time : Event → Nanos
  | .wait time => time
  | _ => 0

theorem now_step (s : SharedCache) (event : Event) : (s.step event).now = s.now + event.time := by
  cases event with
  | wait time => rfl
  | set key markets ttl ago => rfl
  | delete key => rfl
  | look key ago =>
    rw [step]
    split <;> rfl
  | evict i =>
    rw [step]
    split <;> rfl

theorem exists_of_isEvict {event : Event} (h : event.isEvict = true) : ∃ i, event = .evict i := by
  cases event with
  | evict i => exact ⟨i, rfl⟩
  | _ => cases h

theorem writes_eq {s s' : SharedCache} (h : s.now = s'.now) (event : Event) :
    s.writes event = s'.writes event := by
  cases event <;> simp [writes, h]

/-- The same events without the second steps of reads. -/
def keepingExpired (events : List Event) : List Event :=
  events.filter (!·.isEvict)

theorem run_keepingExpired {s s' : SharedCache} (h : s.now = s'.now) (events : List Event) :
    (s.run events).now = (s'.run (keepingExpired events)).now ∧
      s.written events = s'.written (keepingExpired events) := by
  induction events generalizing s s' with
  | nil => exact ⟨h, rfl⟩
  | cons event events ih =>
    cases he : event.isEvict with
    | true =>
      obtain ⟨i, rfl⟩ := exists_of_isEvict he
      exact ih ((now_step s (.evict i)).trans h)
    | false =>
      have hfilter : keepingExpired (event :: events) = event :: keepingExpired events := by
        simp [keepingExpired, he]
      obtain ⟨hnow, hwritten⟩ := @ih (s.step event) (s'.step event) (by simp only [now_step, h])
      rw [hfilter, run_cons, run_cons, written, written, writes_eq h]
      exact ⟨hnow, by rw [hwritten]⟩

/-! ## The timed map -/

/-- A cache is a timed map of what was written, whoever uses it from now on. -/
structure TimedMap (s : SharedCache) (log : List (String × CacheWrite)) : Prop where
  /-- A read finds the list that was set last under its key, as long as it holds. -/
  get_iff : ∀ key markets time, s.now ≤ time → ((s.cache.get key time).1 = some markets ↔
    ∃ ttl since, lastWrite log key = some (.kept markets ttl since) ∧ time < since + ttl)
  /-- Nor does a read that comes late to the cache find any other. -/
  found : ∀ key markets time, s.cache.look key time = .live markets →
    ∃ ttl since, lastWrite log key = some (.kept markets ttl since) ∧ time < since + ttl
  /-- The entries under other keys are left alone. -/
  others : ∀ event key, s.touched? event ≠ some key →
    MarketsCache.entry? (s.step event).cache key = s.cache.entry? key
  /-- A read never drops what still holds when it comes back. -/
  spared : ∀ i key entry, s.cache.entry? key = some entry → s.now < entry.expiresAt →
    MarketsCache.entry? (s.step (.evict i)).cache key = some entry
  /-- To set a list fails just when the clock does not reach its end, and then changes nothing. -/
  set : ∀ key markets ttl ago,
    if OnClock (s.now - ago + ttl) then
      s.cache.set? key markets ttl (s.now - ago) = some (s.step (.set key markets ttl ago)).cache
    else s.cache.set? key markets ttl (s.now - ago) = none ∧
      s.step (.set key markets ttl ago) = s
  /-- Every entry was written last under its key. -/
  counted : ∀ key entry, (key, entry) ∈ s.cache.entries → ∃ ttl since,
    lastWrite log key = some (.kept entry.markets ttl since) ∧ entry.expiresAt = since + ttl
  /-- No key is counted twice. -/
  nodup : s.cache.keys.Nodup

theorem set?_step (s : SharedCache) (key : String) (markets : List Market) (ttl ago : Nanos) :
    if OnClock (s.now - ago + ttl) then
      s.cache.set? key markets ttl (s.now - ago) = some (s.step (.set key markets ttl ago)).cache
    else s.cache.set? key markets ttl (s.now - ago) = none ∧
      s.step (.set key markets ttl ago) = s := by
  split
  · next hclock =>
    rw [step, MarketsCache.set_of_onClock _ _ hclock, MarketsCache.set?, if_pos hclock]
  · next hlate => exact ⟨if_neg hlate, step_set_of_not_onClock hlate key markets⟩

theorem Mirrors.timedMap {s : SharedCache} {log : List (String × CacheWrite)} (h : Mirrors s log) :
    TimedMap s log :=
  { get_iff := fun _ _ _ ht => h.get_iff ht
    found := fun _ _ _ hl => h.exists_of_look hl
    others := fun _ _ hk => entry?_step_of_ne hk
    spared := fun i _ _ he hlive => h.entry?_evict i he hlive
    set := s.set?_step
    counted := fun key entry he =>
      h.last key entry ((MarketsCache.entry?_eq_some_iff h.nodup).2 he)
    nodup := h.nodup }

/-- **The cache is a timed map**, whatever its users do and in whichever order the steps of their
calls come. What is read under a key is what was set there last, for its time to live; the entries
under other keys, and those that still hold, are left alone. To set a list fails when the clock does
not reach its end, and changes nothing. That expired entries are dropped, and when, cannot be told
from what is read. -/
theorem run_timedMap (now : Nanos) (events : List Event) :
    let s := (start now).run events
    TimedMap s ((start now).written events) ∧
    (∀ key time, s.now ≤ time → (s.cache.get key time).1 =
      (((start now).run (keepingExpired events)).cache.get key time).1) ∧
    ∀ key, s.run [.look key 0, .evict s.evictions.length] =
      { s with cache := (s.cache.get key s.now).2 } := by
  intro s
  have h : Mirrors s ((start now).written events) := (Mirrors.start now).run events
  have hkeeping := (Mirrors.start now).run (keepingExpired events)
  obtain ⟨hnow, hwritten⟩ := run_keepingExpired (rfl : (start now).now = (start now).now) events
  refine ⟨h.timedMap, fun key time ht => Option.ext fun markets => ?_, s.run_look_evict⟩
  rw [List.nil_append, ← hwritten] at hkeeping
  rw [h.get_iff ht, hkeeping.get_iff (hnow ▸ ht)]

-- a list that is set again between the two steps of a read outlives the second one
example :
    let s := (start 0).run [.set "k" [] 5 0, .wait 5, .look "k" 0, .set "k" [] 5 0, .evict 0]
    s.cache.entry? "k" = some ⟨[], 10⟩ := by
  decide

/-- What is to be kept for longer than the clock goes is not found, not even at once. -/
theorem not_found_of_late_set :
    let ttl := 0xFFFFFFFFFFFFFFFF * nanosPerSecond
    let s := (start 0).run [.set "k" [] ttl 0]
    s.now < 0 + ttl ∧ (s.cache.get "k" s.now).1 = none := by
  decide

end SharedCache

end OrderDesk
