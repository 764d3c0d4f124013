import OrderDesk.Proofs.Lookup.Entries
import OrderDesk.Proofs.Lookup.Turns
import OrderDesk.Proofs.Market.Roles

/-!
# Where cached answers come from

`Lookups.Account` says all that was noted of a lookup, by how far it has come: whom it asked, with
what, and what it was answered; or, when it found its answer in the cache, which other lookup had
kept this list there, for the same roles and not too long before.

It rests on what is known of every entry of the cache (`Lookups.Stored`). Both hold together
(`Lookups.Sound`) before the first lookup and are kept by every turn of every lookup
(`Sound.turn`), in any order. `answers_justified` is what callers may count on.
-/

namespace OrderDesk.Lookups

/-! ## Notes of one lookup -/

/-- What is noted of one lookup. -/
def notesOf (k : Nat) (notes : List (Nat × LookupNote)) : List LookupNote :=
  notes.filterMap fun note => if note.1 = k then some note.2 else none

variable {k j : Nat} {notes noted : List (Nat × LookupNote)}

@[simp] theorem notesOf_append (k : Nat) (notes noted : List (Nat × LookupNote)) :
    notesOf k (notes ++ noted) = notesOf k notes ++ notesOf k noted :=
  List.filterMap_append

@[simp] theorem notesOf_nil (k : Nat) : notesOf k [] = [] := rfl

@[simp] theorem notesOf_singleton (k : Nat) (note : LookupNote) :
    notesOf k [(k, note)] = [note] := by
  simp [notesOf]

theorem notesOf_map_of_ne (h : j ≠ k) (noted : List LookupNote) :
    notesOf k (noted.map (j, ·)) = [] := by
  simp [notesOf, List.filterMap_map, h]

theorem mem_of_mem_notesOf {note : LookupNote} (h : note ∈ notesOf k notes) :
    (k, note) ∈ notes := by
  obtain ⟨⟨i, note'⟩, hmem, heq⟩ := List.mem_filterMap.1 h
  by_cases hi : i = k
  · simp only [hi, if_true, Option.some.injEq] at heq
    rwa [← heq, ← hi]
  · simp [hi] at heq

/-! ## What is known of a lookup and of the cache -/

/-- The source answered some lookup for the same roles with these markets, and this lookup kept them
at this time. -/
def KeptAt (notes : List (Nat × LookupNote)) (roles : List Role) (markets : List Market)
    (writtenAt : Nanos) : Prop :=
  ∃ j roles' requestId, (∀ r, r ∈ roles' ↔ r ∈ roles) ∧
    List.Sublist [(j, .asked roles' requestId (.ok markets)), (j, .wrote writtenAt true markets)]
      notes

/-- A lookup for some roles did nothing but find markets in the cache that had been kept before, and
for less than the time to live. -/
def FoundKept (ttl : Nanos) (notes : List (Nat × LookupNote)) (k : Nat) (roles : List Role)
    (markets : List Market) : Prop :=
  ∃ readAt writtenAt before after,
    notes = before ++ (k, .read readAt (some (.live markets))) :: after ∧
    notesOf k notes = [.read readAt (some (.live markets))] ∧
    KeptAt before roles markets writtenAt ∧ writtenAt ≤ readAt ∧ readAt < writtenAt + ttl

/-- Whether a read found no list that still held, or nothing at all because the cache failed. -/
def Misses (found : Option MarketsCache.Look) : Prop :=
  ∀ markets, found ≠ some (.live markets)

/-- All that was noted of a lookup, by how far it has come. -/
def Account (ttl : Nanos) (notes : List (Nat × LookupNote)) (k : Nat) (call : LookupCall) : Prop :=
  match call.phase with
  | .reading => notesOf k notes = []
  | .evicting readAt => notesOf k notes = [.read readAt (some .expired)]
  | .asking => ∃ readAt found, Misses found ∧ notesOf k notes = [.read readAt found]
  | .keeping markets => ∃ readAt found, Misses found ∧ notesOf k notes =
      [.read readAt found, .asked call.roles call.requestId (.ok markets)]
  | .answered (.ok markets) => FoundKept ttl notes k call.roles markets ∨
      ∃ readAt found writtenAt works, Misses found ∧ notesOf k notes =
        [.read readAt found, .asked call.roles call.requestId (.ok markets),
          .wrote writtenAt works markets]
  | .answered (.error e) => ∃ readAt found, Misses found ∧ notesOf k notes =
      [.read readAt found, .asked call.roles call.requestId (.error e)]

/-- Every entry of a cache was kept by a lookup, for the time to live. -/
def Stored (ttl now : Nanos) (cache : MarketsCache) (notes : List (Nat × LookupNote)) : Prop :=
  ∀ roles entry, cache.entry? (marketsKey roles) = some entry → ∃ writtenAt,
    KeptAt notes roles entry.markets writtenAt ∧ entry.expiresAt = writtenAt + ttl ∧
      writtenAt ≤ now

theorem KeptAt.append {roles : List Role} {markets : List Market} {writtenAt : Nanos}
    (h : KeptAt notes roles markets writtenAt) (noted : List (Nat × LookupNote)) :
    KeptAt (notes ++ noted) roles markets writtenAt := by
  obtain ⟨j, roles', requestId, hroles, hsub⟩ := h
  exact ⟨j, roles', requestId, hroles, hsub.trans (List.sublist_append_left _ _)⟩

theorem Stored.append {ttl now : Nanos} {cache : MarketsCache} (h : Stored ttl now cache notes)
    (noted : List (Nat × LookupNote)) : Stored ttl now cache (notes ++ noted) := by
  intro roles entry hentry
  obtain ⟨writtenAt, hkept, hrest⟩ := h roles entry hentry
  exact ⟨writtenAt, hkept.append noted, hrest⟩

/-- What is noted of other lookups changes nothing about this one. -/
theorem Account.append {ttl : Nanos} {call : LookupCall} (h : Account ttl notes k call)
    (hj : j ≠ k) (noted : List LookupNote) :
    Account ttl (notes ++ noted.map (j, ·)) k call := by
  have hnotes : notesOf k (notes ++ noted.map (j, ·)) = notesOf k notes := by
    rw [notesOf_append, notesOf_map_of_ne hj, List.append_nil]
  unfold Account FoundKept at h ⊢
  rw [hnotes]
  split at h
  · exact h
  · exact h
  · exact h
  · exact h
  -- only an answer from the cache says where among the notes it was found
  · refine h.imp_left ?_
    rintro ⟨readAt, writtenAt, before, after, hsplit, hrest⟩
    exact ⟨readAt, writtenAt, before, after ++ noted.map (j, ·), by simp [hsplit], hrest⟩
  · exact h

/-! ## One event -/

section
variable {σ : Type} {source : MarketSource σ} {ttl : Nanos} {lookups : Lookups σ}
  {call : LookupCall}

/-- What holds of lookups that began with an empty cache, given all that was noted of them. -/
structure Sound (ttl : Nanos) (lookups : Lookups σ) (notes : List (Nat × LookupNote)) : Prop where
  account : ∀ k call, lookups.calls[k]? = some call → Account ttl notes k call
  /-- Nothing is noted of lookups to come. -/
  unopened : ∀ k, lookups.calls.length ≤ k → notesOf k notes = []
  stored : Stored ttl lookups.now lookups.state.cache notes

/-- What a lookup finds in the cache was kept there by some lookup for the same roles. -/
theorem keptAt_of_lookFor (h : Stored ttl lookups.now lookups.state.cache notes)
    {health : CacheHealth} {roles : List Role} {markets : List Market}
    (hl : lookups.state.cache.lookFor health roles lookups.now = some (.live markets)) :
    ∃ writtenAt, KeptAt notes roles markets writtenAt ∧ writtenAt ≤ lookups.now ∧
      lookups.now < writtenAt + ttl := by
  unfold MarketsCache.lookFor at hl
  split at hl
  · obtain ⟨entry, hentry, rfl, hlive⟩ :=
      MarketsCache.look_eq_live_iff.1 (Option.some.inj hl)
    obtain ⟨writtenAt, hkept, hexpires, hle⟩ := h roles entry hentry
    rw [hexpires] at hlive
    exact ⟨writtenAt, hkept, hle, hlive⟩
  · cases hl

theorem foundKept_of_lookFor (h : Stored ttl lookups.now lookups.state.cache notes)
    (hnotes : notesOf k notes = []) {health : CacheHealth} {roles : List Role}
    {markets : List Market}
    (hl : lookups.state.cache.lookFor health roles lookups.now = some (.live markets)) :
    FoundKept ttl (notes ++ [(k, .read lookups.now (some (.live markets)))]) k roles markets := by
  obtain ⟨writtenAt, hkept, hle, hlive⟩ := keptAt_of_lookFor h hl
  exact ⟨lookups.now, writtenAt, notes, [], rfl, by simp [hnotes], hkept, hle, hlive⟩

theorem account_turn (h : Sound ttl lookups notes) (hk : lookups.calls[k]? = some call)
    (health : CacheHealth) :
    let turn := call.turn source ttl health lookups.now lookups.state
    Account ttl (notes ++ turn.notes.map (k, ·)) k { call with phase := turn.phase } := by
  obtain ⟨roles, requestId, phase⟩ := call
  have haccount := h.account k _ hk
  cases phase with
  | reading =>
    replace haccount : notesOf k notes = [] := haccount
    dsimp only [LookupCall.turn]
    cases hl : lookups.state.cache.lookFor health roles lookups.now with
    | none => exact ⟨lookups.now, none, by simp [Misses], by simp [haccount]⟩
    | some found =>
      cases found with
      | absent => exact ⟨lookups.now, some .absent, by simp [Misses], by simp [haccount]⟩
      | live markets => exact .inl (foundKept_of_lookFor h.stored haccount hl)
      | expired => simp [Account, LookupPhase.afterRead, haccount]
  | evicting readAt =>
    replace haccount : notesOf k notes = [.read readAt (some .expired)] := haccount
    exact ⟨readAt, some .expired, by simp [Misses], by simp [LookupCall.turn, haccount]⟩
  | asking =>
    obtain ⟨readAt, found, hmiss, hnotes⟩ := haccount
    dsimp only [LookupCall.turn]
    cases ha : (source roles requestId lookups.state.inner).answer with
    | ok markets => exact ⟨readAt, found, hmiss, by simp [hnotes]⟩
    | error e => exact ⟨readAt, found, hmiss, by simp [hnotes]⟩
  | keeping markets =>
    obtain ⟨readAt, found, hmiss, hnotes⟩ := haccount
    exact .inr ⟨readAt, found, lookups.now, health.writes, hmiss, by
      simp [LookupCall.turn, hnotes]⟩
  | answered answer =>
    dsimp only [LookupCall.turn]
    rw [List.map_nil, List.append_nil]
    exact haccount

/-- What a turn leaves in the cache was there before, or the turn wrote it. -/
theorem entry?_turn (health : CacheHealth) {roles : List Role} {entry : CacheEntry}
    (h : MarketsCache.entry? (call.turn source ttl health lookups.now lookups.state).state.cache
      (marketsKey roles) = some entry) :
    lookups.state.cache.entry? (marketsKey roles) = some entry ∨
      call.phase = .keeping entry.markets ∧ (∀ r, r ∈ call.roles ↔ r ∈ roles) ∧
        entry.expiresAt = lookups.now + ttl ∧
        (call.turn source ttl health lookups.now lookups.state).notes =
          [.wrote lookups.now true entry.markets] := by
  obtain ⟨callRoles, requestId, phase⟩ := call
  cases phase with
  | reading => exact .inl h
  | evicting readAt => exact .inl (MarketsCache.entry?_of_evict h)
  | asking => exact .inl h
  | keeping markets =>
    dsimp only [LookupCall.turn, MarketsCache.writeFor] at h ⊢
    cases hw : health.writes with
    | false =>
      rw [hw, if_neg Bool.false_ne_true] at h
      exact .inl h
    | true =>
      rw [hw, if_pos rfl, MarketsCache.entry?_set] at h
      split at h
      · next hkept =>
        obtain rfl := Option.some.inj h
        exact .inr ⟨rfl, marketsKey_eq_iff.1 hkept.1.symm, rfl, rfl⟩
      · exact .inl h
  | answered answer => exact .inl h

/-- A lookup that is about to keep what it was answered was answered it by the source. -/
theorem keptAt_of_keeping (h : Account ttl notes k call) {markets : List Market}
    (hp : call.phase = .keeping markets) {roles : List Role}
    (hroles : ∀ r, r ∈ call.roles ↔ r ∈ roles) (writtenAt : Nanos) :
    KeptAt (notes ++ [(k, .wrote writtenAt true markets)]) roles markets writtenAt := by
  unfold Account at h
  simp only [hp] at h
  obtain ⟨readAt, found, -, hnotes⟩ := h
  have hasked : (k, .asked call.roles call.requestId (.ok markets)) ∈ notes :=
    mem_of_mem_notesOf (by simp [hnotes])
  exact ⟨k, call.roles, call.requestId, hroles,
    (List.singleton_sublist.2 hasked).append (List.Sublist.refl _)⟩

theorem stored_turn (h : Sound ttl lookups notes) (hk : lookups.calls[k]? = some call)
    (health : CacheHealth) :
    let turn := call.turn source ttl health lookups.now lookups.state
    Stored ttl lookups.now turn.state.cache (notes ++ turn.notes.map (k, ·)) := by
  intro turn roles entry hentry
  rcases entry?_turn health hentry with hold | ⟨hp, hroles, hexpires, hnotes⟩
  · exact h.stored.append _ roles entry hold
  · refine ⟨lookups.now, ?_, hexpires, Nat.le_refl _⟩
    rw [hnotes]
    exact keptAt_of_keeping (h.account k call hk) hp hroles lookups.now

namespace Sound

theorem start (now : Nanos) (inner : σ) : Sound ttl (Lookups.start now inner) [] :=
  { account := fun _ _ hk => by cases hk
    unopened := fun _ _ => rfl
    stored := fun _ _ hentry => by cases hentry }

theorem turn (h : Sound ttl lookups notes) (k : Nat) (health : CacheHealth) :
    Sound ttl (lookups.step source ttl (.turn k health))
      (notes ++ lookups.notes source ttl (.turn k health)) := by
  cases hk : lookups.calls[k]? with
  | none =>
    rw [Lookups.step, Lookups.notes, hk, List.append_nil]
    exact h
  | some call =>
    rw [step_turn source ttl hk, notes_turn source ttl hk]
    obtain ⟨hlt, -⟩ := List.getElem?_eq_some_iff.1 hk
    refine
      { account := fun j other hj => ?_
        unopened := fun j hj => ?_
        stored := stored_turn h hk health }
    · by_cases hjk : k = j
      · subst hjk
        rw [List.getElem?_set_self hlt, Option.some.injEq] at hj
        subst hj
        exact account_turn h hk health
      · rw [List.getElem?_set_ne hjk] at hj
        exact (h.account j other hj).append hjk _
    · rw [List.length_set] at hj
      rw [notesOf_append, h.unopened j hj, notesOf_map_of_ne (by omega), List.append_nil]

theorem step (h : Sound ttl lookups notes) (event : Event) :
    Sound ttl (lookups.step source ttl event) (notes ++ lookups.notes source ttl event) := by
  cases event with
  | wait time =>
    rw [Lookups.notes, List.append_nil]
    refine { account := h.account, unopened := h.unopened, stored := fun roles entry hentry => ?_ }
    obtain ⟨writtenAt, hkept, hexpires, hle⟩ := h.stored roles entry hentry
    exact ⟨writtenAt, hkept, hexpires, Nat.le_trans hle (Nat.le_add_right _ _)⟩
  | call roles requestId =>
    rw [Lookups.notes, List.append_nil]
    refine { account := fun k call hk => ?_, unopened := fun k hk => ?_, stored := h.stored }
    · obtain ⟨hlt, -⟩ := List.getElem?_eq_some_iff.1 hk
      rw [Lookups.step, List.length_append] at hlt
      rw [Lookups.step] at hk
      rcases Nat.lt_succ_iff_lt_or_eq.1 hlt with hlt | rfl
      · rw [List.getElem?_append_left hlt] at hk
        exact h.account k call hk
      · rw [List.getElem?_concat_length, Option.some.injEq] at hk
        subst hk
        exact h.unopened _ (Nat.le_refl _)
    · rw [Lookups.step, List.length_append] at hk
      exact h.unopened k (Nat.le_of_add_right_le hk)
  | turn k health => exact h.turn k health

theorem run (h : Sound ttl lookups notes) (events : List Event) :
    Sound ttl (lookups.run source ttl events) (notes ++ lookups.trace source ttl events) := by
  induction events generalizing lookups notes with
  | nil =>
    rw [trace, List.append_nil]
    exact h
  | cons event events ih =>
    rw [run_cons, trace, ← List.append_assoc]
    exact ih (h.step event)

end Sound

/-- Nothing gets into the cache but what a lookup writes there. -/
theorem entry?_step (lookups : Lookups σ) (event : Event) {roles : List Role} {entry : CacheEntry}
    (h : MarketsCache.entry? (lookups.step source ttl event).state.cache (marketsKey roles) =
      some entry) :
    lookups.state.cache.entry? (marketsKey roles) = some entry ∨
      ∃ k, lookups.notes source ttl event = [(k, .wrote lookups.now true entry.markets)] := by
  cases event with
  | wait time => exact .inl h
  | call roles requestId => exact .inl h
  | turn k health =>
    cases hk : lookups.calls[k]? with
    | none =>
      rw [step, hk] at h
      exact .inl h
    | some call =>
      rw [step_turn source ttl hk] at h
      rw [notes_turn source ttl hk]
      rcases entry?_turn health h with hold | ⟨-, -, -, hnotes⟩
      · exact .inl hold
      · exact .inr ⟨k, by rw [hnotes]; rfl⟩

/-- A read that works finds the list under its key exactly as long as the list holds. -/
theorem answered_step_iff {roles : List Role} {requestId : String}
    (hk : lookups.calls[k]? = some ⟨roles, requestId, .reading⟩) {health : CacheHealth}
    {entry : CacheEntry} (hreads : health.reads = true)
    (hentry : lookups.state.cache.entry? (marketsKey roles) = some entry) :
    (lookups.step source ttl (.turn k health)).calls[k]? =
        some ⟨roles, requestId, .answered (.ok entry.markets)⟩ ↔
      lookups.now < entry.expiresAt := by
  obtain ⟨hlt, -⟩ := List.getElem?_eq_some_iff.1 hk
  have hfound : lookups.state.cache.lookFor health roles lookups.now =
      some (if lookups.now < entry.expiresAt then .live entry.markets else .expired) := by
    simp [MarketsCache.lookFor, MarketsCache.look, hreads, hentry, CacheEntry.isLive]
  rw [step_turn source ttl hk, List.getElem?_set_self hlt]
  dsimp only [LookupCall.turn]
  rw [hfound]
  by_cases hlive : lookups.now < entry.expiresAt <;> simp [hlive, LookupPhase.afterRead]

/-- **What callers of a caching source may count on**, however many of them share its cache, and
whatever the source and the clock do and the cache fails to do meanwhile. Every lookup is accounted
for, at every point: an answer is what the source answered this very lookup, or a list that was
found in the cache and had been kept for the same roles; a failure is the failure of the source. The
source is asked once after a miss and not at all otherwise. Nothing but what lookups keep gets into
the cache, and it is found there until its time is over; and a lookup that nobody interferes with is
what a caching source does at once. -/
theorem answers_justified (source : MarketSource σ) (ttl now : Nanos) (inner : σ)
    (events : List Event) :
    let lookups := (start now inner).run source ttl events
    (∀ k call, lookups.calls[k]? = some call →
      Account ttl ((start now inner).trace source ttl events) k call) ∧
    (∀ event roles entry,
      MarketsCache.entry? (lookups.step source ttl event).state.cache (marketsKey roles) =
          some entry →
        lookups.state.cache.entry? (marketsKey roles) = some entry ∨
          ∃ k, lookups.notes source ttl event = [(k, .wrote lookups.now true entry.markets)]) ∧
    (∀ k roles requestId, lookups.calls[k]? = some ⟨roles, requestId, .reading⟩ →
      ∀ health entry, health.reads = true →
        lookups.state.cache.entry? (marketsKey roles) = some entry →
          ((lookups.step source ttl (.turn k health)).calls[k]? =
              some ⟨roles, requestId, .answered (.ok entry.markets)⟩ ↔
            lookups.now < entry.expiresAt)) ∧
    ∀ k roles requestId, lookups.calls[k]? = some ⟨roles, requestId, .reading⟩ →
      ∀ health time, ∃ n,
        let found := source.cached health ttl lookups.now (lookups.now + time) roles requestId
          lookups.state
        lookups.run source ttl
            (List.replicate n (.turn k health) ++ [.wait time, .turn k health]) =
          { now := lookups.now + time
            state := found.state
            calls := lookups.calls.set k ⟨roles, requestId, .answered found.answer⟩ } := by
  have hsound : Sound ttl ((start now inner).run source ttl events)
      ((start now inner).trace source ttl events) := (Sound.start now inner).run events
  exact ⟨hsound.account, fun event roles entry => entry?_step _ event,
    fun k roles requestId hk health entry => answered_step_iff hk,
    fun k roles requestId hk => exists_run_eq_cached hk⟩

end

/-- A lookup, and after some time another one for the same roles in another order. -/
def again (time : Nanos) : List Event :=
  [.call [.admin, .trader] "first", .turn 0 .good, .turn 0 .good, .turn 0 .good, .wait time,
    .call [.trader, .admin, .trader] "second", .turn 1 .good]

-- the second finds what the first kept, but no longer than the time to live
example :
    let source : MarketSource Unit := fun _ _ _ => ⟨.ok [], (), []⟩
    notesOf 1 ((start 0 ()).trace source 10 (again 9)) = [.read 9 (some (.live []))] ∧
      notesOf 1 ((start 0 ()).trace source 10 (again 10)) = [.read 10 (some .expired)] :=
  ⟨rfl, rfl⟩

end OrderDesk.Lookups
