import OrderDesk.Lookup.Source

/-!
# Lookups that share a cache

`Lookups` is any number of lookups through one cache, in front of one source. A lookup reads the
cache, drops what it found expired, asks the source and keeps the answer; each of these is a turn of
its own. Between two turns of a lookup the others may take theirs, time may pass, and the cache may
begin to fail or work again.

`Lookups.notes` is what an event shows of the lookups. A lookup that nobody interferes with does
what `MarketSource.cached` does in one go (`exists_run_eq_cached`).
-/

namespace OrderDesk

/-- What a lookup is about to do. -/
inductive LookupPhase where
  /-- To read the cache. -/
  | reading
  /-- To drop an entry that had expired when it was read. -/
  | evicting (readAt : Nanos)
  /-- To ask the source behind the cache. -/
  | asking
  /-- To keep what the source answered. -/
  | keeping (markets : List Market)
  /-- Nothing, ever again. -/
  | answered (answer : Except LookupError (List Market))

/-- One lookup, for some roles and on behalf of a request. -/
structure LookupCall where
  roles : List Role
  requestId : String
  phase : LookupPhase

/-- What can be seen of a lookup. -/
inductive LookupNote where
  /-- It read the cache and found something, or the cache failed. -/
  | read (readAt : Nanos) (found : Option MarketsCache.Look)
  /-- It asked the source. -/
  | asked (roles : List Role) (requestId : String) (answer : Except LookupError (List Market))
  /-- It wrote to the cache, which worked or not. -/
  | wrote (writtenAt : Nanos) (works : Bool) (markets : List Market)

namespace LookupPhase

/-- What comes after the cache was read. A fault counts as a miss. -/
def afterRead (readAt : Nanos) : Option MarketsCache.Look → LookupPhase
  | none => .asking
  | some .absent => .asking
  | some (.live markets) => .answered (.ok markets)
  | some .expired => .evicting readAt

/-- What comes after the source answered. -/
def afterAnswer : Except LookupError (List Market) → LookupPhase
  | .ok markets => .keeping markets
  | .error e => .answered (.error e)

end LookupPhase

/-- What a lookup finds in the cache, unless the cache fails. -/
def MarketsCache.lookFor (cache : MarketsCache) (health : CacheHealth) (roles : List Role)
    (now : Nanos) : Option Look :=
  if health.reads then some (cache.look (marketsKey roles) now) else none

theorem MarketsCache.readFor_eq (cache : MarketsCache) (health : CacheHealth) (roles : List Role)
    (now : Nanos) : cache.readFor health roles now =
      match cache.lookFor health roles now with
      | none => (none, cache)
      | some .absent => (none, cache)
      | some (.live markets) => (some markets, cache)
      | some .expired => (none, cache.evict (marketsKey roles) now) := by
  unfold MarketsCache.readFor MarketsCache.lookFor MarketsCache.get
  cases health.reads with
  | false => rfl
  | true => cases cache.look (marketsKey roles) now <;> rfl

/-- What a turn of a lookup leads to. -/
structure LookupTurn (σ : Type) where
  phase : LookupPhase
  state : Cached σ
  notes : List LookupNote

section
variable {σ : Type} (source : MarketSource σ) (ttl : Nanos)

/-- One turn of a lookup. -/
def LookupCall.turn (call : LookupCall) (health : CacheHealth) (now : Nanos) (state : Cached σ) :
    LookupTurn σ :=
  match call.phase with
  | .reading =>
    let found := state.cache.lookFor health call.roles now
    ⟨.afterRead now found, state, [.read now found]⟩
  | .evicting readAt =>
    ⟨.asking, { state with cache := state.cache.evict (marketsKey call.roles) readAt }, []⟩
  | .asking =>
    let found := source call.roles call.requestId state.inner
    ⟨.afterAnswer found.answer, { state with inner := found.state },
      [.asked call.roles call.requestId found.answer]⟩
  | .keeping markets =>
    ⟨.answered (.ok markets),
      { state with cache := state.cache.writeFor health call.roles markets ttl now },
      [.wrote now health.writes markets]⟩
  | .answered answer => ⟨.answered answer, state, []⟩

/-- Lookups through one cache, the cache, and the time. -/
structure Lookups (σ : Type) where
  now : Nanos
  state : Cached σ
  calls : List LookupCall

namespace Lookups

inductive Event where
  | wait (time : Nanos)
  | call (roles : List Role) (requestId : String)
  | turn (k : Nat) (health : CacheHealth)

/-- Before the first lookup: the cache is empty. -/
def start (now : Nanos) (inner : σ) : Lookups σ :=
  ⟨now, ⟨.empty, inner⟩, []⟩

def step (lookups : Lookups σ) : Event → Lookups σ
  | .wait time => { lookups with now := lookups.now + time }
  | .call roles requestId =>
    { lookups with calls := lookups.calls ++ [⟨roles, requestId, .reading⟩] }
  | .turn k health =>
    match lookups.calls[k]? with
    | none => lookups
    | some call =>
      let turn := call.turn source ttl health lookups.now lookups.state
      { lookups with
        state := turn.state
        calls := lookups.calls.set k { call with phase := turn.phase } }

/-- What an event shows, and of which lookup. -/
def notes (lookups : Lookups σ) : Event → List (Nat × LookupNote)
  | .wait _ => []
  | .call .. => []
  | .turn k health =>
    match lookups.calls[k]? with
    | none => []
    | some call => (call.turn source ttl health lookups.now lookups.state).notes.map (k, ·)

def run (lookups : Lookups σ) (events : List Event) : Lookups σ :=
  events.foldl (step source ttl) lookups

def trace (lookups : Lookups σ) : List Event → List (Nat × LookupNote)
  | [] => []
  | event :: events =>
    lookups.notes source ttl event ++ (lookups.step source ttl event).trace events

@[simp] theorem run_nil (lookups : Lookups σ) : lookups.run source ttl [] = lookups := rfl

@[simp] theorem run_cons (lookups : Lookups σ) (event : Event) (events : List Event) :
    lookups.run source ttl (event :: events) =
      (lookups.step source ttl event).run source ttl events := rfl

/-! ## A lookup by itself -/

variable {lookups : Lookups σ} {k : Nat} {call : LookupCall}

theorem step_turn (hk : lookups.calls[k]? = some call) (health : CacheHealth) :
    lookups.step source ttl (.turn k health) =
      let turn := call.turn source ttl health lookups.now lookups.state
      { lookups with
        state := turn.state
        calls := lookups.calls.set k { call with phase := turn.phase } } := by
  rw [step, hk]

theorem notes_turn (hk : lookups.calls[k]? = some call) (health : CacheHealth) :
    lookups.notes source ttl (.turn k health) =
      (call.turn source ttl health lookups.now lookups.state).notes.map (k, ·) := by
  rw [notes, hk]

variable {source ttl}

/-- What a caching source does after a miss, a lookup does in the turns that are left to it. -/
theorem run_of_miss {roles : List Role} {requestId : String} {health : CacheHealth}
    {cache : MarketsCache} (hlt : k < lookups.calls.length)
    (hmiss : lookups.state.cache.readFor health roles lookups.now = (none, cache))
    (time : Nanos) :
    let found := source.cached health ttl lookups.now (lookups.now + time) roles requestId
      lookups.state
    run source ttl
        { lookups with
          state := { lookups.state with cache }
          calls := lookups.calls.set k ⟨roles, requestId, .asking⟩ }
        [.turn k health, .wait time, .turn k health] =
      { now := lookups.now + time
        state := found.state
        calls := lookups.calls.set k ⟨roles, requestId, .answered found.answer⟩ } := by
  cases hf : (source roles requestId lookups.state.inner).answer with
  | ok markets =>
    simp [run, step, MarketSource.cached, hmiss, LookupCall.turn, LookupPhase.afterAnswer, hf, hlt]
  | error e =>
    simp [run, step, MarketSource.cached, hmiss, LookupCall.turn, LookupPhase.afterAnswer, hf, hlt]

/-- A lookup that nobody interferes with does in its turns what a caching source does at once. -/
theorem exists_run_eq_cached {roles : List Role} {requestId : String}
    (hk : lookups.calls[k]? = some ⟨roles, requestId, .reading⟩) (health : CacheHealth)
    (time : Nanos) : ∃ n,
      let found := source.cached health ttl lookups.now (lookups.now + time) roles requestId
        lookups.state
      lookups.run source ttl
          (List.replicate n (.turn k health) ++ [.wait time, .turn k health]) =
        { now := lookups.now + time
          state := found.state
          calls := lookups.calls.set k ⟨roles, requestId, .answered found.answer⟩ } := by
  obtain ⟨hlt, -⟩ := List.getElem?_eq_some_iff.1 hk
  have hread := lookups.state.cache.readFor_eq health roles lookups.now
  have hfirst := step_turn source ttl hk health
  simp only [LookupCall.turn] at hfirst
  cases hl : lookups.state.cache.lookFor health roles lookups.now with
  | none =>
    rw [hl] at hread hfirst
    refine ⟨2, ?_⟩
    rw [List.replicate_succ, List.cons_append, run_cons, hfirst]
    exact run_of_miss hlt hread time
  | some found =>
    cases found with
    | absent =>
      rw [hl] at hread hfirst
      refine ⟨2, ?_⟩
      rw [List.replicate_succ, List.cons_append, run_cons, hfirst]
      exact run_of_miss hlt hread time
    | live markets =>
      rw [hl] at hread hfirst
      refine ⟨1, ?_⟩
      rw [List.replicate_succ, List.cons_append, run_cons, hfirst]
      simp [run, step, hlt, LookupCall.turn, LookupPhase.afterRead, MarketSource.cached, hread]
    | expired =>
      rw [hl] at hread hfirst
      have hsecond : step source ttl { lookups with
          calls := lookups.calls.set k ⟨roles, requestId, .evicting lookups.now⟩ }
            (.turn k health) =
          { lookups with
            state := { lookups.state with
              cache := lookups.state.cache.evict (marketsKey roles) lookups.now }
            calls := lookups.calls.set k ⟨roles, requestId, .asking⟩ } := by
        simp [step, LookupCall.turn, hlt]
      refine ⟨3, ?_⟩
      rw [List.replicate_succ, List.cons_append, run_cons, hfirst, List.replicate_succ,
        List.cons_append, run_cons, LookupPhase.afterRead, hsecond]
      exact run_of_miss hlt hread time

end Lookups

end

end OrderDesk
