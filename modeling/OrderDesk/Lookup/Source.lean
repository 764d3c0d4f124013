import OrderDesk.Lookup.Cache
import OrderDesk.Lookup.Error
import OrderDesk.Market.Role
import OrderDesk.Metrics

/-!
# Where markets are looked up

A source answers which markets a set of roles can see. It may keep a state of its own, such as a
cache, and record what it does. A caching source answers from a cache and asks the source behind it
only on a miss; no fault of the cache ever fails a lookup.
-/

namespace OrderDesk

/-- What a lookup answers, the state it leaves and what it recorded. -/
structure Lookup (σ : Type) where
  answer : Except LookupError (List Market)
  state : σ
  recorded : List Recording

/-- Looks up the markets that some roles can see, on behalf of a request. -/
abbrev MarketSource (σ : Type) :=
  List Role → String → σ → Lookup σ

/-- Which operations of a cache work. -/
structure CacheHealth where
  reads : Bool
  writes : Bool
  deriving DecidableEq, Repr

def CacheHealth.good : CacheHealth := ⟨true, true⟩

/-- Reads the cache for a lookup: the list, if there is one, and the cache afterwards. A fault
counts as a miss. -/
def MarketsCache.readFor (cache : MarketsCache) (health : CacheHealth) (roles : List Role)
    (now : Nanos) : Option (List Market) × MarketsCache :=
  if health.reads then cache.get (marketsKey roles) now else (none, cache)

/-- Keeps what a lookup found. A fault is ignored. A list is not kept when the clock does not reach
its end; a lookup that would keep it breaks off here. -/
def MarketsCache.writeFor (cache : MarketsCache) (health : CacheHealth) (roles : List Role)
    (markets : List Market) (ttl now : Nanos) : MarketsCache :=
  if health.writes then cache.set (marketsKey roles) markets ttl now else cache

/-- The state of a caching source: its cache and the state of the source behind it. -/
structure Cached (σ : Type) where
  cache : MarketsCache
  inner : σ

/-- A source that leaves the cache in front of it alone. -/
def MarketSource.uncached {σ : Type} (source : MarketSource σ) : MarketSource (Cached σ) :=
  fun roles requestId state =>
    let found := source roles requestId state.inner
    { answer := found.answer
      state := { state with inner := found.state }
      recorded := found.recorded }

/-- Looks markets up through a cache, and behind it in another source. The cache is read at one time
and, after the lookup behind it, written at another. -/
def MarketSource.cached {σ : Type} (source : MarketSource σ) (health : CacheHealth) (ttl : Nanos)
    (readAt writtenAt : Nanos) : MarketSource (Cached σ) := fun roles requestId state =>
  match state.cache.readFor health roles readAt with
  | (some markets, cache) =>
    { answer := .ok markets
      state := { state with cache }
      recorded := [.count (.cacheLookups true)] }
  | (none, cache) =>
    let found := source roles requestId state.inner
    let recorded := .count (.cacheLookups false) :: found.recorded
    match found.answer with
    | .ok markets =>
      { answer := .ok markets
        state := ⟨cache.writeFor health roles markets ttl writtenAt, found.state⟩
        recorded }
    | .error e => { answer := .error e, state := ⟨cache, found.state⟩, recorded }

end OrderDesk
