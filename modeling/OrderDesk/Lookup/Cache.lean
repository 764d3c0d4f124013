import OrderDesk.Market.Basic

/-!
# The markets cache

Lists of markets under text keys, each with the time at which it expires. A read looks first and
then evicts what it found expired; the two are separate steps, since other operations may come
between.
-/

namespace OrderDesk

/-- A cached list of markets. -/
structure CacheEntry where
  markets : List Market
  expiresAt : Nanos
  deriving DecidableEq, Repr

/-- Whether an entry still holds at a time. It expires at the very end of its time to live. -/
def CacheEntry.isLive (entry : CacheEntry) (now : Nanos) : Bool :=
  decide (now < entry.expiresAt)

/-- Cached lists of markets by key; a key occurs once. -/
structure MarketsCache where
  entries : List (String × CacheEntry)
  deriving DecidableEq, Repr

namespace MarketsCache

def empty : MarketsCache := ⟨[]⟩

instance : Inhabited MarketsCache := ⟨empty⟩

/-- The number of entries, expired ones among them. -/
def size (cache : MarketsCache) : Nat :=
  cache.entries.length

def isEmpty (cache : MarketsCache) : Bool :=
  cache.entries.isEmpty

/-- The entry under a key, expired or not. -/
def entry? (cache : MarketsCache) (key : String) : Option CacheEntry :=
  cache.entries.lookup key

def erase (cache : MarketsCache) (key : String) : MarketsCache :=
  ⟨cache.entries.filter (·.1 != key)⟩

/-- Keeps a list under a key for some time from now on, in place of what was there. Fails when the
clock does not reach the end of that time. -/
def set? (cache : MarketsCache) (key : String) (markets : List Market) (ttl now : Nanos) :
    Option MarketsCache :=
  if OnClock (now + ttl) then
    some ⟨(key, ⟨markets, now + ttl⟩) :: (cache.erase key).entries⟩
  else none

/-- The cache after a list was set, or after that failed: then it is as it was. -/
def set (cache : MarketsCache) (key : String) (markets : List Market) (ttl now : Nanos) :
    MarketsCache :=
  (cache.set? key markets ttl now).getD cache

/-- What a read finds. -/
inductive Look where
  | absent
  | live (markets : List Market)
  | expired
  deriving DecidableEq, Repr

/-- The first step of a read. -/
def look (cache : MarketsCache) (key : String) (now : Nanos) : Look :=
  match cache.entry? key with
  | none => .absent
  | some entry => if entry.isLive now then .live entry.markets else .expired

/-- The second step of a read that found an expired entry: the entry is dropped if it is expired
still. -/
def evict (cache : MarketsCache) (key : String) (now : Nanos) : MarketsCache :=
  match cache.entry? key with
  | some entry => if entry.isLive now then cache else cache.erase key
  | none => cache

/-- Reads the list under a key, and drops it when it has expired. -/
def get (cache : MarketsCache) (key : String) (now : Nanos) : Option (List Market) × MarketsCache :=
  match cache.look key now with
  | .absent => (none, cache)
  | .live markets => (some markets, cache)
  | .expired => (none, cache.evict key now)

@[simp] theorem entry?_empty (key : String) : empty.entry? key = none := rfl

end MarketsCache

end OrderDesk
