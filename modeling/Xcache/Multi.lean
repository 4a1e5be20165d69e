import Xcache.Cache

namespace Xcache

/-!
# xcache — `Multi`, the tiered cache

`Multi` (`multi.go`) composes a list of caches, index 0 first, into one `Cache`:

* `Multi.save` — saves into every cache, whichever fail, and aggregates the failures;
* `Multi.load` — reads the caches in order up to the first hit; a hit past index 0 is
  saved back into the caches before it, nearest first, with the TTL of the cache it
  was found in (read-repair);
* `Multi.ttl` — the first non-negative TTL, skipping the caches that fail;
* `Multi.stats` — the field-wise `int64` sum of the caches' stats, or a zero `Stats`
  and the aggregated failures when any cache fails.

The operations are written over any monad `m`: the `Mock` instance gives the call
sequences (`Xcache.Multi.Calls`), a nondeterministic store the coherence of the tiers
(`Xcache.Multi.Coherence`).
-/

/-- `Multi` (`multi.go`): the caches, in the order given to `NewMulti`. -/
structure Multi (m : Type → Type) where
  caches : List (Cache m)

variable {m : Type → Type} [Monad m]

namespace Multi

/-- One iteration of the `Multi.Save` loop: save into `c`, keep its error. -/
def saveStep (key : String) (value : Bytes) (expire : Duration) (mErr : MultiError)
    (c : Cache m) : m MultiError := do
  let err ← c.save key value expire
  pure (mErr.add err)

/-- `Multi.Save`: saves into every cache, in order, collecting the errors. -/
def save (cache : Multi m) (key : String) (value : Bytes) (expire : Duration) :
    m (Option GoError) := do
  let mErr ← cache.caches.foldlM (saveStep key value expire) MultiError.nil
  pure mErr.errOrNil

/-- The loop of `Multi.Load` at index `idx`, over the caches from `idx` on. A hit past
    index 0 is saved back into `caches[idx-1], …, caches[0]` with the TTL of the cache
    it was found in, when that TTL call succeeds; the errors of those saves are
    dropped. -/
def loadFrom (cache : Multi m) (key : String) : Nat → List (Cache m) → MultiError →
    m (Bytes × Option GoError)
  | _, [], mErr => pure (match mErr.errOrNil with
      | none => ([], some .errNotFound)
      | some err => ([], some err))
  | idx, c :: rest, mErr => do
    let (val, err) ← c.load key
    match err with
    | none =>
      if 0 < idx then -- save upfront the key
        let (ttl, errTTL) ← c.ttl key
        if errTTL.isNone then
          (cache.caches.take idx).reverse.forM fun upfront => do
            let _ ← upfront.save key val ttl
      pure (val, none)
    | some err =>
      if errorsIs err .errNotFound then cache.loadFrom key (idx + 1) rest mErr
      else cache.loadFrom key (idx + 1) rest (mErr.add (some err))

/-- `Multi.Load`. -/
def load (cache : Multi m) (key : String) : m (Bytes × Option GoError) :=
  cache.loadFrom key 0 cache.caches MultiError.nil

/-- The loop of `Multi.TTL` over the caches left. -/
def ttlFrom (key : String) : List (Cache m) → MultiError → m (Duration × Option GoError)
  | [], mErr => pure (-1, mErr.errOrNil)
  | c :: rest, mErr => do
    let (ttl, err) ← c.ttl key
    match err with
    | some err => ttlFrom key rest (mErr.add (some err))
    | none => if 0 ≤ ttl then pure (ttl, none) else ttlFrom key rest mErr

/-- `Multi.TTL`. -/
def ttl (cache : Multi m) (key : String) : m (Duration × Option GoError) :=
  ttlFrom key cache.caches MultiError.nil

end Multi

/-- Go's `+` on `int64`: the sum modulo `2^64`, in `[-2^63, 2^63)`. -/
def int64Add (a b : Int) : Int := Int.bmod (a + b) 18446744073709551616

/-- The field-wise `int64` sum `Multi.Stats` accumulates. -/
def Stats.add (s t : Stats) : Stats where
  memory := int64Add s.memory t.memory
  maxMemory := int64Add s.maxMemory t.maxMemory
  hits := int64Add s.hits t.hits
  misses := int64Add s.misses t.misses
  keys := int64Add s.keys t.keys
  expired := int64Add s.expired t.expired
  evicted := int64Add s.evicted t.evicted

namespace Multi

/-- One iteration of the `Multi.Stats` loop: a failure is collected, a success summed. -/
def statsStep (acc : MultiError × Stats) (c : Cache m) : m (MultiError × Stats) := do
  let (stats, err) ← c.stats
  match err with
  | some err => pure (acc.1.add (some err), acc.2)
  | none => pure (acc.1, acc.2.add stats)

/-- `Multi.Stats`: every cache's stats, summed; a zero `Stats` and the aggregated
    errors when any cache fails. -/
def stats (cache : Multi m) : m (Stats × Option GoError) := do
  let (mErr, mStats) ← cache.caches.foldlM statsStep (MultiError.nil, {})
  match mErr.errOrNil with
  | some err => pure ({}, some err)
  | none => pure (mStats, none)

/-- A `Multi` is itself a `Cache` (`var _ xcache.Cache = (*xcache.Multi)(nil)`). -/
def toCache (cache : Multi m) : Cache m where
  save := cache.save
  load := cache.load
  ttl := cache.ttl
  stats := cache.stats

end Multi

end Xcache
