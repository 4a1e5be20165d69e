import Xcache.Freecache
import Xcache.GoFloat

namespace Xcache

/-!
# xcache — `Memory`, the in-process cache

`Memory` (`memory.go`) keeps its entries in a freecache store and converts between the
`time.Duration` of the `Cache` interface and the whole seconds of the store.

* `Memory.save`, `Memory.load`, `Memory.ttl` — `Save`, `Load` and `TTL` at the store's
  clock reading `now`; `Memory.stats`, with the store's counters;
* `ttl_after_save` — right after a successful `Save`, `TTL` returns the whole seconds
  `Save` handed to the store, as a `time.Duration`: that many nanoseconds;
* `memory_ttl_in_nanoseconds` — a key saved for a minute reports a TTL of 60 ns, and
  saving it again with that TTL leaves it one second to live;
* `memory_save_then_read` — what `Load` and `TTL` return after a `Save`, at every later
  clock reading, with the store's `expireAt` wrapping modulo `2^32`;
* `memory_century_expire_lost` — a key saved for a hundred years is lost at once.
-/

/-- `freecacheMinBufSize`. -/
def freecacheMinBufSize : Int := 512 * 1024

/-- `getRealMemorySize`: the size raised to freecache's minimum. -/
def getRealMemorySize (memSize : Int) : Int :=
  if memSize < freecacheMinBufSize then freecacheMinBufSize else memSize

/-- `Memory`: the store and its size in bytes (`memSize`). The `mu` field, nil unless
    built by `NewMemoryWithConfig`, only serialises calls with reconfiguration
    (`Xcache.Reload`). -/
structure Memory where
  client : Freecache
  memSize : Int

/-- `NewMemory(memSize)`. -/
def newMemory (memSize : Int) : Memory :=
  let mem := getRealMemorySize memSize
  ⟨Freecache.newCache mem.toNat, mem⟩

/-- The seconds `Save` hands to the store for `expire ≥ 0`: `int(expire.Seconds())`,
    through `float64`, raised to 1 for a positive `expire` under a second, as freecache
    reads 0 as "no expiration". -/
def expireSecondsOf (expire : Duration) : Int :=
  let expireSeconds := (durationSeconds expire).toInt
  if expire > 0 ∧ expireSeconds = 0 then 1 else expireSeconds

namespace Memory

/-- `Memory.Save`: a negative `expire` deletes the key. -/
def save (cache : Memory) (now : UInt32) (key : String) (value : Bytes) (expire : Duration) :
    Option GoError × Memory :=
  if expire < 0 then -- delete the key
    (none, { cache with client := cache.client.del key })
  else
    let (err, client) := cache.client.set now key value (expireSecondsOf expire)
    (err, { cache with client := client })

/-- `Memory.Load`: the store's `ErrNotFound` becomes `ErrNotFound`. -/
def load (cache : Memory) (now : UInt32) (key : String) : Bytes × Option GoError :=
  match cache.client.get now key with
  | (value, none) => (value, none)
  | (value, some err) =>
    if errorsIs err freecacheErrNotFound then ([], some .errNotFound) else (value, some err)

/-- `Memory.TTL`: a missing key gives -1; otherwise `time.Duration(ttl)` of the store's
    `uint32` seconds. -/
def ttl (cache : Memory) (now : UInt32) (key : String) : Duration × Option GoError :=
  match cache.client.ttl now key with
  | (ttl, none) => (ttl.toNat, none)
  | (ttl, some err) =>
    if errorsIs err freecacheErrNotFound then (-1, none) else (ttl.toNat, some err)

end Memory

/-- The store's counters `Memory.Stats` reads (`HitCount`, `MissCount`, `EntryCount`,
    `ExpiredCount`, `EvacuateCount`). The store model keeps none of them, so they come
    with the call. -/
structure Freecache.Counters where
  hitCount : Int
  missCount : Int
  entryCount : Int
  expiredCount : Int
  evacuateCount : Int
  deriving DecidableEq, Repr

/-- `Memory.Stats`: the size, the store's counters, and an error that is always nil. -/
def Memory.stats (cache : Memory) (counters : Freecache.Counters) : Stats × Option GoError :=
  ({ memory := cache.memSize, maxMemory := cache.memSize, hits := counters.hitCount,
     misses := counters.missCount, keys := counters.entryCount, expired := counters.expiredCount,
     evicted := counters.evacuateCount }, none)

/-! ### `Save` then `TTL` -/

theorem expireSecondsOf_nonneg {expire : Int} (h : 0 ≤ expire) : 0 ≤ expireSecondsOf expire := by
  have := Float64.toInt_nonneg (durationSeconds_neg h)
  simp only [expireSecondsOf]
  split_ifs <;> omega

theorem expireSecondsOf_pos {expire : Int} (h : 0 < expire) : 0 < expireSecondsOf expire := by
  have := Float64.toInt_nonneg (durationSeconds_neg h.le)
  simp only [expireSecondsOf]
  split_ifs with h1
  · exact one_pos
  · simp only [not_and] at h1; exact lt_of_le_of_ne this (Ne.symm (h1 h))

/-- Below `2^24` seconds the seconds are the whole seconds of `expire`, at least 1. -/
theorem expireSecondsOf_of_lt {expire : Int} (h : 0 ≤ expire) (hlt : expire < 2 ^ 24 * second) :
    expireSecondsOf expire = if 0 < expire ∧ expire / second = 0 then 1 else expire / second := by
  simp only [expireSecondsOf, toInt_durationSeconds_of_lt h hlt, gt_iff_lt]

/-- A whole number `q` of seconds, `0 < q < 2^53`, is handed to the store as `q`. -/
theorem expireSecondsOf_mul_second {q : Int} (hq : 0 < q) (hlt : q < 2 ^ 53) :
    expireSecondsOf (q * second) = q := by
  simp only [expireSecondsOf, toInt_durationSeconds_mul_second hq.le hlt]
  rw [if_neg (by omega)]

/-- A positive duration under a second is handed to the store as 1 second. -/
theorem expireSecondsOf_of_lt_second {d : Int} (hd : 0 < d) (hlt : d < second) :
    expireSecondsOf d = 1 := by
  rw [expireSecondsOf_of_lt hd.le (lt_trans hlt (by decide)), if_pos ⟨hd, Int.ediv_eq_zero_of_lt hd.le hlt⟩]

/-- A `Set` the store accepts stores the entry with the `expireAt` it computes. -/
theorem Freecache.set_find {c c' : Freecache} {now : UInt32} {key : String} {value : Bytes}
    {expireSeconds : Int} (h : c.set now key value expireSeconds = (none, c')) :
    c'.find key = some ⟨key, value,
      if expireSeconds > 0 then now + UInt32.ofNat expireSeconds.toNat else 0⟩ := by
  simp only [Freecache.set] at h
  split_ifs at h <;> simp only [Prod.mk.injEq, reduceCtorEq, false_and, true_and] at h <;>
    subst h <;> simp [Freecache.find_insert, *]

/-- The store's `TTL` of an entry it has just stored for `s` seconds, `s` short enough
    for `now + s` not to wrap: `s`. -/
theorem Freecache.ttl_of_find {c : Freecache} {now : UInt32} {key : String} {value : Bytes}
    {s : Nat} (hs : 0 < s) (hwrap : now.toNat + s < 2 ^ 32)
    (h : c.find key = some ⟨key, value, now + UInt32.ofNat s⟩) :
    c.ttl now key = (UInt32.ofNat s, none) := by
  have hs32 : s < UInt32.size := by simp [UInt32.size]; omega
  have hsum : (now + UInt32.ofNat s).toNat = now.toNat + s := by
    rw [uint32_toNat_add _ _ (by rwa [UInt32.toNat_ofNat_of_lt hs32]), UInt32.toNat_ofNat_of_lt hs32]
  have hne : now + UInt32.ofNat s ≠ 0 := by rw [Ne, uint32_eq_zero_iff, hsum]; omega
  have hle : now ≤ now + UInt32.ofNat s := by
    rw [UInt32.le_def, BitVec.le_def]; show now.toNat ≤ (now + UInt32.ofNat s).toNat; omega
  simp [Freecache.ttl, h, hne, hle]

/-- **`TTL` right after `Save` returns the seconds `Save` stored, as nanoseconds.** For
    every key and value the store accepts and every `expire ≥ 0` whose seconds do not
    wrap the store's clock, `TTL` at the same `now` returns `expireSecondsOf expire`
    (`0` for `NoExpire`, at least 1 for a positive `expire`) as a `time.Duration`: a
    count of nanoseconds, not of seconds. -/
theorem ttl_after_save (cache : Memory) (now : UInt32) (key : String) (value : Bytes)
    (expire : Duration) (hexp : 0 ≤ expire)
    (hwrap : now.toNat + (expireSecondsOf expire).toNat < 2 ^ 32)
    (hok : (cache.save now key value expire).1 = none) :
    (cache.save now key value expire).2.ttl now key = (expireSecondsOf expire, none) := by
  have hsave : cache.save now key value expire =
      ((cache.client.set now key value (expireSecondsOf expire)).1,
        { cache with client := (cache.client.set now key value (expireSecondsOf expire)).2 }) := by
    simp [Memory.save, not_lt.mpr hexp]
  rw [hsave] at hok ⊢
  have hset : cache.client.set now key value (expireSecondsOf expire) =
      (none, (cache.client.set now key value (expireSecondsOf expire)).2) := by
    rw [← hok]
  have hfind := Freecache.set_find hset
  have h0 := expireSecondsOf_nonneg hexp
  rcases (expireSecondsOf_nonneg hexp).lt_or_eq with hpos | hzero
  · rw [if_pos hpos] at hfind
    have ht := Freecache.ttl_of_find (by omega) hwrap hfind
    have hlt : (expireSecondsOf expire).toNat < UInt32.size := by simp [UInt32.size]; omega
    simp [Memory.ttl, ht, UInt32.toNat_ofNat_of_lt hlt, Int.toNat_of_nonneg h0]
  · rw [← hzero] at hfind ⊢
    simp [Memory.ttl, Freecache.ttl, hfind]

/-- A key saved for a minute into a new `Memory` reports a TTL of 60 ns; saving it again
    with that TTL, as `Multi`'s read-repair does, leaves it one second to live. -/
theorem memory_ttl_in_nanoseconds :
    Memory.ttl ((newMemory 0).save 0 "k" [1] (60 * second)).2 0 "k" = (60, none) ∧
      Memory.ttl (Memory.save ((newMemory 0).save 0 "k" [1] (60 * second)).2 0 "k" [1] 60).2
        0 "k" = (1, none) := by
  constructor <;> rfl

/-! ### `Save`, then `Load` and `TTL` at a later clock reading -/

/-- `now + uint32(s)` on the store's clock wraps modulo `2^32`. -/
theorem uint32_toNat_add_ofNat (a : UInt32) (n : Nat) :
    (a + UInt32.ofNat n).toNat = (a.toNat + n) % 2 ^ 32 := by
  show (a.toBitVec + BitVec.ofNat 32 n).toNat = _
  rw [BitVec.toNat_add, BitVec.toNat_ofNat, Nat.add_mod_mod]
  rfl

/-- `isExpired` on the clock's `uint32` seconds, as natural numbers. -/
theorem isExpired_iff (expireAt now : UInt32) :
    isExpired expireAt now = true ↔ expireAt.toNat ≠ 0 ∧ expireAt.toNat ≤ now.toNat := by
  rw [isExpired, Bool.and_eq_true, bne_iff_ne, ne_eq, uint32_eq_zero_iff, decide_eq_true_eq,
    UInt32.le_def, BitVec.le_def]
  rfl

namespace Memory

variable {cache : Memory} {now : UInt32} {key : String} {e : Entry}

/-- `Load` of a key whose entry is `e`: its value while it is live, `ErrNotFound` after. -/
theorem load_of_find (h : cache.client.find key = some e) :
    cache.load now key = if isExpired e.expireAt now then ([], some .errNotFound) else (e.value, none) := by
  cases hx : isExpired e.expireAt now <;>
    simp [load, Freecache.get, Freecache.lookup, h, hx, Option.filter, errorsIs_self]

/-- `TTL` of a key whose entry is `e`: `NoExpire` for an entry that never expires, the
    store's seconds left while `now ≤ expireAt` (0, that is `NoExpire`, at the second it
    expires), -1 after. -/
theorem ttl_of_find (h : cache.client.find key = some e) :
    cache.ttl now key = if e.expireAt = 0 then (noExpire, none)
      else if now ≤ e.expireAt then ((e.expireAt - now).toNat, none) else (-1, none) := by
  by_cases h0 : e.expireAt = 0
  · simp [ttl, Freecache.ttl, h, h0, noExpire]
  · by_cases hle : now ≤ e.expireAt <;> simp [ttl, Freecache.ttl, h, h0, hle, errorsIs_self]

/-- A `Save` of `expire ≥ 0` that the store accepts stores the key with the `expireAt`
    the store computes from `expireSecondsOf expire`. -/
theorem find_save {value : Bytes} {expire : Duration} (hexp : 0 ≤ expire)
    (hok : (cache.save now key value expire).1 = none) :
    (cache.save now key value expire).2.client.find key = some ⟨key, value,
      if expireSecondsOf expire > 0 then now + UInt32.ofNat (expireSecondsOf expire).toNat else 0⟩ := by
  have hsave : cache.save now key value expire =
      ((cache.client.set now key value (expireSecondsOf expire)).1,
        { cache with client := (cache.client.set now key value (expireSecondsOf expire)).2 }) := by
    simp [Memory.save, not_lt.mpr hexp]
  rw [hsave] at hok ⊢
  exact Freecache.set_find (by rw [← hok])

/-- A `Save` the store refuses leaves the cache as it was. -/
theorem save_of_refused {value : Bytes} {expire : Duration} (h : (cache.save now key value expire).1 ≠ none) :
    (cache.save now key value expire).2 = cache := by
  unfold save at *
  split_ifs at * with hneg
  · exact absurd rfl h
  · unfold Freecache.set at *
    split_ifs at * <;> first | rfl | exact absurd rfl h

/-- A `Save` of `key` leaves the entry of every other key as it was. -/
theorem find_save_of_ne {value : Bytes} {expire : Duration} {k : String} (hk : key ≠ k) :
    (cache.save now key value expire).2.client.find k = cache.client.find k := by
  unfold save
  split_ifs
  · exact (Freecache.find_del _ _ _).trans (if_neg hk)
  · exact Freecache.find_set_of_ne _ _ _ _ hk

end Memory

/-- **`Load` and `TTL` after `Save`, at any later clock reading.** After a `Save(key,
    value, expire)` at `now` that returns nil, with no other call on the key, `Load` and
    `TTL` at `now'` return: for a negative `expire`, `ErrNotFound` and -1; for `NoExpire`,
    the value and `NoExpire`; for a positive `expire`, whose `s = expireSecondsOf expire`
    seconds the store adds to its `uint32` clock, modulo `2^32`, to `expireAt`: the value
    and `NoExpire` when that sum wraps to 0; otherwise `Load` returns the value while
    `now' < expireAt` and `ErrNotFound` from `expireAt` on, and `TTL` returns
    `expireAt - now'` (seconds, as a `time.Duration`) while `now' ≤ expireAt`, so
    `NoExpire` at the second `expireAt` itself, and -1 after. When `now + s` wraps past
    `2^32` to a nonzero `expireAt ≤ now`, the key is lost as soon as it is saved. -/
theorem memory_save_then_read (cache : Memory) (now now' : UInt32) (key : String) (value : Bytes)
    (expire : Duration) (hok : (cache.save now key value expire).1 = none) :
    let cache' := (cache.save now key value expire).2
    let expireAt := (now.toNat + (expireSecondsOf expire).toNat) % 2 ^ 32
    (expire < 0 → cache'.load now' key = ([], some .errNotFound) ∧ cache'.ttl now' key = (-1, none)) ∧
    (expire = 0 → cache'.load now' key = (value, none) ∧ cache'.ttl now' key = (noExpire, none)) ∧
    (0 < expire →
      (expireAt = 0 → cache'.load now' key = (value, none) ∧ cache'.ttl now' key = (noExpire, none)) ∧
      (expireAt ≠ 0 → now'.toNat < expireAt → cache'.load now' key = (value, none)) ∧
      (expireAt ≠ 0 → expireAt ≤ now'.toNat → cache'.load now' key = ([], some .errNotFound)) ∧
      (expireAt ≠ 0 → now'.toNat ≤ expireAt →
        cache'.ttl now' key = ((expireAt : Int) - now'.toNat, none)) ∧
      (expireAt ≠ 0 → expireAt < now'.toNat → cache'.ttl now' key = (-1, none))) := by
  intro cache' expireAt
  refine ⟨fun hneg => ?_, fun hzero => ?_, fun hpos => ?_⟩
  · have hfind : cache'.client.find key = none := by
      simp [cache', Memory.save, hneg, Freecache.find_del]
    simp [Memory.load, Memory.ttl, Freecache.get, Freecache.lookup, Freecache.ttl, hfind, errorsIs_self]
  · subst hzero
    have hfind := Memory.find_save le_rfl hok
    rw [show expireSecondsOf 0 = 0 by decide, if_neg (lt_irrefl 0)] at hfind
    rw [Memory.load_of_find hfind, Memory.ttl_of_find hfind]
    simp [isExpired]
  · have hfind := Memory.find_save hpos.le hok
    rw [if_pos (expireSecondsOf_pos hpos)] at hfind
    have hA : (now + UInt32.ofNat (expireSecondsOf expire).toNat).toNat = expireAt :=
      uint32_toNat_add_ofNat _ _
    generalize now + UInt32.ofNat (expireSecondsOf expire).toNat = A at hfind hA
    have hx := isExpired_iff A now'
    have hle_iff : now' ≤ A ↔ now'.toNat ≤ expireAt := by
      rw [UInt32.le_def, BitVec.le_def, ← hA]; rfl
    rw [hA] at hx
    rw [Memory.load_of_find hfind, Memory.ttl_of_find hfind]
    have hA0 : expireAt ≠ 0 → A ≠ 0 := fun h0 h => h0 (hA ▸ (uint32_eq_zero_iff A).mp h)
    refine ⟨fun h0 => ?_, fun h0 hlt => ?_, fun h0 hle => ?_, fun h0 hle => ?_, fun h0 hlt => ?_⟩
    · have hA0 : A = 0 := (uint32_eq_zero_iff A).mpr (hA.trans h0)
      simp [hA0, isExpired]
    · have hlive : isExpired A now' = false := by simpa [h0, Nat.not_le.mpr hlt] using hx
      simp [hlive]
    · simp [hx.mpr ⟨h0, hle⟩]
    · have hle' := hle_iff.mpr hle
      simp only [hA0 h0, hle', if_true, if_false, UInt32.toNat_sub_of_le _ _ hle', hA, Prod.mk.injEq,
        and_true]
      show ((expireAt - now'.toNat : Nat) : Int) = (expireAt : Int) - now'.toNat
      omega
    · simp [hA0 h0, hle_iff, Nat.not_le.mpr hlt]

/-- A key saved for a hundred years (365-day years) at the Unix second 1700000000 is lost
    at once: the store's `uint32` clock wraps to an `expireAt` in 1987, and `Load` right
    after the `Save` returns `ErrNotFound`. -/
theorem memory_century_expire_lost :
    ((newMemory 0).save 1700000000 "k" [1] (3153600000 * second)).1 = none ∧
      ((newMemory 0).save 1700000000 "k" [1] (3153600000 * second)).2.load 1700000000 "k" =
        ([], some .errNotFound) := by
  have hok : ((newMemory 0).save 1700000000 "k" [1] (3153600000 * second)).1 = none := rfl
  exact ⟨hok, ((memory_save_then_read _ _ 1700000000 _ _ _ hok).2.2 (by decide)).2.2.1
    (by decide) (by decide)⟩

end Xcache
