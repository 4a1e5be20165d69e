import Xcache.Multi.MemoryTiers
import Xcache.Redis.Cache

namespace Xcache

/-!
# xcache — read-repair: how long the front keeps a key it copied

When `Multi.Load` misses the first cache and hits a later one, it saves the value into
the caches before it with the TTL the hitting cache reports. What that TTL means decides
how long the copy lives.

`ExampleMulti` puts a `Memory` in front of a `Redis6` or `Redis7`. Redis reports the
milliseconds left rounded to the nearest second, and the front stores whole seconds on
its own `uint32` clock: the front serves the key for the rounded seconds, and drops it at
most half a second after the back does. Between two `Memory` caches, `TTL` reports the
seconds left as nanoseconds, so the copy lives only until the second it is made; and at
the second the entry expires `TTL` reports 0, which is `NoExpire`, so a copy made with it
never expires.

* `onBack` — a computation on the Redis keyspace, run on the pair of stores;
* `frontTier`, `backTier`, `frontBack` — the two caches and their `Multi`, at the
  store's second `now` and the server's millisecond `nowMs`;
* `Redis.ttl_run_of_lookup` — `TTL` of a live key: `NoExpire`, or its rounded seconds,
  -1 in the last half second;
* `Memory.load_save_*` — `Load` at a later second after a `Save` into a store that did
  not hold the key live, for each kind of TTL the back can report;
* `frontBack_save_run`, `frontBack_load_front_hit`, `frontBack_load_repair`,
  `frontBack_load_miss`, `memoryMulti_load_repair` — `Save`, and `Load` on a front hit,
  on a front miss and a back hit, and on two misses, in closed form;
* `frontBack_repair_lifetime` — what the `Memory` in front of Redis serves afterwards,
  at every later second;
* `frontBack_save_then_load` — `Save`, then `Load` at any later clock readings: the
  value while either copy lives;
* `Memory.load_save_ttl`, `memoryMulti_repair_lifetime` — the same between two `Memory`
  caches, each call at its own clock reading.
-/

/-! ### The two stores -/

/-- A computation on the Redis keyspace, run on the pair of stores. -/
def onBack {α : Type} (x : StateM RedisDB α) : StateM (Memory × RedisDB) α :=
  modifyGet fun s =>
    let r := x.run s.2
    (r.1, (s.1, r.2))

@[simp] theorem onBack_run {α : Type} (x : StateM RedisDB α) (s : Memory × RedisDB) :
    (onBack x).run s = ((x.run s.2).1, (s.1, (x.run s.2).2)) := rfl

/-- The front `Memory`, at the store's second `now`; `Stats` with the counters
    `counters`. -/
def frontTier (now : UInt32) (counters : Freecache.Counters) : Cache (StateM (Memory × RedisDB)) where
  save key value expire := modifyGet fun s =>
    let r := s.1.save now key value expire
    (r.1, (r.2, s.2))
  load key := modifyGet fun s => (s.1.load now key, s)
  ttl key := modifyGet fun s => (s.1.ttl now key, s)
  stats := modifyGet fun s => (s.1.stats counters, s)

/-- The back `Redis6` or `Redis7` with the fields `cache`, on a server at `nowMs`. -/
def backTier (nowMs : Int) (infos : RedisInfos) (cache : Redis) : Cache (StateM (Memory × RedisDB)) where
  save key value expire := onBack (Redis.save (RedisDB.cmds nowMs infos) key value expire)
  load key := onBack (Redis.load (RedisDB.cmds nowMs infos) key)
  ttl key := onBack (Redis.ttl (RedisDB.cmds nowMs infos) key)
  stats := onBack (Redis.stats (RedisDB.cmds nowMs infos) cache)

/-- `NewMulti(frontCache, backCache)` of `ExampleMulti`. -/
def frontBack (now : UInt32) (counters : Freecache.Counters) (nowMs : Int) (infos : RedisInfos)
    (cache : Redis) : Multi (StateM (Memory × RedisDB)) :=
  ⟨[frontTier now counters, backTier nowMs infos cache]⟩

section Runs

variable {now : UInt32} {counters : Freecache.Counters} {nowMs : Int} {infos : RedisInfos}
  {cache : Redis} {key : String} {s : Memory × RedisDB}

@[simp] theorem frontTier_save_run (value : Bytes) (expire : Duration) :
    ((frontTier now counters).save key value expire).run s =
      ((s.1.save now key value expire).1, ((s.1.save now key value expire).2, s.2)) := rfl

@[simp] theorem frontTier_load_run : ((frontTier now counters).load key).run s = (s.1.load now key, s) := rfl

@[simp] theorem backTier_save_run (value : Bytes) (expire : Duration) :
    ((backTier nowMs infos cache).save key value expire).run s =
      (((Redis.save (RedisDB.cmds nowMs infos) key value expire).run s.2).1,
        (s.1, ((Redis.save (RedisDB.cmds nowMs infos) key value expire).run s.2).2)) := rfl

@[simp] theorem backTier_load_run :
    ((backTier nowMs infos cache).load key).run s =
      (((Redis.load (RedisDB.cmds nowMs infos) key).run s.2).1,
        (s.1, ((Redis.load (RedisDB.cmds nowMs infos) key).run s.2).2)) := rfl

@[simp] theorem backTier_ttl_run :
    ((backTier nowMs infos cache).ttl key).run s =
      (((Redis.ttl (RedisDB.cmds nowMs infos) key).run s.2).1,
        (s.1, ((Redis.ttl (RedisDB.cmds nowMs infos) key).run s.2).2)) := rfl

end Runs

/-! ### `TTL` of a live Redis key -/

section Back

variable {db : RedisDB} {nowMs : Int} {key : String} {e : RedisEntry}

theorem RedisDB.live_of_lookup (h : db.lookup nowMs key = some e) : RedisDB.live nowMs e = true :=
  (Option.filter_eq_some.mp h).2

/-- `TTL` of a key the server holds: `NoExpire` for a key with no expiry, otherwise the
    milliseconds left rounded to seconds, and -1 when that rounds to 0. It never fails
    and leaves the keyspace as it was. -/
theorem Redis.ttl_run_of_lookup (infos : RedisInfos) (h : db.lookup nowMs key = some e) :
    (Redis.ttl (RedisDB.cmds nowMs infos) key).run db =
      ((match e.expireAt with
        | none => noExpire
        | some t => if (t - nowMs + 500) / 1000 = 0 then -1 else (t - nowMs + 500) / 1000 * second,
        none), db) := by
  have hlive := RedisDB.live_of_lookup h
  rw [RedisDB.ttl_cmds]
  obtain ⟨value, _ | t⟩ := e
  · simp [RedisDB.ttlReply, h]
  · simp only [RedisDB.live, decide_eq_true_eq] at hlive
    simp only [RedisDB.ttlReply, h]
    split_ifs with h0 h1
    · rfl
    · omega
    · rw [ttlDuration, if_neg (by omega)]

end Back

/-! ### `Save` into a store that did not hold the key -/

namespace Memory

variable {cache : Memory} {now now' : UInt32} {key : String} {value : Bytes}

/-- A key the store does not hold live at `now` is not live at any later second. -/
theorem lookup_eq_none_of_le (h : cache.client.lookup now key = none) (hle : now ≤ now') :
    cache.client.lookup now' key = none := by
  unfold Freecache.lookup at *
  cases hf : cache.client.find key with
  | none => rfl
  | some e =>
    simp only [hf, Option.filter_some, Bool.not_eq_true', ite_eq_right_iff, reduceCtorEq,
      imp_false, Bool.not_eq_false] at h ⊢
    rw [isExpired_iff] at h ⊢
    exact ⟨h.1, le_trans h.2 ((uint32_le_iff _ _).mp hle)⟩

theorem load_of_lookup_none (h : cache.client.lookup now key = none) :
    cache.load now key = ([], some .errNotFound) := by
  simp [load, Freecache.get, h, errorsIs_self]

/-- The store accepts a `Save` of `expire ≥ 0` whose key and entry fit. -/
theorem save_accepted {expire : Duration} (hexp : 0 ≤ expire) (hkey : key.utf8ByteSize ≤ 65535)
    (hentry : key.utf8ByteSize + value.length ≤ cache.client.maxKeyValLen) :
    (cache.save now key value expire).1 = none := by
  simp [save, Freecache.set, not_lt.mpr hexp, not_lt.mpr hkey, not_lt.mpr hentry]

/-- A negative `expire` deletes the key. -/
theorem load_save_neg {expire : Duration} (hneg : expire < 0) :
    (cache.save now key value expire).2.load now' key = ([], some .errNotFound) := by
  simp [save, hneg, load, Freecache.get, Freecache.lookup, Freecache.find_del, errorsIs_self]

/-- A `Save` the store refuses leaves a key it did not hold live unserved. -/
theorem load_save_refused {expire : Duration} (hmiss : cache.client.lookup now key = none)
    (hle : now ≤ now') (h : (cache.save now key value expire).1 ≠ none) :
    (cache.save now key value expire).2.load now' key = ([], some .errNotFound) := by
  rw [save_of_refused h, load_of_lookup_none (lookup_eq_none_of_le hmiss hle)]

/-- After a `Save` with `NoExpire` the store took, the key is served at every second. -/
theorem load_save_noExpire (hok : (cache.save now key value noExpire).1 = none) :
    (cache.save now key value noExpire).2.load now' key = (value, none) := by
  rw [load_of_find (find_save (show (0 : Duration) ≤ noExpire from le_rfl) hok),
    show expireSecondsOf noExpire = 0 by decide]
  simp [isExpired]

/-- After a `Save` of a positive `expire` the store took, whose `q` seconds are short
    enough for `now + q` not to wrap, the key is served until the store's clock reaches
    `now + q`. -/
theorem load_save_seconds {expire : Duration} {q : Int} (hexp : 0 < expire)
    (hsec : expireSecondsOf expire = q) (hwrap : now.toNat + q < 2 ^ 32)
    (hok : (cache.save now key value expire).1 = none) :
    (cache.save now key value expire).2.load now' key =
      if (now'.toNat : Int) < now.toNat + q then (value, none) else ([], some .errNotFound) := by
  have hq : 0 < q := hsec ▸ expireSecondsOf_pos hexp
  have hfind := find_save hexp.le hok
  rw [hsec, if_pos hq] at hfind
  have hA := uint32_toNat_add_ofNat now q.toNat
  rw [Nat.mod_eq_of_lt (by omega)] at hA
  have hx := isExpired_iff (now + UInt32.ofNat q.toNat) now'
  rw [hA] at hx
  rw [load_of_find hfind]
  by_cases hlt : (now'.toNat : Int) < now.toNat + q
  · have : isExpired (now + UInt32.ofNat q.toNat) now' = false := by
      rw [Bool.eq_false_iff, Ne, hx]; omega
    simp [this, hlt]
  · have : isExpired (now + UInt32.ofNat q.toNat) now' = true := by rw [hx]; omega
    simp [this, hlt]

/-- After a `Save` of a positive `expire` into a store that did not hold the key live,
    whose `q` seconds do not wrap the clock, the key is served at a later second only
    before `now + q`; and exactly then when the store takes the entry. -/
theorem load_save_pos (value : Bytes) {expire : Duration} {q : Int}
    (hmiss : cache.client.lookup now key = none) (hle : now ≤ now') (hexp : 0 < expire)
    (hsec : expireSecondsOf expire = q) (hwrap : now.toNat + q < 2 ^ 32) :
    (((cache.save now key value expire).2.load now' key).2 = none → (now'.toNat : Int) < now.toNat + q) ∧
    (key.utf8ByteSize ≤ 65535 → key.utf8ByteSize + value.length ≤ cache.client.maxKeyValLen →
      (cache.save now key value expire).2.load now' key =
        if (now'.toNat : Int) < now.toNat + q then (value, none) else ([], some .errNotFound)) := by
  by_cases hok : (cache.save now key value expire).1 = none
  · rw [load_save_seconds hexp hsec hwrap hok]
    refine ⟨fun h => ?_, fun _ _ => rfl⟩
    split_ifs at h with hlt
    exact hlt
  · rw [load_save_refused hmiss hle hok]
    exact ⟨fun h => absurd h (by simp), fun hkey hentry => absurd (save_accepted hexp.le hkey hentry) hok⟩

end Memory

/-! ### Read-repair -/

section Repair

variable {mem : Memory} {db : RedisDB} {now : UInt32} {nowMs : Int} {key : String} {e : RedisEntry}
  (counters : Freecache.Counters) (infos : RedisInfos) (cache : Redis)

/-- A hit in the front is returned as it is, and the back is not called. -/
theorem frontBack_load_front_hit {value : Bytes} (hhit : mem.load now key = (value, none)) :
    ((frontBack now counters nowMs infos cache).load key).run (mem, db) = ((value, none), (mem, db)) := by
  simp [frontBack, Multi.load, Multi.loadFrom, hhit]

/-- **Read-repair, in closed form.** When the front misses and the back holds the key
    live, `Load` returns the back's value, leaves the back as it was, and saves the value
    into the front with the TTL the back reports. -/
theorem frontBack_load_repair (hmiss : mem.load now key = ([], some .errNotFound))
    (hhit : db.lookup nowMs key = some e) :
    ((frontBack now counters nowMs infos cache).load key).run (mem, db) =
      ((e.value, none),
        ((mem.save now key e.value ((Redis.ttl (RedisDB.cmds nowMs infos) key).run db).1.1).2, db)) := by
  obtain ⟨d, httl⟩ : ∃ d, (Redis.ttl (RedisDB.cmds nowMs infos) key).run db = ((d, none), db) := by
    rw [RedisDB.ttl_cmds]; split_ifs <;> exact ⟨_, rfl⟩
  simp [frontBack, Multi.load, Multi.loadFrom, hmiss, RedisDB.load_cmds, hhit, httl]

/-- A key neither cache holds live is `ErrNotFound`, and nothing changes. -/
theorem frontBack_load_miss (hmiss : mem.load now key = ([], some .errNotFound))
    (hdb : db.lookup nowMs key = none) :
    ((frontBack now counters nowMs infos cache).load key).run (mem, db) =
      (([], some .errNotFound), (mem, db)) := by
  simp [frontBack, Multi.load, Multi.loadFrom, hmiss, RedisDB.load_cmds, hdb, MultiError.errOrNil]

/-- `Save` saves into the front, then into the back, and returns the front's error: the
    server's never fails. -/
theorem frontBack_save_run (value : Bytes) (expire : Duration) :
    ((frontBack now counters nowMs infos cache).save key value expire).run (mem, db) =
      ((MultiError.nil.add (mem.save now key value expire).1).errOrNil,
        ((mem.save now key value expire).2,
          if expire < 0 then db.del key else db.set nowMs key value (setArg expire))) := by
  simp [frontBack, Multi.save, Multi.saveStep, RedisDB.save_cmds]

end Repair

/-- **A read-repaired key leaves the front at most half a second after the back.** When
    `Load` misses the front and hits the back, it returns the back's value and leaves the
    back as it was. If the front's store takes the entry, it then serves the back's
    value: for ever, for a key with no expiry; for a key the back drops after the
    millisecond `t`, exactly while the front's clock is under `now` plus the back's TTL
    rounded to seconds. Whether the store takes it or not, with the front's clock not
    ahead of the back's and `t` before the `uint32` seconds wrap, the front serves the
    key at no second that ends more than half a second after `t`. -/
theorem frontBack_repair_lifetime (mem : Memory) (db : RedisDB) (now : UInt32)
    (counters : Freecache.Counters) (nowMs : Int) (infos : RedisInfos) (cache : Redis) (key : String)
    (e : RedisEntry) (hmiss : mem.client.lookup now key = none) (hhit : db.lookup nowMs key = some e) :
    let r := ((frontBack now counters nowMs infos cache).load key).run (mem, db)
    let fits := key.utf8ByteSize ≤ 65535 ∧ key.utf8ByteSize + e.value.length ≤ mem.client.maxKeyValLen
    r.1 = (e.value, none) ∧ r.2.2 = db ∧ ∀ now' : UInt32, now ≤ now' →
      (e.expireAt = none → fits → r.2.1.load now' key = (e.value, none)) ∧
      ∀ t, e.expireAt = some t → (now.toNat : Int) * 1000 ≤ nowMs → t + 500 < 2 ^ 32 * 1000 →
        ((r.2.1.load now' key).2 = none → ((now'.toNat : Int) + 1) * 1000 ≤ t + 500) ∧
        (fits → r.2.1.load now' key =
          if (now'.toNat : Int) < now.toNat + (t - nowMs + 500) / 1000 then (e.value, none)
          else ([], some .errNotFound)) := by
  intro r fits
  have hr : r = _ := frontBack_load_repair counters infos cache (Memory.load_of_lookup_none hmiss) hhit
  rw [Redis.ttl_run_of_lookup infos hhit] at hr
  refine ⟨by rw [hr], by rw [hr], fun now' hle => ⟨fun hnone hfits => ?_, fun t ht hclock hwrap => ?_⟩⟩
  · rw [hr]
    simp only [hnone]
    exact Memory.load_save_noExpire (Memory.save_accepted le_rfl hfits.1 hfits.2)
  · have hlive : nowMs ≤ t := by simpa [RedisDB.live, ht] using RedisDB.live_of_lookup hhit
    have hle' := (uint32_le_iff _ _).mp hle
    rw [hr]
    simp only [ht]
    generalize hq : (t - nowMs + 500) / 1000 = q
    have hq1 : q * 1000 ≤ t - nowMs + 500 := by omega
    rcases (show 0 ≤ q by omega).eq_or_lt with rfl | hpos
    · rw [if_pos rfl, Memory.load_save_neg (by decide)]
      simp only [reduceCtorEq, false_implies, true_and]
      exact fun _ => (if_neg (by omega)).symm
    · rw [if_neg hpos.ne']
      obtain ⟨hsafe, hexact⟩ := Memory.load_save_pos e.value hmiss hle
        (show (0 : Duration) < q * second by show (0 : Int) < q * 1000000000; omega)
        (expireSecondsOf_mul_second hpos (by omega)) (by omega)
      exact ⟨fun h => by have := hsafe h; omega, fun hfits => hexact hfits.1 hfits.2⟩

/-- A key Redis keeps until the millisecond 600500, loaded at 0 through an empty front,
    is served by the front through its second 600, which ends half a second after Redis
    dropped the key, and not at 601. -/
theorem frontBack_repair_outlives_by_half_second :
    let db : RedisDB := fun k => if k = "k" then some ⟨[1], some 600500⟩ else none
    let r := ((frontBack 0 ⟨0, 0, 0, 0, 0⟩ 0 ⟨[], [], []⟩
      (Redis.newRedis 9 ⟨["127.0.0.1:6379"], 0, ""⟩ 0)).load "k").run (newMemory 0, db)
    r.1 = ([1], none) ∧ r.2.1.load 600 "k" = ([1], none) ∧
      r.2.1.load 601 "k" = ([], some .errNotFound) := by
  intro db r
  have h := frontBack_repair_lifetime (newMemory 0) db 0 ⟨0, 0, 0, 0, 0⟩ 0 ⟨[], [], []⟩
    (Redis.newRedis 9 ⟨["127.0.0.1:6379"], 0, ""⟩ 0) "k" ⟨[1], some 600500⟩ rfl (by decide)
  have hfits : "k".utf8ByteSize ≤ 65535 ∧ "k".utf8ByteSize + [(1 : UInt8)].length ≤
      (newMemory 0).client.maxKeyValLen := by decide
  refine ⟨h.1, ?_, ?_⟩
  · rw [((h.2.2 600 (by decide)).2 600500 rfl (by decide) (by decide)).2 hfits, if_pos (by decide)]
  · rw [((h.2.2 601 (by decide)).2 600500 rfl (by decide) (by decide)).2 hfits, if_neg (by decide)]


/-- **`Save`, then `Load`, through `NewMulti(memory, redis)`.** After a `Save(key, value,
    expire)` at `now` and `nowMs` that returns nil, with no other call on the key, `Load`
    at any clock readings `now'` and `nowMs'` returns: `ErrNotFound` for a negative
    `expire`; the value for `NoExpire`; and for a positive `expire`, whose seconds do not
    wrap the front's clock, the value exactly while one of the two copies lives — the
    front's until its clock reaches `now` plus the seconds it stored, the back's until the
    server's clock passes `nowMs` plus `max 1 (expire / 1ms)` milliseconds — reading it
    back from Redis once the front has dropped it, and `ErrNotFound` after. -/
theorem frontBack_save_then_load (mem : Memory) (db : RedisDB) (now now' : UInt32)
    (counters : Freecache.Counters) (nowMs nowMs' : Int) (infos : RedisInfos) (cache : Redis)
    (key : String) (value : Bytes) (expire : Duration) :
    let saved := ((frontBack now counters nowMs infos cache).save key value expire).run (mem, db)
    let r := ((frontBack now' counters nowMs' infos cache).load key).run saved.2
    saved.1 = none →
      (expire < 0 → r.1 = ([], some .errNotFound)) ∧
      (expire = 0 → r.1 = (value, none)) ∧
      (0 < expire → now.toNat + expireSecondsOf expire < 2 ^ 32 →
        r.1 = if (now'.toNat : Int) < now.toNat + expireSecondsOf expire ∨
            nowMs' ≤ nowMs + max 1 (expire / millisecond) then (value, none)
          else ([], some .errNotFound)) := by
  intro saved r hok
  have hs : saved = _ := frontBack_save_run counters infos cache value expire
  have hmem : (mem.save now key value expire).1 = none := by
    rw [hs] at hok
    cases h : (mem.save now key value expire).1 <;> simp_all [MultiError.errOrNil]
  simp only [r, hs]
  refine ⟨fun hneg => ?_, fun hzero => ?_, fun hpos hwrap => ?_⟩
  · rw [if_pos hneg, frontBack_load_miss counters infos cache (Memory.load_save_neg hneg)
      (by simp [RedisDB.del, RedisDB.lookup_update_self])]
  · subst hzero
    have hfront : (mem.save now key value 0).2.load now' key = (value, none) :=
      Memory.load_save_noExpire hmem
    rw [frontBack_load_front_hit counters infos cache hfront]
  · rw [if_neg (not_lt.mpr hpos.le), RedisDB.set_setArg_pos db nowMs key value hpos]
    generalize nowMs + max 1 (expire / millisecond) = T
    have hfront : (mem.save now key value expire).2.load now' key =
        if (now'.toNat : Int) < now.toNat + expireSecondsOf expire then (value, none)
        else ([], some .errNotFound) :=
      Memory.load_save_seconds hpos rfl hwrap hmem
    have hback : RedisDB.lookup (Function.update db key (some ⟨value, some T⟩)) nowMs' key =
        if nowMs' ≤ T then some ⟨value, some T⟩ else none := by
      rw [RedisDB.lookup_update_self]
      split_ifs <;> simp [RedisDB.live, *]
    by_cases hlive : (now'.toNat : Int) < now.toNat + expireSecondsOf expire
    · rw [if_pos hlive] at hfront
      rw [frontBack_load_front_hit counters infos cache hfront, if_pos (.inl hlive)]
    · rw [if_neg hlive] at hfront
      by_cases hb : nowMs' ≤ T
      · rw [if_pos hb] at hback
        rw [frontBack_load_repair counters infos cache hfront hback, if_pos (.inr hb)]
      · rw [if_neg hb] at hback
        rw [frontBack_load_miss counters infos cache hfront hback, if_neg (by tauto)]

/-- A value saved for 2.5 s at 0 through an empty `NewMulti(memory, redis)` is read back
    from Redis at 2.4 s, after the front dropped it at its second 2, and is gone at 3 s. -/
theorem frontBack_save_read_back_from_redis :
    let cache := Redis.newRedis 9 ⟨["127.0.0.1:6379"], 0, ""⟩ 0
    let saved := ((frontBack 0 ⟨0, 0, 0, 0, 0⟩ 0 ⟨[], [], []⟩ cache).save "k" [1] (2500 * millisecond)).run
      (newMemory 0, fun _ => none)
    saved.1 = none ∧
      (((frontBack 2 ⟨0, 0, 0, 0, 0⟩ 2400 ⟨[], [], []⟩ cache).load "k").run saved.2).1 = ([1], none) ∧
      (((frontBack 3 ⟨0, 0, 0, 0, 0⟩ 3000 ⟨[], [], []⟩ cache).load "k").run saved.2).1 =
        ([], some .errNotFound) := by
  intro cache saved
  have hok : saved.1 = none := rfl
  refine ⟨hok, ?_, ?_⟩
  · rw [((frontBack_save_then_load (newMemory 0) (fun _ => none) 0 2 ⟨0, 0, 0, 0, 0⟩ 0 2400 ⟨[], [], []⟩
      cache "k" [1] (2500 * millisecond) hok).2.2 (by decide) (by decide)), if_pos (.inr (by decide))]
  · rw [((frontBack_save_then_load (newMemory 0) (fun _ => none) 0 3 ⟨0, 0, 0, 0, 0⟩ 0 3000 ⟨[], [], []⟩
      cache "k" [1] (2500 * millisecond) hok).2.2 (by decide) (by decide)), if_neg (by decide)]

/-! ### Read-repair between two `Memory` caches -/

namespace Memory

variable {cache : Memory} {now : UInt32} {key : String} {e : Entry}

/-- A `Load` hits a live entry or misses with `ErrNotFound`. -/
theorem load_cases (cache : Memory) (now : UInt32) (key : String) :
    (∃ e, cache.client.lookup now key = some e ∧ cache.load now key = (e.value, none)) ∨
      (cache.client.lookup now key = none ∧ cache.load now key = ([], some .errNotFound)) := by
  cases h : cache.client.lookup now key <;> simp [load, Freecache.get, h, errorsIs_self]

/-- `TTL` never fails: a missing key gives -1 with a nil error. -/
@[simp] theorem ttl_snd (cache : Memory) (now : UInt32) (key : String) : (cache.ttl now key).2 = none := by
  have h : (cache.client.ttl now key).2 = none ∨ (cache.client.ttl now key).2 = some freecacheErrNotFound := by
    unfold Freecache.ttl; split <;> (try split_ifs) <;> simp
  unfold ttl; split <;> simp_all [errorsIs_self]

theorem load_of_lookup_some (h : cache.client.lookup now key = some e) :
    cache.load now key = (e.value, none) := by
  simp [load, Freecache.get, h]

end Memory

/-- What a `Memory` cache serves after saving a value with the `TTL` another one reports
    of its entry `e` at `now₂`: nothing once `e` has expired; the value at every second
    when `e` never expires, or when `TTL` is read at the second `e` expires (the store
    reports 0 seconds then, and 0 is `NoExpire`); and while more than 0 and fewer than
    `10^9` seconds are left, the value up to the second of the `Save` only, since those
    seconds are passed on as nanoseconds. -/
theorem Memory.load_save_ttl {src dst : Memory} {key : String} {e : Entry} {now₂ now₃ now' : UInt32}
    (hfind : src.client.find key = some e) :
    (e.expireAt ≠ 0 → e.expireAt < now₂ →
      (dst.save now₃ key e.value (src.ttl now₂ key).1).2.load now' key = ([], some .errNotFound)) ∧
    ((dst.save now₃ key e.value (src.ttl now₂ key).1).1 = none →
      (e.expireAt = 0 ∨ now₂ = e.expireAt →
        (dst.save now₃ key e.value (src.ttl now₂ key).1).2.load now' key = (e.value, none)) ∧
      (now₂ < e.expireAt → (e.expireAt - now₂).toNat < 1000000000 → now₃.toNat + 1 < 2 ^ 32 →
        (dst.save now₃ key e.value (src.ttl now₂ key).1).2.load now' key =
          if now' ≤ now₃ then (e.value, none) else ([], some .errNotFound))) := by
  rw [Memory.ttl_of_find hfind]
  refine ⟨fun h0 hlt => ?_, fun hok => ⟨fun hfor => ?_, fun hlt hsec hwrap => ?_⟩⟩
  · rw [if_neg h0, if_neg (UInt32.not_le.mpr hlt)]
    exact Memory.load_save_neg (by decide)
  · have hzero : (if e.expireAt = 0 then (noExpire, none) else
        if now₂ ≤ e.expireAt then (((e.expireAt - now₂).toNat : Int), none) else (-1, none)) =
        ((noExpire, none) : Duration × Option GoError) := by
      rcases hfor with h0 | rfl
      · rw [if_pos h0]
      · simp [noExpire]
    rw [hzero] at hok ⊢
    exact Memory.load_save_noExpire hok
  · have hlt' := (uint32_lt_iff _ _).mp hlt
    have hle : now₂ ≤ e.expireAt := (uint32_le_iff _ _).mpr hlt'.le
    rw [if_neg (fun h => by simp [h] at hlt'), if_pos hle] at hok ⊢
    have hpos : (0 : Int) < (e.expireAt - now₂).toNat := by
      rw [UInt32.toNat_sub_of_le _ _ hle]; omega
    rw [Memory.load_save_seconds hpos (expireSecondsOf_of_lt_second hpos (by simpa [second] using hsec))
      (by omega) hok]
    exact if_congr (by rw [uint32_le_iff]; omega) rfl rfl

section MemoryRepair

variable {ms ms' : Nat → Memory} {key : String} {r : Bytes × Option GoError}

/-- **Read-repair between two `Memory` caches, in closed form.** When cache 0 holds no
    entry for the key, a `Load` that returns a value found it live in cache 1 at some
    second `now₁`, and saved it into cache 0 at some second `now₃` with the `TTL` cache 1
    reported at some second `now₂`; cache 1 is left as it was. -/
theorem memoryMulti_load_repair (hmiss : (ms 0).client.find key = none)
    (hload : (memoryMulti 2).load key ms r ms') (hr : r.2 = none) :
    ∃ e now₁ now₂ now₃, (ms 1).client.lookup now₁ key = some e ∧ r = (e.value, none) ∧
      ms' = Function.update ms 0 ((ms 0).save now₃ key e.value ((ms 1).ttl now₂ key).1).2 := by
  obtain ⟨⟨v₀, err₀⟩, s₁, ⟨c₀, ⟨now₀, _, h₀⟩, rfl⟩, hrest⟩ := hload
  have hl₀ : (ms 0).load now₀ key = ([], some .errNotFound) := by
    simp [Memory.load, Freecache.get, Freecache.lookup, hmiss, errorsIs_self]
  simp only [hl₀, Prod.mk.injEq] at h₀
  obtain ⟨⟨rfl, rfl⟩, rfl⟩ := h₀
  simp only [Function.update_eq_self, errorsIs_self, if_true] at hrest
  simp only [List.map_cons, List.map_nil, Multi.loadFrom] at hrest
  obtain ⟨⟨v₁, err₁⟩, s₂, ⟨c₁, ⟨now₁, _, h₁⟩, rfl⟩, hrest⟩ := hrest
  rcases Memory.load_cases (ms 1) now₁ key with ⟨e, hle, hl⟩ | ⟨-, hl⟩ <;>
    simp only [hl, Prod.mk.injEq] at h₁ <;> obtain ⟨⟨rfl, rfl⟩, rfl⟩ := h₁
  · rw [Function.update_eq_self] at hrest
    simp only [zero_add, Nat.zero_lt_one, if_true] at hrest
    obtain ⟨t, s₃, ⟨c₂, ⟨now₂, _, h₂⟩, rfl⟩, hrest⟩ := hrest
    obtain ⟨rfl, rfl⟩ := Prod.mk.inj h₂
    simp only [Function.update_eq_self, Memory.ttl_snd, Option.isNone_none, if_true] at hrest
    have hcaches : (memoryMulti 2).caches = [memoryTier 0, memoryTier 1] := rfl
    simp only [hcaches, List.take, List.reverse_cons, List.reverse_nil, List.nil_append,
      List.forM, ND.bind_apply, ND.pure_apply] at hrest
    obtain ⟨-, _, ⟨-, _, ⟨_, _, ⟨c, ⟨now₃, _, h₃⟩, rfl⟩, -, rfl⟩, -, rfl⟩, rfl, rfl⟩ := hrest
    exact ⟨e, now₁, now₂, now₃, hle, rfl, by rw [show (ms 0).save _ _ _ _ = _ from h₃]⟩
  · simp [errorsIs_self, MultiError.errOrNil, MultiError.nil] at hrest
    simp [hrest.1] at hr

theorem memoryMulti_load_of_repair (hmiss : (ms 0).client.find key = none) {e : Entry}
    {now₁ : UInt32} (now₂ now₃ : UInt32) (hhit : (ms 1).client.lookup now₁ key = some e) :
    (memoryMulti 2).load key ms (e.value, none)
      (Function.update ms 0 ((ms 0).save now₃ key e.value ((ms 1).ttl now₂ key).1).2) := by
  have hl₀ : (ms 0).load now₁ key = ([], some .errNotFound) := by
    simp [Memory.load, Freecache.get, Freecache.lookup, hmiss, errorsIs_self]
  have hcaches : (memoryMulti 2).caches = [memoryTier 0, memoryTier 1] := rfl
  refine ⟨_, ms, ⟨ms 0, ⟨now₁, ⟨0, 0, 0, 0, 0⟩, rfl⟩, (Function.update_eq_self 0 ms).symm⟩, ?_⟩
  simp only [hl₀, errorsIs_self, if_true, hcaches, List.map_cons, List.map_nil, Multi.loadFrom]
  refine ⟨_, ms, ⟨ms 1, ⟨now₁, ⟨0, 0, 0, 0, 0⟩, rfl⟩, (Function.update_eq_self 1 ms).symm⟩, ?_⟩
  simp only [Memory.load_of_lookup_some hhit, zero_add, Nat.zero_lt_one, if_true]
  refine ⟨_, ms, ⟨ms 1, ⟨now₂, ⟨0, 0, 0, 0, 0⟩, rfl⟩, (Function.update_eq_self 1 ms).symm⟩, ?_⟩
  simp only [Memory.ttl_snd, Option.isNone_none, if_true, List.take, List.reverse_cons,
    List.reverse_nil, List.nil_append, List.forM, ND.bind_apply, ND.pure_apply]
  exact ⟨⟨⟩, _, ⟨⟨⟩, _, ⟨_, _, ⟨_, ⟨now₃, ⟨0, 0, 0, 0, 0⟩, rfl⟩, rfl⟩, trivial, rfl⟩, trivial, rfl⟩,
    trivial, rfl⟩

/-- **Read-repair between two `Memory` caches**, `NewMulti(memory0, memory1)`, where
    cache 0 holds no entry for the key. A `Load` that returns a value with a nil error
    found it in an entry `e` live in cache 1 at the second `now₁` of that `Load`, and
    saved it into cache 0 at a second `now₃` with the `TTL` cache 1 reported at a second
    `now₂`, leaving cache 1 as it was; each choice of the three seconds is a run of the
    `Load`. Cache 0 then serves nothing once `e` has expired at `now₂`; serves the value
    at every second when `e` never expires or when `now₂` is the very second `e` expires;
    and, while fewer than `10^9` seconds of `e` are left at `now₂`, serves it up to `now₃`
    only. -/
theorem memoryMulti_repair_lifetime (hmiss : (ms 0).client.find key = none) :
    (∀ r ms', (memoryMulti 2).load key ms r ms' → r.2 = none →
      ∃ e now₁ now₂ now₃, (ms 1).client.lookup now₁ key = some e ∧ r = (e.value, none) ∧
        ms' = Function.update ms 0 ((ms 0).save now₃ key e.value ((ms 1).ttl now₂ key).1).2) ∧
    (∀ e now₁ now₂ now₃, (ms 1).client.lookup now₁ key = some e →
      (memoryMulti 2).load key ms (e.value, none)
        (Function.update ms 0 ((ms 0).save now₃ key e.value ((ms 1).ttl now₂ key).1).2)) ∧
    (∀ e now₂ now₃ now', (ms 1).client.find key = some e →
      (e.expireAt ≠ 0 → e.expireAt < now₂ →
        ((ms 0).save now₃ key e.value ((ms 1).ttl now₂ key).1).2.load now' key =
          ([], some .errNotFound)) ∧
      (((ms 0).save now₃ key e.value ((ms 1).ttl now₂ key).1).1 = none →
        (e.expireAt = 0 ∨ now₂ = e.expireAt →
          ((ms 0).save now₃ key e.value ((ms 1).ttl now₂ key).1).2.load now' key = (e.value, none)) ∧
        (now₂ < e.expireAt → (e.expireAt - now₂).toNat < 1000000000 → now₃.toNat + 1 < 2 ^ 32 →
          ((ms 0).save now₃ key e.value ((ms 1).ttl now₂ key).1).2.load now' key =
            if now' ≤ now₃ then (e.value, none) else ([], some .errNotFound)))) :=
  ⟨fun _ _ hload hr => memoryMulti_load_repair hmiss hload hr,
    fun _ _ now₂ now₃ hhit => memoryMulti_load_of_repair hmiss now₂ now₃ hhit,
    fun _ _ _ _ hfind => Memory.load_save_ttl hfind⟩

/-- A key cache 1 holds for an hour from second 0, read back into an empty cache 0 with
    its `TTL` read at second 3600, the second it expires, is kept by cache 0 forever. -/
theorem memoryMulti_repair_at_expiry_kept_forever :
    let ms := Function.update (fun _ => newMemory 0) 1 ((newMemory 0).save 0 "k" [1] (3600 * second)).2
    let ms' := Function.update ms 0 ((ms 0).save 3600 "k" [1] ((ms 1).ttl 3600 "k").1).2
    (memoryMulti 2).load "k" ms ([1], none) ms' ∧ (ms' 0).load 4000000000 "k" = ([1], none) := by
  intro ms
  have h := @memoryMulti_repair_lifetime ms "k" rfl
  refine ⟨h.2.1 ⟨"k", [1], 3600⟩ 0 3600 3600 rfl, ?_⟩
  rw [Function.update_same]
  exact ((h.2.2 ⟨"k", [1], 3600⟩ 3600 3600 4000000000 rfl).2
    (Memory.save_accepted (by decide) (by decide) (by decide))).1 (.inr rfl)

end MemoryRepair

end Xcache
