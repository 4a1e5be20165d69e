import Xcache.Redis.Reload
import Xcache.Redis.ClusterStats

namespace Xcache

/-!
# xcache — `Redis6` and `Redis7` as caches

`Redis6` (go-redis v8) and `Redis7` (go-redis v9) implement the `Cache` methods with the
same code: `Save` sends `DEL` for a negative expiration and `SET` otherwise, `Load` sends
`GET` and turns `redis.Nil` into `ErrNotFound`, `TTL` sends `TTL` and turns its special
replies into the package's conventions, and `Stats` parses `INFO`, or sums the nodes of
a cluster with `getClusterStats`.

* `SetArg`, `setArg` — the expiry argument go-redis's `Set` sends for a duration;
* `RedisEntry`, `RedisDB` — a Redis keyspace: each key's value and the millisecond it
  expires at, with `SET`, `DEL`, `GET` and `TTL` at the server's clock;
* `RedisCmds` — the commands the cache sends, as actions of a monad;
* `Redis.save`, `Redis.load`, `Redis.ttl`, `Redis.stats` — the cache's methods over any
  `RedisCmds`;
* `RedisDB.cmds` — a server that answers every command;
* `redis_save_then_read` — what `Load` and `TTL` return after a `Save`, at every later
  clock reading.

The Redis server and go-redis are not code of the package: the model keeps of them what
the cache's methods read (`keyIsExpired`, the rounding of `TTL`, go-redis's `usePrecise`,
`formatMs`, `formatSec` and `DurationCmd`).
-/

/-- `time.Millisecond`. -/
def millisecond : Duration := 1000000

/-- `redis.Nil`, the error of a `GET` on a missing key (`redis6.Nil`, `redis7.Nil`). -/
def redisNil : GoError := .sentinel "redis.Nil"

/-- `redisTTLNoExpire`: the `TTL` of a key with no expiry. -/
def redisTTLNoExpire : Duration := -1

/-! ### go-redis's `Set` -/

/-- The expiry argument of a `SET` command. -/
inductive SetArg where
  | none
  | px (ms : Int)
  | ex (s : Int)
  | keepTTL
  deriving DecidableEq, Repr

/-- What go-redis's `Set(ctx, key, value, expiration)` sends: `PX formatMs(expiration)`
    when `usePrecise(expiration)` (under a second, or not a whole number of seconds),
    `EX formatSec(expiration)` otherwise; `KEEPTTL` for `KeepTTL` (-1); nothing for every
    other `expiration ≤ 0`. `formatMs` and `formatSec` raise a positive duration under
    their unit to 1. -/
def setArg (expiration : Duration) : SetArg :=
  if expiration > 0 then
    if expiration < second ∨ expiration % second ≠ 0 then
      .px (if expiration < millisecond then 1 else expiration / millisecond)
    else .ex (if expiration < second then 1 else expiration / second)
  else if expiration = -1 then .keepTTL
  else .none

/-! ### The Redis keyspace -/

/-- What Redis holds of a key: its value and the Unix millisecond it expires at, if any. -/
structure RedisEntry where
  value : Bytes
  expireAt : Option Int
  deriving DecidableEq, Repr

/-- A Redis keyspace: one node's, or a cluster's slots together. -/
abbrev RedisDB := String → Option RedisEntry

namespace RedisDB

/-- A key is live until the clock is past its expiry (`keyIsExpired`: `now > when`). -/
def live (nowMs : Int) (e : RedisEntry) : Bool :=
  match e.expireAt with
  | none => true
  | some t => decide (nowMs ≤ t)

/-- The entry of `key` a command sees at `nowMs`: stored and live. -/
def lookup (db : RedisDB) (nowMs : Int) (key : String) : Option RedisEntry :=
  (db key).filter (live nowMs)

/-- `SET key value [PX ms | EX s | KEEPTTL]` at `nowMs`. A plain `SET` drops the key's
    expiry; `KEEPTTL` keeps the expiry of the live key. -/
def set (db : RedisDB) (nowMs : Int) (key : String) (value : Bytes) : SetArg → RedisDB
  | .none => Function.update db key (some ⟨value, none⟩)
  | .px ms => Function.update db key (some ⟨value, some (nowMs + ms)⟩)
  | .ex s => Function.update db key (some ⟨value, some (nowMs + s * 1000)⟩)
  | .keepTTL => Function.update db key (some ⟨value, (db.lookup nowMs key).bind RedisEntry.expireAt⟩)

/-- `DEL key`. -/
def del (db : RedisDB) (key : String) : RedisDB := Function.update db key none

/-- The reply of `TTL key`: -2 for a missing key, -1 for a key with no expiry, otherwise
    the milliseconds left rounded to the nearest second (`(ttl+500)/1000`). -/
def ttlReply (db : RedisDB) (nowMs : Int) (key : String) : Int :=
  match db.lookup nowMs key with
  | none => -2
  | some ⟨_, none⟩ => -1
  | some ⟨_, some t⟩ => (t - nowMs + 500) / 1000

end RedisDB

/-- go-redis's `DurationCmd` for `TTL`: the replies -2 and -1 as they are, any other
    reply a count of seconds. -/
def ttlDuration (n : Int) : Duration := if n = -2 ∨ n = -1 then n else n * second

/-! ### The cache's methods -/

/-- The commands the cache sends on its `client`, as actions of a monad `m`, each with
    what the cache reads of its reply: `Set(...).Err()`, `Del(...).Err()`,
    `Get(...).Bytes()`, `TTL(...).Result()` and `Info(ctx).Bytes()`; and
    `getClusterStats` with the cache's key prefixes (`Xcache.Redis.ClusterStats`). -/
structure RedisCmds (m : Type → Type) where
  set : String → Bytes → Duration → m (Option GoError)
  del : String → m (Option GoError)
  get : String → m (Bytes × Option GoError)
  ttl : String → m (Duration × Option GoError)
  info : m (Bytes × Option GoError)
  clusterStats : List String → m (Stats × Option GoError)

namespace Redis

variable {m : Type → Type} [Monad m]

/-- `Save`: a negative `expire` deletes the key. -/
def save (c : RedisCmds m) (key : String) (value : Bytes) (expire : Duration) : m (Option GoError) :=
  if expire < 0 then c.del key else c.set key value expire

/-- `Load`: `redis.Nil` becomes `ErrNotFound`. -/
def load (c : RedisCmds m) (key : String) : m (Bytes × Option GoError) := do
  let (value, err) ← c.get key
  match err with
  | some e => if errorsIs e redisNil then pure ([], some .errNotFound) else pure (value, some e)
  | none => pure (value, none)

/-- `TTL`: an error, or a reply of 0, gives -1; `redisTTLNoExpire` gives `NoExpire`;
    any other reply, the -2 of a missing key included, is returned as it is. -/
def ttl (c : RedisCmds m) (key : String) : m (Duration × Option GoError) := do
  let (ttl, err) ← c.ttl key
  if err.isSome ∨ ttl = 0 then pure (-1, err)
  else if ttl = redisTTLNoExpire then pure (noExpire, none)
  else pure (ttl, none)

/-- `Stats`: `getClusterStats` on a cluster; otherwise `INFO`, parsed with the cache's
    `statsInfoKeyPrefixes`, or a zero `Stats` with its error. -/
def stats (c : RedisCmds m) (cache : Redis) : m (Stats × Option GoError) :=
  if cache.isCluster then c.clusterStats cache.statsInfoKeyPrefixes
  else do
    let (info, err) ← c.info
    match err with
    | some e => pure ({}, some e)
    | none => pure (parseInfoStats info cache.statsInfoKeyPrefixes, none)

/-- The cache with the fields `cache`, sending its commands through `c`, as a `Cache`. -/
def toCache (c : RedisCmds m) (cache : Redis) : Cache m where
  save := save c
  load := load c
  ttl := ttl c
  stats := stats c cache

end Redis

/-! ### A server that answers -/

/-- The `INFO` replies of the server: the node's, and, for a cluster, the masters' and
    the replicas'. -/
structure RedisInfos where
  info : Bytes
  masters : List Bytes
  replicas : List Bytes

/-- A server that answers every command at the clock reading `nowMs`. `getClusterStats`
    returns the node-by-node sum, which is what every interleaving of its goroutines
    returns when every node answers (`clusterStats_order_independent`). -/
def RedisDB.cmds (nowMs : Int) (infos : RedisInfos) : RedisCmds (StateM RedisDB) where
  set key value expiration := modifyGet fun db => (none, db.set nowMs key value (setArg expiration))
  del key := modifyGet fun db => (none, db.del key)
  get key := do
    let db ← get
    pure (match db.lookup nowMs key with
      | some e => (e.value, none)
      | none => ([], some redisNil))
  ttl key := do
    let db ← get
    pure (ttlDuration (db.ttlReply nowMs key), none)
  info := pure (infos.info, none)
  clusterStats keyPrefixes := pure (clusterSum keyPrefixes infos.masters infos.replicas, none)

/-! ### Save, then read -/

/-- For a positive duration, go-redis asks the key to live `max 1 (expire / 1ms)`
    milliseconds, with `PX`, or with `EX` when that is a whole number of seconds. -/
theorem setArg_pos {expire : Int} (h : 0 < expire) :
    setArg expire = .px (max 1 (expire / millisecond)) ∨
      (setArg expire = .ex (expire / second) ∧ expire / second * 1000 = max 1 (expire / millisecond)) := by
  simp only [setArg, second, millisecond, if_pos h, duration_lt_iff, duration_eq_iff, ne_eq]
  split_ifs with hpx hms hs
  · exact .inl (congrArg SetArg.px (by omega))
  · exact .inl (congrArg SetArg.px (by omega))
  · omega
  · exact .inr ⟨rfl, by omega⟩

/-- `DurationCmd` maps 0 and -1, and only them, to 0 and -1 nanoseconds. -/
theorem ttlDuration_eq_zero_iff (n : Int) : ttlDuration n = 0 ↔ n = 0 := by
  simp only [ttlDuration, second, duration_eq_iff]; split_ifs <;> omega

theorem ttlDuration_eq_neg_one_iff (n : Int) : ttlDuration n = -1 ↔ n = -1 := by
  simp only [ttlDuration, second, duration_eq_iff]; split_ifs <;> omega

/-- What `TTL` makes of a reply of whole seconds left: -1 for 0, the seconds otherwise. -/
theorem ttl_of_seconds {n : Int} (h : 0 ≤ n) :
    (if n = 0 then ((-1 : Duration), (none : Option GoError))
      else if n = -1 then (noExpire, none) else (ttlDuration n, none)) =
      if n = 0 then (-1, none) else (n * second, none) := by
  simp only [ttlDuration]
  split_ifs <;> first | rfl | omega

namespace RedisDB

variable (db : RedisDB) (infos : RedisInfos) (t : Int) (key : String)

/-- A `SET` for a positive duration stores the key to expire `max 1 (expire / 1ms)`
    milliseconds from now. -/
theorem set_setArg_pos (value : Bytes) {expire : Duration} (h : 0 < expire) :
    RedisDB.set db t key value (setArg expire) =
      Function.update db key (some ⟨value, some (t + max 1 (expire / millisecond))⟩) := by
  rcases setArg_pos h with hpx | ⟨hex, hms⟩
  · rw [hpx, set]
  · rw [hex, set, hms]

theorem lookup_update_self (e : Option RedisEntry) (nowMs : Int) :
    RedisDB.lookup (Function.update db key e) nowMs key = e.filter (live nowMs) := by
  simp [lookup]

theorem save_cmds (value : Bytes) (expire : Duration) :
    (Redis.save (RedisDB.cmds t infos) key value expire).run db =
      (none, if expire < 0 then db.del key else db.set t key value (setArg expire)) := by
  unfold Redis.save
  split_ifs <;> rfl

theorem load_cmds :
    (Redis.load (RedisDB.cmds t infos) key).run db =
      ((match db.lookup t key with
        | some e => (e.value, none)
        | none => ([], some .errNotFound)), db) := by
  cases h : db.lookup t key <;> simp [Redis.load, RedisDB.cmds, h, redisNil]

theorem ttl_cmds :
    (Redis.ttl (RedisDB.cmds t infos) key).run db =
      ((if db.ttlReply t key = 0 then (-1, none)
        else if db.ttlReply t key = -1 then (noExpire, none)
        else (ttlDuration (db.ttlReply t key), none)), db) := by
  simp only [Redis.ttl, cmds, bind_pure_comp, redisTTLNoExpire, bind_map_left, Option.isSome_none,
    Bool.false_eq_true, ttlDuration_eq_zero_iff, false_or, ttlDuration_eq_neg_one_iff,
    StateT.run_bind, StateT.run_get, Id.pure_eq, Id.bind_eq]
  split_ifs <;> rfl

end RedisDB

/-- **`Load` and `TTL` after `Save`, at any clock reading.** After `Save(key, value,
    expire)` on a Redis server at `tSave`, with no other command on the key, `Load` and
    `TTL` at `tRead` return: for a negative `expire`, `ErrNotFound` and -2; for
    `NoExpire`, the value and `NoExpire`; for a positive `expire`, which keeps the key
    `L = max 1 (expire / 1ms)` milliseconds, the value and the time left rounded to the
    nearest second while `tRead ≤ tSave + L` — but -1, as for a missing key, in the last
    half second — and `ErrNotFound` and -2 once the clock is past. -/
theorem redis_save_then_read (db : RedisDB) (infos : RedisInfos) (tSave tRead : Int) (key : String)
    (value : Bytes) (expire : Duration) :
    let db' := ((Redis.save (RedisDB.cmds tSave infos) key value expire).run db).2
    let load := ((Redis.load (RedisDB.cmds tRead infos) key).run db').1
    let ttl := ((Redis.ttl (RedisDB.cmds tRead infos) key).run db').1
    (expire < 0 → load = ([], some .errNotFound) ∧ ttl = (-2, none)) ∧
    (expire = 0 → load = (value, none) ∧ ttl = (noExpire, none)) ∧
    (0 < expire →
      (tRead ≤ tSave + max 1 (expire / millisecond) →
        load = (value, none) ∧
        ttl = if (tSave + max 1 (expire / millisecond) - tRead + 500) / 1000 = 0 then (-1, none)
          else ((tSave + max 1 (expire / millisecond) - tRead + 500) / 1000 * second, none)) ∧
      (tSave + max 1 (expire / millisecond) < tRead →
        load = ([], some .errNotFound) ∧ ttl = (-2, none))) := by
  simp only [RedisDB.save_cmds, RedisDB.load_cmds, RedisDB.ttl_cmds]
  refine ⟨fun hneg => ?_, fun hzero => ?_, fun hpos => ⟨fun hlive => ?_, fun hdead => ?_⟩⟩
  · simp only [RedisDB.del, if_pos hneg, RedisDB.lookup_update_self, Option.filter_none,
      RedisDB.ttlReply, neg_eq_zero, OfNat.ofNat_ne_zero, ↓reduceIte, neg_inj, OfNat.ofNat_ne_one,
      ttlDuration, or_false, and_self]
  · subst hzero
    simp only [lt_self_iff_false, ↓reduceIte, RedisDB.set, setArg, gt_iff_lt, zero_eq_neg,
      one_ne_zero, RedisDB.lookup_update_self, Option.filter_some, RedisDB.live, RedisDB.ttlReply,
      neg_eq_zero, noExpire, and_self]
  · have hset := RedisDB.set_setArg_pos db tSave key value hpos
    simp only [hset, if_neg (not_lt.mpr hpos.le), RedisDB.lookup_update_self, Option.filter_some,
      RedisDB.live, hlive, decide_True, ↓reduceIte, RedisDB.ttlReply, true_and]
    exact ttl_of_seconds (Int.ediv_nonneg (by omega) (by decide))
  · have hset := RedisDB.set_setArg_pos db tSave key value hpos
    simp only [hset, if_neg (not_lt.mpr hpos.le), RedisDB.lookup_update_self, Option.filter_some,
      RedisDB.live, not_le.mpr hdead, decide_False, Bool.false_eq_true, ↓reduceIte,
      RedisDB.ttlReply, neg_eq_zero, OfNat.ofNat_ne_zero, neg_inj, OfNat.ofNat_ne_one, ttlDuration,
      or_false, and_self]

/-- A key saved for 1.5 s is still loaded 1.2 s later, while `TTL` already reports -1. -/
theorem redis_ttl_last_half_second :
    let db' := ((Redis.save (RedisDB.cmds 0 ⟨[], [], []⟩) "k" [1] (1500 * millisecond)).run
      fun _ => none).2
    ((Redis.load (RedisDB.cmds 1200 ⟨[], [], []⟩) "k").run db').1 = ([1], none) ∧
      ((Redis.ttl (RedisDB.cmds 1200 ⟨[], [], []⟩) "k").run db').1 = (-1, none) := by
  obtain ⟨hload, httl⟩ := ((redis_save_then_read (fun _ => none) ⟨[], [], []⟩ 0 1200 "k" [1]
    (1500 * millisecond)).2.2 (by decide)).1 (by decide)
  exact ⟨hload, httl.trans (if_pos (by decide))⟩
end Xcache
