import Xcache.Multi.MemoryTiers
import Xcache.Redis.Cache

namespace Xcache

/-!
# xcache — `Multi` over `Memory` and Redis backends keeps its tiers coherent

The two-level cache of the package's examples is `NewMulti(memory, redis)`. Here every
backend of a `Multi` is a `Memory` or a `Redis6`/`Redis7` cache, each call runs at any
clock reading, and a Redis command may fail on the network, a write having run in full
or not at all. What the backends hold is the content of the abstract tiers of
`Xcache.Multi.Coherence`; every call of a backend ends in a way the abstract backend's
call may end; and evictions, `onConfigChange` and the Redis server's expiry and eviction
of keys only drop keys. So every run of such a `Multi` is a run of the abstract tiers,
and is coherent.

* `overNetwork`, `RedisDB.netCmds` — a Redis server behind a network;
* `Tier`, `tiersView` — a backend and what it holds, live or expired;
* `tierCache`, `mixedMulti` — backend `i` as a `Cache`, and the `Multi` of backends
  `0 … n-1`;
* `tierCache_sim` — backend `i` simulates abstract backend `i` (`Xcache.Multi.Sim`);
* `MixedRunStep.runStep`, `mixed_tiers_coherent` — every run over the backends is a run
  of the abstract tiers, and is coherent.

The keys must change only through the `Multi`: another client of the Redis server, or a
reload of a Redis cache onto another server, is outside the model.
-/

open ND

/-! ### A Redis server behind a network -/

/-- A command sent over the network to a server that runs it as `x t infos`, at the clock
    reading `t` and with the `INFO` replies `infos`: its reply arrives, or the caller gets
    a reply that `failed` accepts, the command having run or not. -/
def overNetwork {α : Type} (x : Int → RedisInfos → StateM RedisDB α) (failed : α → Prop) :
    ND RedisDB α :=
  fun db a db' => ∃ t infos, (x t infos).run db = (a, db') ∨
    (failed a ∧ (db' = db ∨ db' = ((x t infos).run db).2))

/-- The commands of a Redis cache over the network, each at any clock reading: the reply
    of `RedisDB.cmds`, or an error with go-redis's zero value. -/
def RedisDB.netCmds : RedisCmds (ND RedisDB) where
  set key value expiration :=
    overNetwork (fun t infos => (RedisDB.cmds t infos).set key value expiration) fun err => err.isSome
  del key := overNetwork (fun t infos => (RedisDB.cmds t infos).del key) fun err => err.isSome
  get key := overNetwork (fun t infos => (RedisDB.cmds t infos).get key) fun r => r.1 = [] ∧ r.2.isSome
  ttl key := overNetwork (fun t infos => (RedisDB.cmds t infos).ttl key) fun r => r.1 = 0 ∧ r.2.isSome
  info := overNetwork (fun t infos => (RedisDB.cmds t infos).info) fun r => r.1 = [] ∧ r.2.isSome
  clusterStats keyPrefixes := overNetwork (fun t infos => (RedisDB.cmds t infos).clusterStats keyPrefixes)
    fun r => r.1 = {} ∧ r.2.isSome

/-- What a Redis keyspace holds of each key, live or expired. -/
def RedisDB.view (db : RedisDB) (key : String) : Option Bytes := (db key).map RedisEntry.value

namespace RedisDB

theorem view_set (db : RedisDB) (t : Int) (key : String) (value : Bytes) (arg : SetArg) :
    (db.set t key value arg).view = Function.update db.view key (some value) := by
  funext k
  rcases eq_or_ne k key with rfl | hk <;> cases arg <;> simp [set, view, *]

theorem view_del (db : RedisDB) (key : String) :
    (db.del key).view = Function.update db.view key none := by
  funext k
  rcases eq_or_ne k key with rfl | hk <;> simp [del, view, *]

/-- A command that only reads leaves the keyspace as it was, whatever the network does. -/
theorem overNetwork_read {α : Type} {x : Int → RedisInfos → StateM RedisDB α} {failed : α → Prop}
    {db db' : RedisDB} {a : α} (h : overNetwork x failed db a db')
    (hx : ∀ t infos db, ((x t infos).run db).2 = db) : db' = db := by
  obtain ⟨t, infos, h | ⟨-, h | h⟩⟩ := h
  · rw [← hx t infos db, h]
  · exact h
  · rw [h, hx]

/-- A write over the network has run in full, or, with an error, not at all. -/
theorem overNetwork_write {x : Int → RedisInfos → StateM RedisDB (Option GoError)}
    {f : Int → RedisDB → RedisDB} {db db' : RedisDB} {err : Option GoError}
    (h : overNetwork x (fun err => err.isSome) db err db')
    (hx : ∀ t infos db, (x t infos).run db = (none, f t db)) :
    (∃ t, db' = f t db) ∨ (err.isSome ∧ db' = db) := by
  obtain ⟨t, infos, h | ⟨herr, h | h⟩⟩ := h
  · rw [hx] at h
    exact .inl ⟨t, (Prod.mk.inj h).2.symm⟩
  · exact .inr ⟨herr, h⟩
  · exact .inl ⟨t, by rw [h, hx]⟩

theorem cmds_get_run (t : Int) (infos : RedisInfos) (db : RedisDB) (key : String) :
    ((RedisDB.cmds t infos).get key).run db =
      ((match db.lookup t key with
        | some e => (e.value, none)
        | none => ([], some redisNil)), db) := rfl

theorem view_of_lookup {db : RedisDB} {t : Int} {key : String} {e : RedisEntry}
    (h : db.lookup t key = some e) : db.view key = some e.value := by
  unfold lookup at h
  cases hk : db key <;> simp_all [view, Option.filter]

end RedisDB

namespace Redis

variable {key : String} {db db' : RedisDB}

theorem save_net {value : Bytes} {expire : Duration} {err : Option GoError}
    (h : Redis.save RedisDB.netCmds key value expire db err db') :
    SaveEffect key value expire db.view err db'.view := by
  unfold Redis.save at h
  split_ifs at h with hneg
  · rcases RedisDB.overNetwork_write h fun _ _ _ => rfl with ⟨-, rfl⟩ | ⟨herr, rfl⟩
    · exact .inl (by rw [RedisDB.view_del, if_pos hneg])
    · exact .inr ⟨herr, rfl⟩
  · rcases RedisDB.overNetwork_write h fun _ _ _ => rfl with ⟨t, rfl⟩ | ⟨herr, rfl⟩
    · exact .inl (by rw [RedisDB.view_set, if_neg hneg])
    · exact .inr ⟨herr, rfl⟩

theorem load_net {r : Bytes × Option GoError} (h : Redis.load RedisDB.netCmds key db r db') :
    LoadEffect key db.view r db'.view := by
  obtain ⟨⟨value, err⟩, db₁, hget, hr⟩ := h
  dsimp only [RedisDB.netCmds] at hget
  obtain rfl := RedisDB.overNetwork_read hget fun _ _ _ => rfl
  cases err with
  | some e =>
    refine ⟨?_, fun hn => ?_⟩ <;> simp only at hr <;> split_ifs at hr <;> simp_all
  | none =>
    obtain ⟨rfl, rfl⟩ := hr
    refine ⟨rfl, fun _ => ?_⟩
    obtain ⟨t, infos, hget | ⟨⟨-, hsome⟩, -⟩⟩ := hget
    · rw [RedisDB.cmds_get_run, Prod.mk.injEq] at hget
      split at hget
      next e he => exact (Prod.mk.inj hget.1).1 ▸ RedisDB.view_of_lookup he
      next => simp at hget
    · simp at hsome

theorem ttl_net {r : Duration × Option GoError} (h : Redis.ttl RedisDB.netCmds key db r db') :
    db' = db := by
  obtain ⟨⟨ttl, err⟩, db₁, httl, hr⟩ := h
  dsimp only [RedisDB.netCmds] at httl
  obtain rfl := RedisDB.overNetwork_read httl fun _ _ _ => rfl
  dsimp only at hr
  split_ifs at hr <;> exact hr.2

theorem stats_net {cache : Redis} {r : Stats × Option GoError}
    (h : Redis.stats RedisDB.netCmds cache db r db') : db' = db := by
  unfold Redis.stats at h
  split_ifs at h
  · dsimp only [RedisDB.netCmds] at h
    exact RedisDB.overNetwork_read h fun _ _ _ => rfl
  · obtain ⟨⟨info, err⟩, db₁, hinfo, hr⟩ := h
    dsimp only [RedisDB.netCmds] at hinfo
    obtain rfl := RedisDB.overNetwork_read hinfo fun _ _ _ => rfl
    cases err <;> exact hr.2

end Redis

/-! ### Mixed backends -/

/-- A backend of the `Multi`: a `Memory` cache, or a Redis cache with the fields `cache`
    and its server's keyspace. -/
inductive Tier where
  | memory (cache : Memory)
  | redis (cache : Redis) (db : RedisDB)

/-- What a backend holds of each key, live or expired. -/
def Tier.view : Tier → String → Option Bytes
  | .memory cache => cache.view
  | .redis _ db => db.view

/-- Backends `0, 1, …` as abstract stores. -/
def tiersView (ts : Nat → Tier) : Stores := fun i => (ts i).view

theorem tiersView_update (ts : Nat → Tier) (i : Nat) (t : Tier) :
    tiersView (Function.update ts i t) = Function.update (tiersView ts) i t.view := by
  funext j
  rcases eq_or_ne j i with rfl | hj <;> simp [tiersView, *]

/-- A call of backend `i`: `onMemory` on a `Memory` cache, `onRedis` with the fields of a
    Redis cache on its server's keyspace. -/
def Tier.call {α : Type} (i : Nat) (onMemory : ND Memory α) (onRedis : Redis → ND RedisDB α) :
    ND (Nat → Tier) α := fun ts a ts' =>
  match ts i with
  | .memory cache => ∃ cache', onMemory cache a cache' ∧ ts' = Function.update ts i (.memory cache')
  | .redis c db => ∃ db', onRedis c db a db' ∧ ts' = Function.update ts i (.redis c db')

/-- Backend `i` as a `Cache`: the methods of `Memory`, or those of `Redis6` and `Redis7`
    over the network. -/
def tierCache (i : Nat) : Cache (ND (Nat → Tier)) where
  save key value expire := Tier.call i (memoryCall fun now _ cache => cache.save now key value expire)
    fun _ => Redis.save RedisDB.netCmds key value expire
  load key := Tier.call i (memoryCall fun now _ cache => (cache.load now key, cache))
    fun _ => Redis.load RedisDB.netCmds key
  ttl key := Tier.call i (memoryCall fun now _ cache => (cache.ttl now key, cache))
    fun _ => Redis.ttl RedisDB.netCmds key
  stats := Tier.call i (memoryCall fun _ counters cache => (cache.stats counters, cache))
    fun cache => Redis.stats RedisDB.netCmds cache

/-- The `Multi` of backends `0 … n-1`. -/
def mixedMulti (n : Nat) : Multi (ND (Nat → Tier)) := ⟨(List.range n).map tierCache⟩

/-- A call of backend `i` changes what backend `i` holds, as its kind's call does, and
    nothing else. -/
theorem Tier.call_view {α : Type} {i : Nat} {onMemory : ND Memory α} {onRedis : Redis → ND RedisDB α}
    {P : (String → Option Bytes) → α → (String → Option Bytes) → Prop}
    {ts ts' : Nat → Tier} {a : α} (h : Tier.call i onMemory onRedis ts a ts')
    (hm : ∀ cache a cache', onMemory cache a cache' → P cache.view a cache'.view)
    (hr : ∀ c db a db', onRedis c db a db' → P db.view a db'.view) :
    ∃ v', P (tiersView ts i) a v' ∧ tiersView ts' = Function.update (tiersView ts) i v' := by
  unfold Tier.call at h
  split at h
  next cache hi =>
    obtain ⟨cache', hc, rfl⟩ := h
    exact ⟨cache'.view, by simpa [tiersView, Tier.view, hi] using hm _ _ _ hc, tiersView_update ..⟩
  next c db hi =>
    obtain ⟨db', hc, rfl⟩ := h
    exact ⟨db'.view, by simpa [tiersView, Tier.view, hi] using hr _ _ _ _ hc, tiersView_update ..⟩

/-! ### Each backend simulates an abstract backend -/

/-- **Backend `i` simulates abstract backend `i`.** A `Save` writes the key in backend
    `i` or, failing, changes nothing; a `Load` that hits returns what backend `i` holds;
    `TTL` and `Stats` change nothing: whether the backend is a `Memory` or a Redis cache,
    and whatever the network does. -/
theorem tierCache_sim (i : Nat) : CacheSim tiersView (tierCache i) (kvCache i) where
  save _ _ _ _ _ _ h := kvSave_of_effect (Tier.call_view h (fun _ _ _ => Memory.save_call)
    fun _ _ _ _ => Redis.save_net)
  load _ _ _ _ h := kvLoad_of_effect (Tier.call_view h (fun _ _ _ => Memory.load_call)
    fun _ _ _ _ => Redis.load_net)
  ttl _ _ r _ h := kvRead_of_effect (a := r) (Tier.call_view (P := fun v _ v' => v' = v) h
    (fun _ _ _ h => congrArg Memory.view (Memory.read_call h))
    fun _ _ _ _ h => congrArg RedisDB.view (Redis.ttl_net h))
  stats _ r _ h := kvRead_of_effect (a := r) (Tier.call_view (P := fun v _ v' => v' = v) h
    (fun _ _ _ h => congrArg Memory.view (Memory.read_call h))
    fun _ _ _ _ h => congrArg RedisDB.view (Redis.stats_net h))

theorem mixedMulti_sim (n : Nat) :
    List.Forall₂ (CacheSim tiersView) (mixedMulti n).caches (kvMulti n).caches :=
  List.forall₂_map_left_iff.mpr <| List.forall₂_map_right_iff.mpr <|
    List.forall₂_same.mpr fun i _ => tierCache_sim i

/-! ### Runs -/

/-- One step of a run of `Multi` over backends `0 … n-1`, with the ghost `latest` of
    `RunStep`: a call of `Multi` whose `Save`s return nil; a `Memory` store evicting an
    entry; `onConfigChange` resizing a `Memory` backend; or a Redis server deleting a key,
    expired or evicted. -/
inductive MixedRunStep (n : Nat) :
    (String → Option Bytes) × (Nat → Tier) → (String → Option Bytes) × (Nat → Tier) → Prop
  | save {latest : String → Option Bytes} {ts ts' : Nat → Tier} (key : String) (value : Bytes)
      (expire : Duration) (h : (mixedMulti n).save key value expire ts none ts') :
      MixedRunStep n (latest, ts) (Function.update latest key (if expire < 0 then none else some value), ts')
  | load {latest : String → Option Bytes} {ts ts' : Nat → Tier} (key : String) (r : Bytes × Option GoError)
      (h : (mixedMulti n).load key ts r ts') : MixedRunStep n (latest, ts) (latest, ts')
  | ttl {latest : String → Option Bytes} {ts ts' : Nat → Tier} (key : String) (r : Duration × Option GoError)
      (h : (mixedMulti n).ttl key ts r ts') : MixedRunStep n (latest, ts) (latest, ts')
  | stats {latest : String → Option Bytes} {ts ts' : Nat → Tier} (r : Stats × Option GoError)
      (h : (mixedMulti n).stats ts r ts') : MixedRunStep n (latest, ts) (latest, ts')
  | evict {latest : String → Option Bytes} {ts : Nat → Tier} (i : Nat) (cache : Memory) (key : String)
      (h : ts i = .memory cache) :
      MixedRunStep n (latest, ts)
        (latest, Function.update ts i (.memory { cache with client := cache.client.evict key }))
  | reconfigure {latest : String → Option Bytes} {ts : Nat → Tier} (i : Nat) (cache : Memory) (now : UInt32)
      (config : Config) (changedKeys : List String) (h : ts i = .memory cache) :
      MixedRunStep n (latest, ts)
        (latest, Function.update ts i (.memory (cache.onConfigChange now config changedKeys)))
  | expire {latest : String → Option Bytes} {ts : Nat → Tier} (i : Nat) (cache : Redis) (db : RedisDB)
      (key : String) (h : ts i = .redis cache db) :
      MixedRunStep n (latest, ts) (latest, Function.update ts i (.redis cache (db.del key)))

/-- Replacing backend `i` by one holding less drops keys. -/
theorem drops_tier {ts : Nat → Tier} {i : Nat} {t₀ t : Tier} (hi : ts i = t₀)
    (h : ∀ k v, t.view k = some v → t₀.view k = some v) :
    Drops (tiersView ts) (tiersView (Function.update ts i t)) := by
  intro j k v hv
  rw [tiersView_update] at hv
  rcases eq_or_ne j i with rfl | hne
  · simpa [tiersView, hi] using h k v (by simpa using hv)
  · simpa [Function.update_noteq hne] using hv

/-- Each step over the backends is a step of the abstract tiers, on the view. -/
theorem MixedRunStep.runStep {n : Nat} {s s' : (String → Option Bytes) × (Nat → Tier)}
    (hs : MixedRunStep n s s') : RunStep n (s.1, tiersView s.2) (s'.1, tiersView s'.2) := by
  cases hs with
  | save key value expire h =>
    exact .save key value expire (Multi.save_sim (mixedMulti_sim n) key value expire _ _ _ h)
  | load key r h => exact .load key r (Multi.load_sim (mixedMulti_sim n) key _ _ _ h)
  | ttl key r h => exact .ttl key r (Multi.ttl_sim (mixedMulti_sim n) key _ _ _ h)
  | stats r h => exact .stats r (Multi.stats_sim (mixedMulti_sim n) _ _ _ h)
  | evict i cache key h => exact .drop (drops_tier h fun _ _ => Memory.view_evict)
  | reconfigure i cache now config changedKeys h =>
    exact .drop (drops_tier h fun _ _ => Memory.view_onConfigChange)
  | expire i cache db key h =>
    refine .drop (drops_tier h fun k v hv => ?_)
    change (db.del key).view k = some v at hv
    rw [RedisDB.view_del, Function.update_apply] at hv
    split_ifs at hv
    exact hv

/-- **The tiers of `Memory` and Redis backends stay coherent.** Take backends `0 … n-1`,
    each a `Memory` or a Redis cache, that agree on every key they hold, and any run of
    `Multi.Save`, `Multi.Load`, `Multi.TTL` and `Multi.Stats` calls, each backend call at
    any clock reading and each Redis command free to fail on the network, with `Memory`
    stores evicting entries, `onConfigChange` resizing them and Redis servers deleting
    keys anywhere, in which every `Multi.Save` returns nil. At every point, whatever a
    backend holds of a key, live or expired, is the value of the last `Save` of it with a
    non-negative expiry after its last delete (the initial values counting as `Save`s); and
    a `Multi.Load` that returns a value with a nil error returns that value. -/
theorem mixed_tiers_coherent (n : Nat) (ts₀ : Nat → Tier) (hagree : Agree n (tiersView ts₀))
    (latest : String → Option Bytes) (ts : Nat → Tier)
    (hrun : Relation.ReflTransGen (MixedRunStep n) (initialLatest n (tiersView ts₀), ts₀) (latest, ts)) :
    (∀ i < n, ∀ key v, (ts i).view key = some v → latest key = some v) ∧
      ∀ key r ts', (mixedMulti n).load key ts r ts' → r.2 = none → latest key = some r.1 := by
  have hc : Coherent n latest (tiersView ts) :=
    run_coherent hagree (hrun.lift (fun s => (s.1, tiersView s.2)) fun _ _ hs => hs.runStep)
  exact ⟨hc, fun key r ts' h => (load_coherent key _ _ _ hc (Multi.load_sim (mixedMulti_sim n) key _ _ _ h)).2⟩

/-- A new `Memory` in front of a Redis cache on an empty server, and one `Multi.Save`
    returning nil: both hold the value, and a `Multi.Load` that hits returns it. -/
theorem mixed_tiers_coherent_after_save :
    let ts₀ : Nat → Tier := fun i => if i = 0 then .memory (newMemory 0)
      else .redis (Redis.newRedis 9 ⟨["localhost:6379"], 0, ""⟩ 0) fun _ => none
    ∃ ts : Nat → Tier,
      Relation.ReflTransGen (MixedRunStep 2) (initialLatest 2 (tiersView ts₀), ts₀)
        (Function.update (initialLatest 2 (tiersView ts₀)) "k" (some [1]), ts) ∧
      (ts 0).view "k" = some [1] ∧ (ts 1).view "k" = some [1] ∧
      ∀ key r ts', (mixedMulti 2).load key ts r ts' → r.2 = none →
        Function.update (initialLatest 2 (tiersView ts₀)) "k" (some [1]) key = some r.1 := by
  intro ts₀
  have hsave : (mixedMulti 2).save "k" [1] 0 ts₀ none
      (Function.update (Function.update ts₀ 0 (.memory ((newMemory 0).save 0 "k" [1] 0).2)) 1
        (.redis (Redis.newRedis 9 ⟨["localhost:6379"], 0, ""⟩ 0) (RedisDB.set (fun _ => none) 0 "k" [1] .none))) :=
    ⟨MultiError.nil, _, ⟨MultiError.nil, _, ⟨none, _, ⟨_, ⟨0, ⟨0, 0, 0, 0, 0⟩, rfl⟩, rfl⟩, rfl, rfl⟩,
      MultiError.nil, _, ⟨none, _, ⟨_, ⟨0, ⟨[], [], []⟩, .inl rfl⟩, rfl⟩, rfl, rfl⟩, rfl, rfl⟩, rfl, rfl⟩
  have hagree : Agree 2 (tiersView ts₀) := by
    intro i _ j _ k v u hv
    rcases Nat.eq_zero_or_pos i with rfl | hi
    · cases hv
    · simp [ts₀, tiersView, Tier.view, RedisDB.view, Nat.pos_iff_ne_zero.mp hi] at hv
  have hrun : Relation.ReflTransGen (MixedRunStep 2) (initialLatest 2 (tiersView ts₀), ts₀)
      (Function.update (initialLatest 2 (tiersView ts₀)) "k" (some [1]), _) :=
    .single (MixedRunStep.save "k" [1] 0 hsave)
  exact ⟨_, hrun, rfl, rfl, (mixed_tiers_coherent 2 ts₀ hagree _ _ hrun).2⟩

end Xcache
