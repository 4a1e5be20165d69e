import Xcache.Redis.Info
import Xcache.Memory.Reload

namespace Xcache

/-!
# xcache — reconfiguring `Redis6` and `Redis7`

`NewRedis6WithConfig` and `NewRedis7WithConfig` give the cache a `mu`; `onConfigChange`
(`redis6_xconf_adapter.go`, and its `Redis7` twin) builds a client from the new
configuration, then under `mu.Lock()` sets `client`, `isCluster` and, from the
`isCluster` just written, `statsInfoKeyPrefixes`, and closes the old client after
`mu.Unlock()`. `Close` closes the current client under `RLock`.

* `Redis`, `Redis.lockSection`, `Redis.reloadable` — the fields, the locked section, and
  the cache as a `Reloadable` one; `Redis6` and `Redis7` differ only in the go-redis
  package their clients come from;
* `reconfiguration_one_version` — every call of a `Memory`, `Redis6` or `Redis7` cache,
  in every interleaving with reconfigurations, reads one version of the fields,
  installed whole, and a `Redis` call never a client closed by a reconfiguration until
  the cache's own `Close`;
* `redis_lifecycle_until_close` — until the cache's `Close`, each client is closed at
  most once, and between reconfigurations only the current one is open;
* `redis_close_then_reload` — a `Close` and then a reconfiguration closes a client twice
  and leaves a new one open; two `Close` calls close the same client twice.
-/

/-- `RedisConfig`: the fields the cache reads of it (`Addrs`, `DB`, `MasterName`). -/
structure RedisConfig where
  addrs : List String
  db : Int
  masterName : String
  deriving DecidableEq, Repr

/-- `RedisConfig.IsCluster`. -/
def RedisConfig.isCluster (rc : RedisConfig) : Bool := rc.addrs.length > 1 && rc.masterName == ""

/-- A go-redis `UniversalClient`: its number by creation order, the major version of the
    go-redis package it comes from (8 for `Redis6`, 9 for `Redis7`), and the
    configuration it was built from. -/
structure RedisClient where
  id : Nat
  goRedis : Nat
  config : RedisConfig
  deriving DecidableEq, Repr

/-- The fields of `Redis6` and `Redis7` that `onConfigChange` replaces under `mu`. -/
structure Redis where
  client : RedisClient
  isCluster : Bool
  statsInfoKeyPrefixes : List String
  deriving DecidableEq, Repr

namespace Redis

/-- `NewRedis6(config)` or `NewRedis7(config)`, with client number `n`:
    `isCluster: config.IsCluster()`, then `cache.setStatsKeyPrefixes(config.DB)`. -/
def newRedis (goRedis : Nat) (config : RedisConfig) (n : Nat) : Redis :=
  let cache : Redis := { client := ⟨n, goRedis, config⟩, isCluster := config.isCluster, statsInfoKeyPrefixes := [] }
  { cache with statsInfoKeyPrefixes := setStatsKeyPrefixes cache.isCluster config.db }

/-- The section of `onConfigChange` under `mu.Lock()` for `redisConfig`, with the client
    `n` it built. `setStatsKeyPrefixes` reads the `isCluster` written just before. (A
    notification that changes no `RedisCfgKey*` key returns before `Lock`.) -/
def lockSection (goRedis : Nat) (redisConfig : RedisConfig) (n : Nat) (_ : Redis) : List (Redis → Redis) :=
  [fun cache => { cache with client := ⟨n, goRedis, redisConfig⟩ },
    fun cache => { cache with isCluster := redisConfig.isCluster },
    fun cache => { cache with statsInfoKeyPrefixes := setStatsKeyPrefixes cache.isCluster redisConfig.db }]

/-- One version of the fields: `isCluster` and `statsInfoKeyPrefixes` are those of the
    configuration the client was built from. -/
def Good (cache : Redis) : Prop :=
  cache.isCluster = cache.client.config.isCluster ∧
    cache.statsInfoKeyPrefixes = setStatsKeyPrefixes cache.isCluster cache.client.config.db

/-- The section installs what the constructor builds from the same configuration. -/
theorem applyWrites_lockSection (goRedis : Nat) (redisConfig : RedisConfig) (n : Nat) (s : Redis) :
    applyWrites (lockSection goRedis redisConfig n s) s = newRedis goRedis redisConfig n := rfl

theorem good_newRedis (goRedis : Nat) (config : RedisConfig) (n : Nat) : (newRedis goRedis config n).Good :=
  ⟨rfl, rfl⟩

/-- A `Redis6` or `Redis7` cache built by `NewRedis*WithConfig`, as a `Reloadable` one. -/
def reloadable (goRedis : Nat) : Reloadable Redis RedisConfig where
  clientOf cache := cache.client.id
  lockSection := lockSection goRedis
  closesOld := true
  good := Good
  good_lockSection c n s _ := by rw [applyWrites_lockSection]; exact good_newRedis goRedis c n

/-- `Redis6`, on go-redis v8. -/
def redis6 : Reloadable Redis RedisConfig := reloadable 8

/-- `Redis7`, on go-redis v9. -/
def redis7 : Reloadable Redis RedisConfig := reloadable 9

/-- Every section installs the client it built. -/
theorem clientOf_lockSection (goRedis : Nat) (c : RedisConfig) (n : Nat) (s : Redis) :
    (reloadable goRedis).clientOf (applyWrites ((reloadable goRedis).lockSection c n s) s) = n := rfl

end Redis

open Reload

/-- **Every call reads one version, installed whole.** For a `Memory` cache built by
    `NewMemoryWithConfig` and a `Redis6` or `Redis7` cache built by `NewRedis*WithConfig`,
    in every state of every interleaving of calls with reconfigurations: the versions
    installed are the constructor's and then, each, one whole locked section of
    `onConfigChange` over the one before; and every call under `RLock` has read one of
    them each time, the same one, whose fields agree (a store of `memSize` bytes; the
    `isCluster` and `statsInfoKeyPrefixes` of the configuration the client was built
    from). Until the cache's own `Close`, the client a `Redis` call reads was never
    closed. -/
theorem reconfiguration_one_version :
    (∀ (config : Config) (h : Handle MemoryFields),
      Reachable MemoryFields.reloadable (MemoryFields.newMemoryWithConfig config) h →
      h.installed.head? = some (MemoryFields.newMemoryWithConfig config) ∧
      h.installed.Chain' (Installs MemoryFields.reloadable) ∧
      ∀ t seen, h.pcs t = .reading seen → ∃ v ∈ h.installed, (∀ u ∈ seen, u = v) ∧ v.Good) ∧
    (∀ (goRedis : Nat) (config : RedisConfig) (h : Handle Redis),
      Reachable (Redis.reloadable goRedis) (Redis.newRedis goRedis config 0) h →
      h.installed.head? = some (Redis.newRedis goRedis config 0) ∧
      h.installed.Chain' (Installs (Redis.reloadable goRedis)) ∧
      ∀ t seen, h.pcs t = .reading seen → ∃ v ∈ h.installed, (∀ u ∈ seen, u = v) ∧ v.Good ∧
        (h.cacheClosed = false → v.client.id ∉ h.closes)) := by
  refine ⟨fun config h hr => ⟨hr.inv.head, hr.inv.chain, fun t seen hpc => ?_⟩,
    fun goRedis config h hr => ⟨hr.inv.head, hr.inv.chain, fun t seen hpc => ?_⟩⟩
  · obtain ⟨hlast, hseen⟩ := reading_one_version hr hpc
    exact ⟨h.fields, List.mem_of_mem_getLast? hlast, hseen,
      hr.inv.good (MemoryFields.good_newMemoryWithConfig config) _ (List.mem_of_mem_getLast? hlast)⟩
  · obtain ⟨hlast, hseen⟩ := reading_one_version hr hpc
    refine ⟨h.fields, List.mem_of_mem_getLast? hlast, hseen,
      hr.inv.good (Redis.good_newRedis goRedis config 0) _ (List.mem_of_mem_getLast? hlast), fun hcc => ?_⟩
    exact (hr.closedInv (Redis.clientOf_lockSection goRedis) rfl).open_last hcc _ hlast

/-- One reconfiguration from the cache `NewRedis7WithConfig` returns for the default
    address, with a reader holding the read lock: it has read the new version, built from
    the new configuration, whose client is open. -/
theorem reconfiguration_one_version_after_reload :
    ∃ h : Handle Redis,
      Reachable (Redis.reloadable 9) (Redis.newRedis 9 ⟨["127.0.0.1:6379"], 0, ""⟩ 0) h ∧
      h.pcs 0 = .reading [h.fields] ∧ h.fields = Redis.newRedis 9 ⟨["a:1", "b:2"], 0, ""⟩ 1 ∧
      ∃ v ∈ h.installed, (∀ u ∈ [h.fields], u = v) ∧ v.Good ∧ (h.cacheClosed = false → v.client.id ∉ h.closes) := by
  have h₀ : Reachable (Redis.reloadable 9) (Redis.newRedis 9 ⟨["127.0.0.1:6379"], 0, ""⟩ 0) _ :=
    Reachable.init
  have hr := ((h₀.reload (fun _ => rfl) 0 ⟨["a:1", "b:2"], 0, ""⟩).step
    (.rLock 0 rfl fun _ => rfl)).step (.read 0 [] (by simp))
  exact ⟨_, hr, by simp, rfl, (reconfiguration_one_version.2 9 _ _ hr).2.2 0 _ (by simp)⟩

/-- **Until the cache's `Close`, each client is closed once and only the current one is
    open.** In every state of every run of a `Redis6` or `Redis7` cache built by
    `NewRedis*WithConfig`, before its `Close` is called: no client has been closed twice,
    and whenever no `onConfigChange` is under way, a client installed so far is open
    exactly when it is `cache.client`. -/
theorem redis_lifecycle_until_close (goRedis : Nat) (config : RedisConfig) (h : Handle Redis)
    (hr : Reachable (Redis.reloadable goRedis) (Redis.newRedis goRedis config 0) h)
    (hcc : h.cacheClosed = false) :
    h.closes.Nodup ∧
      ((∀ t, h.pcs t = .idle ∨ ∃ seen, h.pcs t = .reading seen) →
        ∀ v ∈ h.installed, v.client.id ∉ h.closes ↔ v.client.id = h.fields.client.id) :=
  ⟨(hr.closedInv (Redis.clientOf_lockSection goRedis) rfl).closes_nodup hcc,
    open_iff_current (Redis.clientOf_lockSection goRedis) rfl hr hcc⟩

/-- Two reconfigurations of a `Redis7` cache: clients 0 and 1 are closed once each, and
    client 2 is the open one. -/
theorem redis_lifecycle_two_reloads :
    ∃ h : Handle Redis,
      Reachable (Redis.reloadable 9) (Redis.newRedis 9 ⟨["127.0.0.1:6379"], 0, ""⟩ 0) h ∧
      h.cacheClosed = false ∧ h.closes = [0, 1] ∧ h.fields.client.id = 2 ∧ h.closes.Nodup ∧
      ∀ v ∈ h.installed, v.client.id ∉ h.closes ↔ v.client.id = h.fields.client.id := by
  have h₀ : Reachable (Redis.reloadable 9) (Redis.newRedis 9 ⟨["127.0.0.1:6379"], 0, ""⟩ 0) _ :=
    Reachable.init
  have hr := (h₀.reload (fun _ => rfl) 0 ⟨["a:1", "b:2"], 0, ""⟩).reload (fun _ => rfl) 0
    ⟨["127.0.0.1:6379"], 1, ""⟩
  have hl := redis_lifecycle_until_close 9 _ _ hr rfl
  exact ⟨_, hr, rfl, rfl, rfl, hl.1, hl.2 fun _ => .inl rfl⟩

/-- **`Close`, then a reconfiguration or a second `Close`.** A `Redis7` cache built for
    the default address: after its `Close` has returned, a reconfiguration to a cluster
    closes the client `Close` closed a second time and installs a new client that stays
    open; and a second `Close` closes the same client again. In the states after the two
    calls, with no goroutine in the cache, client 0 has been closed twice, and after the
    reconfiguration client 1 is open. -/
theorem redis_close_then_reload :
    (∃ h : Handle Redis,
      Reachable (Redis.reloadable 9) (Redis.newRedis 9 ⟨["127.0.0.1:6379"], 0, ""⟩ 0) h ∧
      h.cacheClosed = true ∧ (∀ t, h.pcs t = .idle) ∧ h.closes = [0, 0] ∧
      h.fields = Redis.newRedis 9 ⟨["a:1", "b:2"], 0, ""⟩ 1 ∧ 1 ∉ h.closes) ∧
    (∃ h : Handle Redis,
      Reachable (Redis.reloadable 9) (Redis.newRedis 9 ⟨["127.0.0.1:6379"], 0, ""⟩ 0) h ∧
      h.cacheClosed = true ∧ (∀ t, h.pcs t = .idle) ∧ h.closes = [0, 0] ∧ h.fields.client.id = 0) := by
  have h₀ : Reachable (Redis.reloadable 9) (Redis.newRedis 9 ⟨["127.0.0.1:6379"], 0, ""⟩ 0) _ :=
    Reachable.init
  have hc := h₀.closeCall (fun _ => rfl) 0
  exact ⟨⟨_, hc.reload (fun _ => rfl) 0 ⟨["a:1", "b:2"], 0, ""⟩, rfl, fun _ => rfl, rfl, rfl, by decide⟩,
    ⟨_, hc.closeCall (fun _ => rfl) 0, rfl, fun _ => rfl, rfl, rfl⟩⟩

end Xcache
