import Xcache.Basic

namespace Xcache

/-!
# xcache — the `Cache` interface and the `Mock` test double

* `Cache m` — the interface of `cache.go`: `Save`, `Load`, `TTL` and `Stats`, as
  actions of a monad `m` that carries the implementation's state;
* `Call`, `CallLog` — the calls a list of caches received, in order;
* `Mock` — the test double of the package: every operation answers with its
  callback, or with the source's default when none is set. A mock answers each call
  with an arbitrary function of its arguments, so a list of mocks stands for any list
  of backends in a run where each backend is called at most once per operation.
-/

/-- The `Cache` interface (`cache.go`). The `context.Context` argument, which every
    caller in the package passes through unchanged, is left out. -/
structure Cache (m : Type → Type) where
  /-- `Save(ctx, key, value, expire) error`. -/
  save : String → Bytes → Duration → m (Option GoError)
  /-- `Load(ctx, key) ([]byte, error)`. -/
  load : String → m (Bytes × Option GoError)
  /-- `TTL(ctx, key) (time.Duration, error)`. -/
  ttl : String → m (Duration × Option GoError)
  /-- `Stats(ctx) (Stats, error)`. -/
  stats : m (Stats × Option GoError)

/-- A call received by cache number `i` of a list, with its arguments. -/
inductive Call where
  | save (i : Nat) (key : String) (value : Bytes) (expire : Duration)
  | load (i : Nat) (key : String)
  | ttl (i : Nat) (key : String)
  | stats (i : Nat)
  deriving DecidableEq, Repr

/-- The monad of the test double: the calls made so far, oldest first. -/
abbrev CallLog := StateM (List Call)

/-- `Mock` (`memory_xconf_adapter.go`): the callbacks, each defaulting to what the
    source returns when it is not set. -/
structure Mock where
  saveCallback : String → Bytes → Duration → Option GoError := fun _ _ _ => none
  loadCallback : String → Bytes × Option GoError := fun _ => ([], some .errNotFound)
  ttlCallback : String → Duration × Option GoError := fun _ => (-1, none)
  statsCallback : Stats × Option GoError := ({}, none)

namespace Mock

/-- Mock number `i` as a `Cache`. Each operation records its call, where the source
    bumps that operation's call counter, then runs its callback. -/
def toCache (i : Nat) (mock : Mock) : Cache CallLog where
  save key value expire := do
    modify (· ++ [.save i key value expire])
    pure (mock.saveCallback key value expire)
  load key := do
    modify (· ++ [.load i key])
    pure (mock.loadCallback key)
  ttl key := do
    modify (· ++ [.ttl i key])
    pure (mock.ttlCallback key)
  stats := do
    modify (· ++ [.stats i])
    pure mock.statsCallback

/-- The mocks of a list as caches, numbered from `i` on. -/
def cachesFrom : Nat → List Mock → List (Cache CallLog)
  | _, [] => []
  | i, mock :: mocks => mock.toCache i :: cachesFrom (i + 1) mocks

@[simp] theorem toCache_save_run (i : Nat) (mock : Mock) (key : String) (value : Bytes)
    (expire : Duration) (log : List Call) :
    ((mock.toCache i).save key value expire).run log =
      (mock.saveCallback key value expire, log ++ [.save i key value expire]) := rfl

@[simp] theorem toCache_load_run (i : Nat) (mock : Mock) (key : String) (log : List Call) :
    ((mock.toCache i).load key).run log = (mock.loadCallback key, log ++ [.load i key]) := rfl

@[simp] theorem toCache_ttl_run (i : Nat) (mock : Mock) (key : String) (log : List Call) :
    ((mock.toCache i).ttl key).run log = (mock.ttlCallback key, log ++ [.ttl i key]) := rfl

@[simp] theorem toCache_stats_run (i : Nat) (mock : Mock) (log : List Call) :
    ((mock.toCache i).stats).run log = (mock.statsCallback, log ++ [.stats i]) := rfl

@[simp] theorem cachesFrom_nil (i : Nat) : cachesFrom i [] = [] := rfl
@[simp] theorem cachesFrom_cons (i : Nat) (mock : Mock) (mocks : List Mock) :
    cachesFrom i (mock :: mocks) = mock.toCache i :: cachesFrom (i + 1) mocks := rfl

end Mock

end Xcache
