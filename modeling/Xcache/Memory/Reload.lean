import Xcache.Memory.Xconf
import Xcache.Reload

namespace Xcache

/-!
# xcache — `Memory`'s fields under its lock

`NewMemoryWithConfig` gives `Memory` a `mu`; `onConfigChange` (`memory_xconf_adapter.go`)
takes `mu.Lock()`, and on a new clamped size copies the old store into a new one, then
sets `cache.client` and `cache.memSize`, two writes a call under `RLock` must never see
apart.

* `MemoryFields` — the two fields, the store as a pointer with the size it was made with;
* `MemoryFields.lockSection` — the locked section of `onConfigChange`;
* `MemoryFields.reloadable` — `Memory` as a `Reloadable` cache: every version has a store
  of `memSize` bytes;
* `lockSection_onConfigChange` — the section installs the sizes of the cache
  `Memory.onConfigChange` returns.
-/

/-- A `*freecache.Cache` as a field of `Memory` holds it: the store's number, by creation
    order, and the size `freecache.NewCache` gave it, which never changes. The entries
    live in the store, which serialises its own `Set` and `Get`. -/
structure StoreRef where
  id : Nat
  size : Nat
  deriving DecidableEq, Repr

/-- The fields of `Memory` that `onConfigChange` replaces under `mu`. -/
structure MemoryFields where
  client : StoreRef
  memSize : Int
  deriving DecidableEq, Repr

namespace MemoryFields

/-- The fields of `NewMemoryWithConfig(config)`, its store the first. -/
def newMemoryWithConfig (config : Config) : MemoryFields :=
  ⟨⟨0, (Xcache.newMemoryWithConfig config).client.size⟩, (Xcache.newMemoryWithConfig config).memSize⟩

/-- The section of `Memory.onConfigChange` under `mu.Lock()`, for `config` and
    `changedKeys`, creating store `n`: on a new clamped size, `cache.client = newClient`,
    then `cache.memSize = int64(memSize)`; nothing otherwise. (With no memory key among
    the changed keys, the code returns before `Lock`.) -/
def lockSection (change : Config × List String) (n : Nat) (cache : MemoryFields) :
    List (MemoryFields → MemoryFields) :=
  let memSize := Memory.changedMemSize change.1 change.2
  if memSize = 0 then []
  else if memSize ≠ cache.memSize then
    [fun c => { c with client := ⟨n, (Freecache.newCache memSize.toNat).size⟩ },
      fun c => { c with memSize := memSize }]
  else []

/-- The section writes nothing, or `client` then `memSize`. -/
theorem lockSection_cases (change : Config × List String) (n : Nat) (cache : MemoryFields) :
    lockSection change n cache = [] ∨
      ∃ sz ms, lockSection change n cache =
        [fun c => { c with client := ⟨n, sz⟩ }, fun c => { c with memSize := ms }] := by
  dsimp only [lockSection]
  split_ifs <;> first | exact .inl rfl | exact .inr ⟨_, _, rfl⟩

theorem lockSection_of_resize {change : Config × List String} {n : Nat} {cache : MemoryFields}
    (h0 : Memory.changedMemSize change.1 change.2 ≠ 0)
    (hne : Memory.changedMemSize change.1 change.2 ≠ cache.memSize) :
    lockSection change n cache =
      [fun c => { c with client := ⟨n, (Freecache.newCache (Memory.changedMemSize change.1 change.2).toNat).size⟩ },
        fun c => { c with memSize := Memory.changedMemSize change.1 change.2 }] := by
  simp only [lockSection, h0, hne, if_false, if_true, ne_eq, not_false_eq_true]

theorem lockSection_of_not_resize {change : Config × List String} {n : Nat} {cache : MemoryFields}
    (h : ¬(Memory.changedMemSize change.1 change.2 ≠ 0 ∧ Memory.changedMemSize change.1 change.2 ≠ cache.memSize)) :
    lockSection change n cache = [] := by
  dsimp only [lockSection]
  split_ifs <;> tauto

/-- One version of the fields: a store of `memSize` bytes, at least freecache's minimum. -/
def Good (cache : MemoryFields) : Prop :=
  freecacheMinBufSize ≤ cache.memSize ∧ cache.client.size = cache.memSize.toNat

theorem changedMemSize_ge {config : Config} {changedKeys : List String}
    (h : Memory.changedMemSize config changedKeys ≠ 0) :
    freecacheMinBufSize ≤ Memory.changedMemSize config changedKeys := by
  by_cases hmem : memoryCfgKeyMemorySize ∈ changedKeys
  · rw [Memory.changedMemSize_of_mem hmem]; exact Memory.getRealMemorySize_ge _
  · exact absurd (Memory.changedMemSize_of_not_mem hmem) h

theorem good_lockSection (change : Config × List String) (n : Nat) (cache : MemoryFields)
    (hg : cache.Good) : (applyWrites (lockSection change n cache) cache).Good := by
  simp only [lockSection]
  split_ifs with h0 hne
  · exact hg
  · have hge := changedMemSize_ge h0
    exact ⟨hge, Memory.newCache_size_of_ge hge⟩
  · exact hg

/-- `Memory` built by `NewMemoryWithConfig`, as a `Reloadable` cache. -/
def reloadable : Reloadable MemoryFields (Config × List String) where
  clientOf cache := cache.client.id
  lockSection := lockSection
  closesOld := false
  good := Good
  good_lockSection := good_lockSection

theorem good_newMemoryWithConfig (config : Config) : (newMemoryWithConfig config).Good := by
  have hge := Memory.getRealMemorySize_ge ((config memoryCfgKeyMemorySize).getD memoryCfgDefValueMemorySize)
  exact ⟨hge, Memory.newCache_size_of_ge hge⟩

end MemoryFields

/-- **The section is `onConfigChange`.** Over fields that point to a store of the cache's
    size and hold its `memSize`, the locked section installs the `memSize` and the store
    size of the cache `Memory.onConfigChange` returns. -/
theorem lockSection_onConfigChange (cache : Memory) (fields : MemoryFields)
    (hsize : fields.client.size = cache.client.size) (hmem : fields.memSize = cache.memSize)
    (now : UInt32) (config : Config) (changedKeys : List String) (n : Nat) :
    (applyWrites (MemoryFields.lockSection (config, changedKeys) n fields) fields).memSize =
        (cache.onConfigChange now config changedKeys).memSize ∧
      (applyWrites (MemoryFields.lockSection (config, changedKeys) n fields) fields).client.size =
        (cache.onConfigChange now config changedKeys).client.size := by
  simp only [MemoryFields.lockSection, Memory.onConfigChange, hmem]
  split_ifs <;> simp [hsize, hmem, Memory.copyEntries_size]

end Xcache
