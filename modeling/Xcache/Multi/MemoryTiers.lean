import Xcache.Multi.Sim
import Xcache.Memory.Xconf

namespace Xcache

/-!
# xcache — `Multi` over `Memory` backends keeps its tiers coherent

`Xcache.Multi.Coherence` proves the tiers coherent over abstract key-value backends.
`Memory` is one of them: what its store holds of each key, live or expired, is the
abstract backend's content; each of its calls, at whatever clock reading it runs, ends
in one of the ways the abstract call may end; and the store's evictions and
`onConfigChange`'s resize only drop keys. So a run of `Multi` over `Memory` backends is
a run of the abstract tiers, and is coherent.

* `Memory.view`, `viewAll` — the value each store holds of each key: the abstraction;
* `memoryCall`, `backendCall`, `memoryTier`, `memoryMulti` — a `Memory` call at any
  clock reading, on backend `i`; backend `i` as a `Cache`; the `Multi` of backends
  `0 … n-1`;
* `Memory.save_call`, `Memory.load_call`, `Memory.read_call` — what each call does to
  what the store holds;
* `memoryTier_sim` — backend `i` simulates abstract backend `i` (`Xcache.Multi.Sim`);
* `MemoryRunStep.runStep` — a run over `Memory` backends is a run of the abstract tiers;
* `memory_tiers_coherent` — the tiers of every such run are coherent.
-/

open ND

/-- The value the store of `cache` holds of each key, live or expired. -/
def Memory.view (cache : Memory) (key : String) : Option Bytes :=
  (cache.client.find key).map Entry.value

/-- `Memory` backends `0, 1, …` as abstract stores. -/
def viewAll (ms : Nat → Memory) : Stores := fun i => (ms i).view

/-- A call of a `Memory` cache at any clock reading, and, for `Stats`, with any counters. -/
def memoryCall {α : Type} (f : UInt32 → Freecache.Counters → Memory → α × Memory) : ND Memory α :=
  fun cache a cache' => ∃ now counters, f now counters cache = (a, cache')

/-- A call of `Memory` backend `i` among `0, 1, …`. -/
def backendCall {α : Type} (i : Nat) (x : ND Memory α) : ND (Nat → Memory) α :=
  fun ms a ms' => ∃ cache', x (ms i) a cache' ∧ ms' = Function.update ms i cache'

/-- `Memory` backend `i` as a `Cache`: each call at its own clock reading, `Stats` with
    any counters. -/
def memoryTier (i : Nat) : Cache (ND (Nat → Memory)) where
  save key value expire := backendCall i (memoryCall fun now _ cache => cache.save now key value expire)
  load key := backendCall i (memoryCall fun now _ cache => (cache.load now key, cache))
  ttl key := backendCall i (memoryCall fun now _ cache => (cache.ttl now key, cache))
  stats := backendCall i (memoryCall fun _ counters cache => (cache.stats counters, cache))

/-- The `Multi` of `Memory` backends `0 … n-1`. -/
def memoryMulti (n : Nat) : Multi (ND (Nat → Memory)) := ⟨(List.range n).map memoryTier⟩

/-! ### What each call does to the view -/

namespace Memory

/-- `Save` writes the key's new value in the view, none for a delete; a failed `Set`
    leaves the cache as it was. -/
theorem view_save (cache : Memory) (now : UInt32) (key : String) (value : Bytes) (expire : Duration) :
    (cache.save now key value expire).2.view =
        Function.update cache.view key (if expire < 0 then none else some value) ∨
      ((cache.save now key value expire).1.isSome ∧ (cache.save now key value expire).2 = cache) := by
  unfold save
  split_ifs with hneg
  · refine .inl (funext fun k => ?_)
    rcases eq_or_ne k key with rfl | hk <;> simp [view, Freecache.find_del, *, Ne.symm]
  · rcases Freecache.set_cases cache.client now key value (expireSecondsOf expire) with
      ⟨e, he⟩ | ⟨herr, hc⟩
    · rw [he]
      refine .inl (funext fun k => ?_)
      rcases eq_or_ne k key with rfl | hk <;> simp [view, Freecache.find_insert, *, Ne.symm]
    · exact .inr ⟨herr, by simp only [hc]⟩

/-- A `Load` that hits returns the value the store holds. -/
theorem view_of_load {cache : Memory} {now : UInt32} {key : String}
    (h : (cache.load now key).2 = none) : cache.view key = some (cache.load now key).1 := by
  unfold load Freecache.get at *
  cases hl : cache.client.lookup now key with
  | none => simp [hl] at h
  | some e => simp [view, Freecache.find_of_lookup hl]

/-- An eviction drops the key. -/
theorem view_evict {cache : Memory} {key k : String} {v : Bytes}
    (h : ({ cache with client := cache.client.evict key } : Memory).view k = some v) :
    cache.view k = some v := by
  simp only [view, Freecache.evict, Freecache.find_del] at h ⊢
  split_ifs at h
  · simp at h
  · exact h

/-- One entry of the copy: it stores an entry of the old store, or nothing. -/
theorem copyEntry_find {c nc : Freecache} {now : UInt32} {e e' : Entry} {k : String}
    (he : e ∈ c.entries) (h : (copyEntry c now nc e).find k = some e') :
    nc.find k = some e' ∨ (c.find k).map Entry.value = some e'.value := by
  unfold copyEntry at h
  split at h
  · rcases Freecache.set_cases nc now e.key e.value _ with ⟨x, hx⟩ | ⟨-, hx⟩ <;> rw [hx] at h
    · rw [Freecache.find_insert] at h
      split_ifs at h with hk
      · subst hk; cases h
        exact .inr (by simp [Freecache.find_of_mem he])
      · exact .inl h
    · exact .inl h
  · exact .inl h

/-- The copy holds only values the old store held, under the same keys. -/
theorem copy_find {c : Freecache} {now : UInt32} {k : String} :
    ∀ (l : List Entry) (nc : Freecache), (∀ e ∈ l, e ∈ c.entries) → ∀ e',
      (l.foldl (copyEntry c now) nc).find k = some e' →
        nc.find k = some e' ∨ (c.find k).map Entry.value = some e'.value
  | [], _, _, _, h => .inl h
  | e :: l, _, hl, e', h =>
    (copy_find l _ (fun x hx => hl x (List.mem_cons_of_mem e hx)) e' h).elim
      (copyEntry_find (hl e (List.mem_cons_self e l))) .inr

/-- `onConfigChange` drops keys, and keeps the value of every key it keeps. -/
theorem view_onConfigChange {cache : Memory} {now : UInt32} {config : Config}
    {changedKeys : List String} {k : String} {v : Bytes}
    (h : (cache.onConfigChange now config changedKeys).view k = some v) : cache.view k = some v := by
  simp only [onConfigChange] at h
  split_ifs at h
  · exact h
  · obtain ⟨e', he', rfl⟩ := Option.map_eq_some'.mp h
    rcases copy_find _ _ (fun e he => (Freecache.mem_iterate.mp he).1) e' he' with h0 | hold
    · cases h0
    · exact hold
  · exact h

end Memory

/-- Replacing backend `i` by a cache whose view is within its own drops keys. -/
theorem drops_update {ms : Nat → Memory} {i : Nat} {cache : Memory}
    (h : ∀ k v, cache.view k = some v → (ms i).view k = some v) :
    Drops (viewAll ms) (viewAll (Function.update ms i cache)) := by
  intro j k v hv
  rcases eq_or_ne j i with rfl | hne
  · exact h k v (by simpa [viewAll] using hv)
  · simpa [viewAll, Function.update_noteq hne] using hv

/-! ### Each `Memory` call simulates an abstract backend call -/

namespace Memory

variable {key : String} {cache cache' : Memory}

theorem save_call {value : Bytes} {expire : Duration} {err : Option GoError}
    (h : memoryCall (fun now _ cache => cache.save now key value expire) cache err cache') :
    SaveEffect key value expire cache.view err cache'.view := by
  obtain ⟨now, _, h⟩ := h
  have hv := cache.view_save now key value expire
  rw [show cache.save now key value expire = (err, cache') from h] at hv
  exact hv.imp id fun ⟨herr, hc⟩ => ⟨herr, congrArg view hc⟩

theorem load_call {r : Bytes × Option GoError}
    (h : memoryCall (fun now _ cache => (cache.load now key, cache)) cache r cache') :
    LoadEffect key cache.view r cache'.view := by
  obtain ⟨now, _, h⟩ := h
  obtain ⟨rfl, rfl⟩ := Prod.mk.inj h
  exact ⟨rfl, view_of_load⟩

theorem read_call {α : Type} {f : UInt32 → Freecache.Counters → Memory → α} {a : α}
    (h : memoryCall (fun now counters cache => (f now counters cache, cache)) cache a cache') :
    cache' = cache := by
  obtain ⟨now, counters, h⟩ := h
  exact (Prod.mk.inj h).2.symm

end Memory

/-- A call of backend `i` changes what backend `i` holds as the `Memory` call does, and
    nothing else. -/
theorem backendCall_view {α : Type} {i : Nat} {x : ND Memory α}
    {P : (String → Option Bytes) → α → (String → Option Bytes) → Prop} {ms ms' : Nat → Memory}
    {a : α} (h : backendCall i x ms a ms') (hx : ∀ cache a cache', x cache a cache' → P cache.view a cache'.view) :
    ∃ v', P (viewAll ms i) a v' ∧ viewAll ms' = Function.update (viewAll ms) i v' := by
  obtain ⟨cache', hc, rfl⟩ := h
  refine ⟨cache'.view, hx _ _ _ hc, funext fun j => ?_⟩
  rcases eq_or_ne j i with rfl | hj <;> simp [viewAll, *]

/-- **`Memory` backend `i` simulates abstract backend `i`**, whatever clock reading each
    call runs at: a `Save` writes the key or, failing, changes nothing; a `Load` that hits
    returns what the store holds; `TTL` and `Stats` change nothing. -/
theorem memoryTier_sim (i : Nat) : CacheSim viewAll (memoryTier i) (kvCache i) where
  save _ _ _ _ _ _ h := kvSave_of_effect (backendCall_view h fun _ _ _ => Memory.save_call)
  load _ _ _ _ h := kvLoad_of_effect (backendCall_view h fun _ _ _ => Memory.load_call)
  ttl _ _ r _ h := kvRead_of_effect (a := r) (backendCall_view (P := fun v _ v' => v' = v) h
    fun _ _ _ h => congrArg Memory.view (Memory.read_call h))
  stats _ r _ h := kvRead_of_effect (a := r) (backendCall_view (P := fun v _ v' => v' = v) h
    fun _ _ _ h => congrArg Memory.view (Memory.read_call h))

theorem memoryMulti_sim (n : Nat) :
    List.Forall₂ (CacheSim viewAll) (memoryMulti n).caches (kvMulti n).caches :=
  List.forall₂_map_left_iff.mpr <| List.forall₂_map_right_iff.mpr <|
    List.forall₂_same.mpr fun i _ => memoryTier_sim i

/-! ### Runs -/

/-- One step of a run of `Multi` over `Memory` backends `0 … n-1`, with the ghost `latest`
    of `RunStep`: a call of `Multi`, each backend call at its own clock reading, whose
    `Save`s return nil; a store evicting an entry; or `onConfigChange` resizing a
    backend. -/
inductive MemoryRunStep (n : Nat) :
    (String → Option Bytes) × (Nat → Memory) → (String → Option Bytes) × (Nat → Memory) → Prop
  | save {latest : String → Option Bytes} {ms ms' : Nat → Memory} (key : String) (value : Bytes)
      (expire : Duration) (h : (memoryMulti n).save key value expire ms none ms') :
      MemoryRunStep n (latest, ms) (Function.update latest key (if expire < 0 then none else some value), ms')
  | load {latest : String → Option Bytes} {ms ms' : Nat → Memory} (key : String)
      (r : Bytes × Option GoError) (h : (memoryMulti n).load key ms r ms') :
      MemoryRunStep n (latest, ms) (latest, ms')
  | ttl {latest : String → Option Bytes} {ms ms' : Nat → Memory} (key : String)
      (r : Duration × Option GoError) (h : (memoryMulti n).ttl key ms r ms') :
      MemoryRunStep n (latest, ms) (latest, ms')
  | stats {latest : String → Option Bytes} {ms ms' : Nat → Memory} (r : Stats × Option GoError)
      (h : (memoryMulti n).stats ms r ms') : MemoryRunStep n (latest, ms) (latest, ms')
  | evict {latest : String → Option Bytes} {ms : Nat → Memory} (i : Nat) (key : String) :
      MemoryRunStep n (latest, ms)
        (latest, Function.update ms i { ms i with client := (ms i).client.evict key })
  | reconfigure {latest : String → Option Bytes} {ms : Nat → Memory} (i : Nat) (now : UInt32)
      (config : Config) (changedKeys : List String) :
      MemoryRunStep n (latest, ms)
        (latest, Function.update ms i ((ms i).onConfigChange now config changedKeys))

/-- Each step over `Memory` backends is a step of the abstract tiers, on the view. -/
theorem MemoryRunStep.runStep {n : Nat} {s s' : (String → Option Bytes) × (Nat → Memory)}
    (hs : MemoryRunStep n s s') : RunStep n (s.1, viewAll s.2) (s'.1, viewAll s'.2) := by
  cases hs with
  | save key value expire h =>
    exact .save key value expire (Multi.save_sim (memoryMulti_sim n) key value expire _ _ _ h)
  | load key r h => exact .load key r (Multi.load_sim (memoryMulti_sim n) key _ _ _ h)
  | ttl key r h => exact .ttl key r (Multi.ttl_sim (memoryMulti_sim n) key _ _ _ h)
  | stats r h => exact .stats r (Multi.stats_sim (memoryMulti_sim n) _ _ _ h)
  | evict i key => exact .drop (drops_update fun _ _ => Memory.view_evict)
  | reconfigure i now config changedKeys => exact .drop (drops_update fun _ _ => Memory.view_onConfigChange)

/-- **The tiers of `Memory` backends stay coherent.** Take `Memory` backends `0 … n-1`
    whose stores agree on every key they hold, and any run of `Multi.Save`, `Multi.Load`,
    `Multi.TTL` and `Multi.Stats` calls, each backend call at its own clock reading, with
    the stores evicting entries and `onConfigChange` resizing backends anywhere, in which
    every `Multi.Save` returns nil. At every point, every entry of a backend's store, live
    or expired, holds the value of the last `Save` of its key with a non-negative expiry
    after its last delete (the initial values counting as `Save`s); and a `Multi.Load`
    that returns a value with a nil error returns that value. -/
theorem memory_tiers_coherent (n : Nat) (ms₀ : Nat → Memory) (hagree : Agree n (viewAll ms₀))
    (latest : String → Option Bytes) (ms : Nat → Memory)
    (hrun : Relation.ReflTransGen (MemoryRunStep n) (initialLatest n (viewAll ms₀), ms₀) (latest, ms)) :
    (∀ i < n, ∀ key e, (ms i).client.find key = some e → latest key = some e.value) ∧
      ∀ key r ms', (memoryMulti n).load key ms r ms' → r.2 = none → latest key = some r.1 := by
  have hc : Coherent n latest (viewAll ms) :=
    run_coherent hagree (hrun.lift (fun s => (s.1, viewAll s.2)) fun _ _ hs => hs.runStep)
  exact ⟨fun i hi key e he => hc i hi key e.value (by simp [viewAll, Memory.view, he]),
    fun key r ms' h => (load_coherent key _ _ _ hc (Multi.load_sim (memoryMulti_sim n) key _ _ _ h)).2⟩

/-- Two empty `Memory` backends and one `Multi.Save` returning nil: both stores hold the
    value, and a `Multi.Load` that hits returns it. -/
theorem memory_tiers_coherent_after_save :
    ∃ ms : Nat → Memory,
      Relation.ReflTransGen (MemoryRunStep 2)
        (initialLatest 2 (viewAll fun _ => newMemory 0), fun _ => newMemory 0)
        (Function.update (initialLatest 2 (viewAll fun _ => newMemory 0)) "k" (some [1]), ms) ∧
      (ms 0).view "k" = some [1] ∧ (ms 1).view "k" = some [1] ∧
      ∀ key r ms', (memoryMulti 2).load key ms r ms' → r.2 = none →
        Function.update (initialLatest 2 (viewAll fun _ => newMemory 0)) "k" (some [1]) key = some r.1 := by
  have hsave : (memoryMulti 2).save "k" [1] 0 (fun _ => newMemory 0) none
      (Function.update (Function.update (fun _ => newMemory 0) 0 ((newMemory 0).save 0 "k" [1] 0).2) 1
        ((newMemory 0).save 0 "k" [1] 0).2) :=
    ⟨MultiError.nil, _, ⟨MultiError.nil, _, ⟨none, _, ⟨_, ⟨0, ⟨0, 0, 0, 0, 0⟩, rfl⟩, rfl⟩, rfl, rfl⟩,
      MultiError.nil, _, ⟨none, _, ⟨_, ⟨0, ⟨0, 0, 0, 0, 0⟩, rfl⟩, rfl⟩, rfl, rfl⟩, rfl, rfl⟩, rfl, rfl⟩
  have hrun : Relation.ReflTransGen (MemoryRunStep 2)
      (initialLatest 2 (viewAll fun _ => newMemory 0), fun _ => newMemory 0)
      (Function.update (initialLatest 2 (viewAll fun _ => newMemory 0)) "k" (some [1]), _) :=
    .single (MemoryRunStep.save "k" [1] 0 hsave)
  exact ⟨_, hrun, rfl, rfl,
    (memory_tiers_coherent 2 _ (fun _ _ _ _ _ _ _ h _ => Option.noConfusion h) _ _ hrun).2⟩

end Xcache
