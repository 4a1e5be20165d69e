import Xcache.Memory.Reload

namespace Xcache

/-!
# xcache — `Save` and `Load` across a resize of `Memory`

`Memory` built by `NewMemoryWithConfig`, with its stores, in the run model of `Reload`. A
`Save`, `Load`, `TTL` or `Stats` works under `RLock` on the store the `client` field
points to. `onConfigChange` takes `Lock`, makes a store of the new size, copies the old
store's entries into it one iteration of its loop at a time (`iter.Next()`, `TTL`,
`Set`, at one clock reading), then writes `client` and `memSize`. The clock ticks between
any two steps, and a store may drop a key to make room at any time.

* `MemEvent`, `MemoryRun`, `MemoryRun.Step`, `MemoryRun.Reachable` — the calls a run
  records, the state of a run, its steps and its reachable states;
* `MemoryRun.Inv` — the lock invariant of `Reload` holds of the fields, and a resize in
  progress copies into a store newer than the current one;
* `MemoryRun.Tracks` — the entry a `Save` stored is the entry of its key in the current
  store, or has expired; while a resize copies, the new store holds it once the loop has
  passed it;
* `MemoryRun.Reachable.onConfigChange` — a whole `onConfigChange` at one clock reading
  leaves the cache `Memory.onConfigChange` returns;
* `memory_resize_keeps_saves` — a resize keeps the content, and in every run a `Load`
  after a `Save` of its key returns the saved value until it expires, unless a call in
  between replaced the entry, evicted it or failed to copy it;
* `memory_resize_save_survives` — such a run, through a resize.
-/

/-- The calls a run records, in order: a `Save` with its arguments, the clock reading it
    ran at and its error; a `Load` with the clock reading and its result; an iteration of
    a copy loop that re-inserts the entry of `key`, with whether the new store accepts
    it; a store dropping `key` to make room. -/
inductive MemEvent where
  | save (key : String) (value : Bytes) (expire : Duration) (now : UInt32) (err : Option GoError)
  | load (key : String) (now : UInt32) (result : Bytes × Option GoError)
  | copy (key : String) (accepted : Bool)
  | evict (key : String)

/-- The event leaves the entry of `k` as it was: it is about another key, or it is a
    `Save` the store refused, a `Load`, or a copy the new store accepts. -/
def MemEvent.keeps (k : String) : MemEvent → Bool
  | save key _ _ _ err => key != k || err.isSome
  | load .. => true
  | copy key accepted => key != k || accepted
  | evict key => key != k

/-- The `expireAt` the store keeps for a `Save` of `expire ≥ 0` at `now`. -/
def savedExpireAt (now : UInt32) (expire : Duration) : UInt32 :=
  if expireSecondsOf expire > 0 then now + UInt32.ofNat (expireSecondsOf expire).toNat else 0

/-- A run of a `Memory` built by `NewMemoryWithConfig`: its fields and goroutines (the
    run model of `Reload`), the stores by number, the clock, for each goroutine in
    `onConfigChange` the old store's entries its copy loop has still to visit, and the
    calls recorded. -/
structure MemoryRun where
  handle : Reload.Handle MemoryFields
  stores : Nat → Freecache
  now : UInt32
  pending : Nat → List Entry
  log : List MemEvent

namespace MemoryRun

/-- The store the `client` field points to. -/
def current (m : MemoryRun) : Freecache := m.stores m.handle.fields.client.id

/-- The `Memory` a call under `RLock` sees. -/
def cache (m : MemoryRun) : Memory := ⟨m.current, m.handle.fields.memSize⟩

/-- The cache `NewMemoryWithConfig(config)` returns, at the clock reading `now`: store 0
    is its store, and no other is read before it is made. -/
def init (config : Config) (now : UInt32) : MemoryRun where
  handle := Reload.Handle.init MemoryFields.reloadable (MemoryFields.newMemoryWithConfig config)
  stores := fun _ => (newMemoryWithConfig config).client
  now := now
  pending := fun _ => []
  log := []

/-- Goroutine `t`, under `RLock`, reads the fields once more. -/
def readBy (h : Reload.Handle MemoryFields) (t : Nat) (seen : List MemoryFields) :
    Reload.Handle MemoryFields :=
  { h with pcs := Function.update h.pcs t (.reading (seen ++ [h.fields])) }

/-- One step of one goroutine `t`, a tick of the clock, or a store dropping a key. -/
inductive Step : MemoryRun → MemoryRun → Prop
  /-- `rLock` at the start of a call: waits while a goroutine holds `Lock`. -/
  | rLock {m : MemoryRun} (t : Nat) (hidle : m.handle.pcs t = .idle)
      (hfree : ∀ u, (m.handle.pcs u).isWriting = false) :
      Step m { m with handle := { m.handle with pcs := Function.update m.handle.pcs t (.reading []) } }
  /-- `TTL` or `Stats`: reads the current store, changes nothing. -/
  | read {m : MemoryRun} (t : Nat) (seen : List MemoryFields) (hpc : m.handle.pcs t = .reading seen) :
      Step m { m with handle := readBy m.handle t seen }
  /-- `Save`: `Del` or `Set` on the current store. -/
  | save {m : MemoryRun} (t : Nat) (seen : List MemoryFields) (hpc : m.handle.pcs t = .reading seen)
      (key : String) (value : Bytes) (expire : Duration) :
      Step m { m with
        handle := readBy m.handle t seen
        stores := Function.update m.stores m.handle.fields.client.id
          (m.cache.save m.now key value expire).2.client
        log := m.log ++ [.save key value expire m.now (m.cache.save m.now key value expire).1] }
  /-- `Load`: `Get` on the current store. -/
  | load {m : MemoryRun} (t : Nat) (seen : List MemoryFields) (hpc : m.handle.pcs t = .reading seen)
      (key : String) :
      Step m { m with
        handle := readBy m.handle t seen
        log := m.log ++ [.load key m.now (m.cache.load m.now key)] }
  /-- `rUnlock` at the end of the call. -/
  | rUnlock {m : MemoryRun} (t : Nat) (seen : List MemoryFields) (hpc : m.handle.pcs t = .reading seen) :
      Step m { m with handle := { m.handle with pcs := Function.update m.handle.pcs t .idle } }
  /-- `onConfigChange` for the change `c` takes `Lock`; on a new clamped size it makes
      store `created`, empty, and starts the copy loop over the current store's entries. -/
  | lock {m : MemoryRun} (t : Nat) (c : Config × List String) (hidle : m.handle.pcs t = .idle)
      (hfree : ∀ u, (m.handle.pcs u).holdsLock = false) :
      Step m { m with
        handle := { m.handle with
          pcs := Function.update m.handle.pcs t (.writing m.handle.fields
            (applyWrites (MemoryFields.lockSection c m.handle.created m.handle.fields) m.handle.fields)
            (MemoryFields.lockSection c m.handle.created m.handle.fields))
          created := m.handle.created + 1 }
        stores := if (MemoryFields.lockSection c m.handle.created m.handle.fields).isEmpty then m.stores
          else Function.update m.stores m.handle.created
            (Freecache.newCache (Memory.changedMemSize c.1 c.2).toNat)
        pending := Function.update m.pending t
          (if (MemoryFields.lockSection c m.handle.created m.handle.fields).isEmpty then []
            else m.current.entries) }
  /-- An iteration of the copy loop on an entry `iter.Next()` passes over: expired. -/
  | copySkip {m : MemoryRun} (t : Nat) (old target : MemoryFields) (ws : List (MemoryFields → MemoryFields))
      (e : Entry) (rest : List Entry) (hpc : m.handle.pcs t = .writing old target ws)
      (hp : m.pending t = e :: rest) (hexp : isExpired e.expireAt m.now = true) :
      Step m { m with pending := Function.update m.pending t rest }
  /-- An iteration of the copy loop on a live entry: its `TTL` in the old store and, when
      that succeeds, `Set` into the new one. -/
  | copy {m : MemoryRun} (t : Nat) (old target : MemoryFields) (ws : List (MemoryFields → MemoryFields))
      (e : Entry) (rest : List Entry) (hpc : m.handle.pcs t = .writing old target ws)
      (hp : m.pending t = e :: rest) (hlive : isExpired e.expireAt m.now = false) :
      Step m { m with
        stores := Function.update m.stores target.client.id
          (Memory.copyEntry (m.stores old.client.id) m.now (m.stores target.client.id) e)
        pending := Function.update m.pending t rest
        log := m.log ++ [.copy e.key (decide (Memory.Accepts (m.stores target.client.id) e))] }
  /-- A field write of the locked section, once the copy loop is done. -/
  | write {m : MemoryRun} (t : Nat) (old target : MemoryFields) (w : MemoryFields → MemoryFields)
      (ws : List (MemoryFields → MemoryFields)) (hpc : m.handle.pcs t = .writing old target (w :: ws))
      (hdone : m.pending t = []) :
      Step m { m with handle := { m.handle with
        fields := w m.handle.fields, pcs := Function.update m.handle.pcs t (.writing old target ws) } }
  /-- `mu.Unlock()`: the fields written are the new version. -/
  | unlock {m : MemoryRun} (t : Nat) (old target : MemoryFields) (hpc : m.handle.pcs t = .writing old target []) :
      Step m { m with handle := { m.handle with
        pcs := Function.update m.handle.pcs t (.releasing old)
        installed := m.handle.installed ++ [m.handle.fields] } }
  /-- `onConfigChange` returns. -/
  | release {m : MemoryRun} (t : Nat) (old : MemoryFields) (hpc : m.handle.pcs t = .releasing old) :
      Step m { m with handle := { m.handle with pcs := Function.update m.handle.pcs t .idle } }
  /-- Store `id` drops the entry of `key` to make room. -/
  | evict {m : MemoryRun} (id : Nat) (key : String) :
      Step m { m with
        stores := Function.update m.stores id ((m.stores id).evict key)
        log := m.log ++ [.evict key] }
  /-- The clock ticks. -/
  | tick {m : MemoryRun} (now : UInt32) (hle : m.now ≤ now) : Step m { m with now := now }

/-- The states of every run from the cache `NewMemoryWithConfig(config)` returns at `now₀`. -/
inductive Reachable (config : Config) (now₀ : UInt32) : MemoryRun → Prop
  | init : Reachable config now₀ (init config now₀)
  | step {m m' : MemoryRun} : Reachable config now₀ m → Step m m' → Reachable config now₀ m'

/-! ### The fields follow the run model of `Reload` -/

variable {m m' : MemoryRun}

/-- Each step moves the fields and goroutines by a step of `Reload`, or leaves them. -/
theorem Step.handle (hs : Step m m') :
    m'.handle = m.handle ∨ Reload.Step MemoryFields.reloadable m.handle m'.handle := by
  cases hs with
  | rLock t hidle hfree => exact .inr (.rLock t hidle hfree)
  | read t seen hpc => exact .inr (.read t seen hpc)
  | save t seen hpc => exact .inr (.read t seen hpc)
  | load t seen hpc => exact .inr (.read t seen hpc)
  | rUnlock t seen hpc => exact .inr (.rUnlock t seen hpc)
  | lock t c hidle hfree => exact .inr (.lock t c hidle hfree)
  | copySkip | copy | evict | tick => exact .inl rfl
  | write t old target w ws hpc => exact .inr (.write t old target w ws hpc)
  | unlock t old target hpc => exact .inr (.unlock t old target hpc)
  | release t old hpc => exact .inr (.release t old hpc)

/-- Each step records one call, or none. -/
theorem Step.log_cases (hs : Step m m') : m'.log = m.log ∨ ∃ ev, m'.log = m.log ++ [ev] := by
  cases hs <;> first | exact .inl rfl | exact .inr ⟨_, rfl⟩

/-! ### A resize copies into a store of its own -/

/-- Where goroutine `t` is in `onConfigChange`, having found the version `old` and
    installing `target`: done copying, with `client` written or nothing to write, and
    `memSize` left to write or not; or copying into store `target.client.id`, newer than
    the current one, before any write. -/
def Phase (m : MemoryRun) (t : Nat) (old target : MemoryFields) (ws : List (MemoryFields → MemoryFields)) :
    Prop :=
  (m.pending t = [] ∧ target.client = m.handle.fields.client ∧
    (ws = [] ∨ ∃ ms, ws = [fun c => { c with memSize := ms }])) ∨
  (old = m.handle.fields ∧ m.handle.fields.client.id < target.client.id ∧
    target.client.id < m.handle.created ∧ ((m.pending t).map Entry.key).Nodup ∧
    ∃ ms, ws = [fun c => { c with client := target.client }, fun c => { c with memSize := ms }])

/-- The invariant of the fields: the lock invariant of `Reload`, the current store made
    before the next one, and each goroutine in `onConfigChange` at a `Phase`. -/
structure Inv (config : Config) (m : MemoryRun) : Prop where
  lock : Reload.Inv MemoryFields.reloadable (MemoryFields.newMemoryWithConfig config) m.handle
  ids : m.handle.fields.client.id < m.handle.created
  phase : ∀ t old target ws, m.handle.pcs t = .writing old target ws → Phase m t old target ws

theorem Phase.congr {t : Nat} {old target : MemoryFields} {ws : List (MemoryFields → MemoryFields)}
    (h : Phase m t old target ws) (hp : m'.pending t = m.pending t)
    (hf : m'.handle.fields = m.handle.fields) (hc : m'.handle.created = m.handle.created) :
    Phase m' t old target ws := by
  simpa only [Phase, hp, hf, hc] using h

theorem inv_init (config : Config) (now : UInt32) : Inv config (init config now) where
  lock := Reload.inv_init
  ids := Nat.lt_succ_self 0
  phase _ _ _ _ h := by simp [init, Reload.Handle.init] at h

variable {config : Config}

/-- A step that moves no goroutine into or within `onConfigChange`, and changes neither the
    fields nor the copy loops, keeps the invariant. -/
theorem Inv.frame (hi : Inv config m)
    (hlock : Reload.Inv MemoryFields.reloadable (MemoryFields.newMemoryWithConfig config) m'.handle)
    (hf : m'.handle.fields = m.handle.fields) (hc : m'.handle.created = m.handle.created)
    (hw : ∀ u old target ws, m'.handle.pcs u = .writing old target ws →
      m.handle.pcs u = .writing old target ws ∧ m'.pending u = m.pending u) : Inv config m' where
  lock := hlock
  ids := hf ▸ hc ▸ hi.ids
  phase u old target ws h := (hi.phase u old target ws (hw u old target ws h).1).congr
    (hw u old target ws h).2 hf hc

/-- Goroutine `t` moved to a place outside `onConfigChange`'s section. -/
theorem writing_of_update {pcs : Nat → Reload.Pc MemoryFields} {t u : Nat} {p : Reload.Pc MemoryFields}
    {old target : MemoryFields} {ws : List (MemoryFields → MemoryFields)}
    (h : Function.update pcs t p u = .writing old target ws) (hp : p.isWriting = false) :
    pcs u = .writing old target ws :=
  (update_eq_of_ne (by rintro rfl; simp at hp) h).2

/-- An iteration of the copy loop of goroutine `t` keeps the invariant. -/
theorem Inv.advance (hi : Inv config m) {t : Nat} {old target : MemoryFields}
    {ws : List (MemoryFields → MemoryFields)} {e : Entry} {rest : List Entry}
    (hpc : m.handle.pcs t = .writing old target ws) (hp : m.pending t = e :: rest)
    (hh : m'.handle = m.handle) (hpend : m'.pending = Function.update m.pending t rest) : Inv config m' where
  lock := hh ▸ hi.lock
  ids := hh ▸ hi.ids
  phase u o tg ws' h := by
    rw [hh] at h
    rcases eq_or_ne u t with rfl | hne
    · obtain ⟨rfl, rfl, rfl⟩ : old = o ∧ target = tg ∧ ws = ws' := by simpa [hpc] using h
      rcases hi.phase _ _ _ _ hpc with ⟨hnil, -⟩ | ⟨ho, hlt, hcr, hnd, hws⟩
      · simp [hp] at hnil
      · rw [hp, List.map_cons, List.nodup_cons] at hnd
        refine .inr ⟨?_, ?_, ?_, ?_, hws⟩ <;> simp only [hh, hpend, Function.update_same]
        exacts [ho, hlt, hcr, hnd.2]
    · exact (hi.phase u o tg ws' h).congr (by rw [hpend, Function.update_noteq hne]) (by rw [hh])
        (by rw [hh])

/-- The invariant of the fields holds after every step. -/
theorem Inv.step (hi : Inv config m) (hs : Step m m') : Inv config m' := by
  have hlock : Reload.Inv _ _ m'.handle := hs.handle.elim (fun h => h ▸ hi.lock) hi.lock.step
  cases hs with
  | rLock | read | save | load | rUnlock | release | unlock =>
    exact hi.frame hlock rfl rfl fun _ _ _ _ h => ⟨writing_of_update h rfl, rfl⟩
  | evict | tick => exact hi.frame hlock rfl rfl fun _ _ _ _ h => ⟨h, rfl⟩
  | copySkip t old target ws e rest hpc hp => exact hi.advance hpc hp rfl rfl
  | copy t old target ws e rest hpc hp => exact hi.advance hpc hp rfl rfl
  | lock t c hidle hfree =>
    refine ⟨hlock, Nat.lt_succ_of_lt hi.ids, fun u o tg ws h => ?_⟩
    obtain ⟨rfl, hw⟩ | ⟨hne, hw⟩ := update_eq_cases h
    · obtain ⟨rfl, rfl, rfl⟩ := Reload.Pc.writing.inj hw
      rcases MemoryFields.lockSection_cases c m.handle.created m.handle.fields with hsec | ⟨sz, ms, hsec⟩
      · exact .inl ⟨by simp [hsec], by simp [hsec], .inl hsec⟩
      · refine .inr ⟨rfl, ?_, ?_, ?_, ms, ?_⟩ <;> simp only [hsec, Function.update_same]
        · simpa using hi.ids
        · simp
        · simpa using m.current.nodup
        · rfl
    · simpa [hw] using hfree u
  | write t old target w ws hpc hdone =>
    have hother : ∀ u o tg ws', Function.update m.handle.pcs t (.writing old target ws) u = .writing o tg ws' →
        u = t ∧ old = o ∧ target = tg ∧ ws = ws' := fun u o tg ws' h => by
      obtain ⟨rfl, hw⟩ | ⟨hne, hw⟩ := update_eq_cases h
      · exact ⟨rfl, Reload.Pc.writing.inj hw⟩
      · simpa [hw] using hi.lock.writer_unique hpc hne
    rcases hi.phase _ _ _ _ hpc with ⟨hnil, hcl, hws⟩ | ⟨-, hlt, hcr, -, ms, hws⟩
    · obtain ⟨ms, hws⟩ := hws.resolve_left (List.cons_ne_nil _ _)
      obtain ⟨rfl, rfl⟩ := List.cons.inj hws
      refine ⟨hlock, hi.ids, fun u o tg ws' h => ?_⟩
      obtain ⟨rfl, rfl, rfl, rfl⟩ := hother u o tg ws' h
      exact .inl ⟨hnil, hcl, .inl rfl⟩
    · obtain ⟨rfl, rfl⟩ := List.cons.inj hws
      refine ⟨hlock, hcr, fun u o tg ws' h => ?_⟩
      obtain ⟨rfl, rfl, rfl, rfl⟩ := hother u o tg ws' h
      exact .inl ⟨hdone, rfl, .inr ⟨ms, rfl⟩⟩

/-! ### Where a saved entry is -/

theorem isExpired_mono {expireAt now now' : UInt32} (h : isExpired expireAt now = true) (hle : now ≤ now') :
    isExpired expireAt now' = true := by
  rw [isExpired_iff] at h ⊢
  exact ⟨h.1, h.2.trans ((uint32_le_iff _ _).mp hle)⟩

/-- The entry `ek` a `Save` stored is the entry of its key in `s`, or `s` has none and
    `ek` has expired at `now`. -/
def Holds (s : Freecache) (now : UInt32) (ek : Entry) : Prop :=
  s.find ek.key = some ek ∨ (s.find ek.key = none ∧ isExpired ek.expireAt now = true)

namespace Holds

variable {s s' : Freecache} {now now' : UInt32} {ek : Entry}

theorem mono (h : Holds s now ek) (hle : now ≤ now') : Holds s now' ek :=
  h.imp_right fun h => ⟨h.1, isExpired_mono h.2 hle⟩

theorem congr (h : Holds s now ek) (hf : s'.find ek.key = s.find ek.key) : Holds s' now ek := by
  unfold Holds; rw [hf]; exact h

/-- A `Load` of the key finds `ek` until it expires, and nothing after. -/
theorem load (h : Holds s now ek) (memSize : Int) :
    (Memory.mk s memSize).load now ek.key =
      if isExpired ek.expireAt now then ([], some .errNotFound) else (ek.value, none) := by
  rcases h with hf | ⟨hf, hexp⟩
  · exact Memory.load_of_find hf
  · simp [hexp, Memory.load, Freecache.get, Freecache.lookup, hf, errorsIs_self]

end Holds

/-- A copy loop from the store `cur` into `new`, with `pending` still to visit: an entry of
    `ek`'s key still to visit is `ek`, still in `cur` and not yet in `new`; once none is,
    `new` holds `ek`, or `ek` has expired. -/
structure CopyTracks (cur new : Freecache) (pending : List Entry) (now : UInt32) (ek : Entry) : Prop where
  pending_eq : ∀ e ∈ pending, e.key = ek.key → e = ek ∧ cur.find ek.key = some ek
  not_yet : (∃ e ∈ pending, e.key = ek.key) → new.find ek.key = none
  copied : (∀ e ∈ pending, e.key ≠ ek.key) → Holds new now ek

namespace CopyTracks

variable {cur new cur' new' : Freecache} {pending rest : List Entry} {now now' : UInt32} {e ek : Entry}

/-- The loop starts over the entries of `cur` with `new` empty. -/
theorem start (hcur : Holds cur now ek) (hnew : new.find ek.key = none) :
    CopyTracks cur new cur.entries now ek where
  pending_eq e he hk := by
    have hf := Freecache.find_of_mem he
    rw [hk] at hf
    rcases hcur with h | ⟨h, -⟩ <;> rw [h] at hf
    · exact ⟨(Option.some.inj hf).symm, h⟩
    · cases hf
  not_yet _ := hnew
  copied hall := hcur.elim (fun h => absurd rfl (hall ek (Freecache.mem_of_find h))) fun h => .inr ⟨hnew, h.2⟩

/-- `iter.Next()` passes over an expired entry. -/
theorem skip (h : CopyTracks cur new (e :: rest) now ek) (hexp : isExpired e.expireAt now = true) :
    CopyTracks cur new rest now ek where
  pending_eq e' he' := h.pending_eq e' (List.mem_cons_of_mem _ he')
  not_yet := fun ⟨e', he', hk⟩ => h.not_yet ⟨e', List.mem_cons_of_mem _ he', hk⟩
  copied hall := by
    by_cases hk : e.key = ek.key
    · obtain ⟨rfl, -⟩ := h.pending_eq e (List.mem_cons_self _ _) hk
      exact .inr ⟨h.not_yet ⟨e, List.mem_cons_self _ _, hk⟩, hexp⟩
    · exact h.copied (List.forall_mem_cons.mpr ⟨hk, hall⟩)

/-- A live entry is re-inserted as it is, when the new store accepts it. -/
theorem copy (h : CopyTracks cur new (e :: rest) now ek) (hlive : isExpired e.expireAt now = false)
    (hnd : ((e :: rest).map Entry.key).Nodup) (hacc : e.key = ek.key → Memory.Accepts new e) :
    CopyTracks cur (Memory.copyEntry cur now new e) rest now ek where
  pending_eq e' he' := h.pending_eq e' (List.mem_cons_of_mem _ he')
  not_yet := fun ⟨e', he', hk⟩ => by
    have hne : e.key ≠ ek.key := fun he =>
      (List.nodup_cons.mp (List.map_cons Entry.key e rest ▸ hnd)).1 (he ▸ hk ▸ List.mem_map_of_mem _ he')
    rw [Memory.copyEntry_find_of_ne hne]
    exact h.not_yet ⟨e', List.mem_cons_of_mem _ he', hk⟩
  copied hall := by
    by_cases hk : e.key = ek.key
    · obtain ⟨rfl, hf⟩ := h.pending_eq e (List.mem_cons_self _ _) hk
      have hit : e ∈ cur.iterate now := Freecache.mem_iterate.mpr ⟨Freecache.mem_of_find hf, hlive⟩
      rw [Memory.copyEntry_live hit (hacc rfl).1 (hacc rfl).2]
      exact .inl (by rw [Freecache.find_insert, if_pos rfl])
    · exact (h.copied (List.forall_mem_cons.mpr ⟨hk, hall⟩)).congr (Memory.copyEntry_find_of_ne hk)

theorem congr (h : CopyTracks cur new pending now ek) (hc : cur'.find ek.key = cur.find ek.key)
    (hn : new'.find ek.key = new.find ek.key) : CopyTracks cur' new' pending now ek where
  pending_eq e he hk := by rw [hc]; exact h.pending_eq e he hk
  not_yet hex := by rw [hn]; exact h.not_yet hex
  copied hall := (h.copied hall).congr hn

theorem mono (h : CopyTracks cur new pending now ek) (hle : now ≤ now') : CopyTracks cur new pending now' ek :=
  ⟨h.pending_eq, h.not_yet, fun hall => (h.copied hall).mono hle⟩

end CopyTracks

/-- The entry `ek` a `Save` stored is where a `Load` looks for it: in the current store,
    unless expired; and where a resize in progress will look for it. -/
structure Tracks (m : MemoryRun) (ek : Entry) : Prop where
  cur : Holds m.current m.now ek
  copying : ∀ t old target ws, m.handle.pcs t = .writing old target ws →
    m.handle.fields.client.id < target.client.id →
    CopyTracks m.current (m.stores target.client.id) (m.pending t) m.now ek

variable {ek : Entry}

theorem Tracks.frame (ht : Tracks m ek) (hf : m'.handle.fields = m.handle.fields) (hs : m'.stores = m.stores)
    (hn : m'.now = m.now) (hp : m'.pending = m.pending)
    (hw : ∀ u old target ws, m'.handle.pcs u = .writing old target ws → m.handle.pcs u = .writing old target ws) :
    Tracks m' ek := by
  have hc : m'.current = m.current := by simp only [current, hs, hf]
  refine ⟨hc ▸ hn ▸ ht.cur, fun u o tg ws h hlt => ?_⟩
  rw [hc, hs, hn, hp]
  exact ht.copying u o tg ws (hw u o tg ws h) (hf ▸ hlt)

/-- **The entry stays tracked along a step that keeps it.** Every step whose recorded
    call, if any, leaves the entry of `ek`'s key as it was keeps `ek` tracked. -/
theorem Tracks.step (hi : Inv config m) (ht : Tracks m ek) (hs : Step m m')
    (hkeep : ∀ ev, m'.log = m.log ++ [ev] → ev.keeps ek.key = true) : Tracks m' ek := by
  cases hs with
  | rLock | read | load | rUnlock | release | unlock =>
    exact ht.frame rfl rfl rfl rfl fun _ _ _ _ h => writing_of_update h rfl
  | save t seen hpc key value expire =>
    have hk := hkeep _ rfl
    simp only [MemEvent.keeps, Bool.or_eq_true, bne_iff_ne, ne_eq] at hk
    have hfind : (m.cache.save m.now key value expire).2.client.find ek.key = m.current.find ek.key := by
      rcases hk with hne | hsome
      · exact Memory.find_save_of_ne hne
      · rw [Memory.save_of_refused (Option.isSome_iff_ne_none.mp hsome)]; rfl
    refine ⟨?_, fun u o tg ws h _ => absurd (hi.lock.no_writer hpc u) (by simp [writing_of_update h rfl])⟩
    simpa only [current, readBy, Function.update_same] using ht.cur.congr hfind
  | lock t c hidle hfree =>
    have hcur : (if (MemoryFields.lockSection c m.handle.created m.handle.fields).isEmpty then m.stores
        else Function.update m.stores m.handle.created
          (Freecache.newCache (Memory.changedMemSize c.1 c.2).toNat)) m.handle.fields.client.id = m.current := by
      split_ifs
      · rfl
      · exact Function.update_noteq hi.ids.ne _ _
    refine ⟨by simpa only [current, hcur] using ht.cur, fun u o tg ws h hlt => ?_⟩
    obtain ⟨rfl, hw⟩ | ⟨hne, hw⟩ := update_eq_cases h
    · obtain ⟨rfl, rfl, rfl⟩ := Reload.Pc.writing.inj hw
      rcases MemoryFields.lockSection_cases c m.handle.created m.handle.fields with hsec | ⟨sz, ms, hsec⟩
      · simp [hsec] at hlt
      · simp only [current, hcur]
        simp only [hsec, List.isEmpty_cons, Bool.false_eq_true, if_false, Function.update_same,
          applyWrites_cons, applyWrites_nil]
        exact CopyTracks.start ht.cur rfl
    · simpa [hw] using hfree u
  | copySkip t old target ws e rest hpc hp hexp =>
    refine ⟨ht.cur, fun u o tg ws' h hlt => ?_⟩
    rcases eq_or_ne u t with rfl | hne
    · obtain ⟨rfl, rfl, rfl⟩ : old = o ∧ target = tg ∧ ws = ws' := by simpa [hpc] using h
      simp only [Function.update_same]
      exact (hp ▸ ht.copying u old target ws hpc hlt).skip hexp
    · simp only [Function.update_noteq hne]
      exact ht.copying u o tg ws' h hlt
  | copy t old target ws e rest hpc hp hlive =>
    obtain ⟨hnil, -⟩ | ⟨rfl, hlt, -, hnd, -⟩ := hi.phase t old target ws hpc
    · simp [hp] at hnil
    have hk := hkeep _ rfl
    simp only [MemEvent.keeps, Bool.or_eq_true, bne_iff_ne, ne_eq, decide_eq_true_eq] at hk
    refine ⟨by simpa only [current, Function.update_noteq hlt.ne] using ht.cur, fun u o tg ws' h hlt' => ?_⟩
    rcases eq_or_ne u t with rfl | hne
    · obtain ⟨rfl, rfl, rfl⟩ : m.handle.fields = o ∧ target = tg ∧ ws = ws' := by simpa [hpc] using h
      simp only [current, Function.update_noteq hlt.ne, Function.update_same]
      exact (hp ▸ ht.copying u _ target ws hpc hlt).copy hlive (hp ▸ hnd) fun he => hk.resolve_left (not_not.mpr he)
    · have h' : m.handle.pcs u = .writing o tg ws' := h
      simpa [h'] using hi.lock.writer_unique hpc hne
  | write t old target w ws hpc hdone =>
    have hclient : (w m.handle.fields).client = target.client ∧ Holds (m.stores target.client.id) m.now ek ∨
        (w m.handle.fields).client = m.handle.fields.client ∧ target.client = m.handle.fields.client := by
      rcases hi.phase t old target (w :: ws) hpc with ⟨-, hcl, hws⟩ | ⟨-, hlt, -, -, ms, hws⟩
      · obtain ⟨ms, hws⟩ := hws.resolve_left (List.cons_ne_nil _ _)
        obtain ⟨rfl, rfl⟩ := List.cons.inj hws
        exact .inr ⟨rfl, hcl⟩
      · obtain ⟨rfl, rfl⟩ := List.cons.inj hws
        exact .inl ⟨rfl, (ht.copying t old target _ hpc hlt).copied (by simp [hdone])⟩
    refine ⟨?_, fun u o tg ws' h hlt => ?_⟩
    · rcases hclient with ⟨hcl, hhold⟩ | ⟨hcl, -⟩ <;> simp only [current, hcl]
      · exact hhold
      · exact ht.cur
    · obtain ⟨rfl, hw⟩ | ⟨hne, hw⟩ := update_eq_cases h
      · obtain ⟨rfl, rfl, rfl⟩ := Reload.Pc.writing.inj hw
        rcases hclient with ⟨hcl, -⟩ | ⟨hcl, hcl'⟩
        · simp [hcl] at hlt
        · simp [hcl, hcl'] at hlt
      · exact absurd (hi.lock.writer_unique hpc hne) (by simp [hw])
  | evict id key =>
    have hk : key ≠ ek.key := by simpa [MemEvent.keeps] using hkeep _ rfl
    have hf : ∀ j, (Function.update m.stores id ((m.stores id).evict key) j).find ek.key =
        (m.stores j).find ek.key := fun j => by
      rcases eq_or_ne j id with rfl | hj
      · simp [Freecache.evict, Freecache.find_del, hk]
      · rw [Function.update_noteq hj]
    exact ⟨ht.cur.congr (hf _), fun u o tg ws h hlt => (ht.copying u o tg ws h hlt).congr (hf _) (hf _)⟩
  | tick now hle => exact ⟨ht.cur.mono hle, fun u o tg ws h hlt => (ht.copying u o tg ws h hlt).mono hle⟩

/-- The step that records a `Save` of `expire ≥ 0` returning nil tracks the entry it stored. -/
theorem Tracks.of_save (hi : Inv config m) (hs : Step m m') {key : String} {value : Bytes}
    {expire : Duration} {now : UInt32} (hlog : m'.log = m.log ++ [.save key value expire now none])
    (hexp : 0 ≤ expire) : Tracks m' ⟨key, value, savedExpireAt now expire⟩ := by
  cases hs <;> simp at hlog
  rename_i t seen hpc _ _ _
  obtain ⟨rfl, rfl, rfl, rfl, hok⟩ := hlog
  refine ⟨?_, fun u o tg ws h _ => absurd (hi.lock.no_writer hpc u) (by simp [writing_of_update h rfl])⟩
  simpa only [current, readBy, Function.update_same] using .inl (Memory.find_save hexp hok)

/-- The step that records a `Load` of `ek`'s key, with `ek` tracked, returned `ek`'s value
    until it expires, and `ErrNotFound` after. -/
theorem Tracks.load_event (ht : Tracks m ek) (hs : Step m m') {now : UInt32} {r : Bytes × Option GoError}
    (hlog : m'.log = m.log ++ [.load ek.key now r]) :
    r = if isExpired ek.expireAt now then ([], some .errNotFound) else (ek.value, none) := by
  cases hs <;> simp at hlog
  obtain ⟨hk, rfl, rfl⟩ := hlog
  rw [hk]
  exact ht.cur.load _

/-! ### No `Save` is lost -/

/-- Every `Save` of `expire ≥ 0` that returned nil, followed by no call that changes the
    entry of its key, is tracked. -/
def SavesTracked (m : MemoryRun) : Prop :=
  ∀ pre key value expire now mid, m.log = pre ++ .save key value expire now none :: mid → 0 ≤ expire →
    (∀ ev ∈ mid, ev.keeps key = true) → Tracks m ⟨key, value, savedExpireAt now expire⟩

/-- Every `Load` of a key after a `Save` of `expire ≥ 0` that returned nil, with no call
    between them that changes the entry of the key, returned the value saved until its
    `expireAt`, and `ErrNotFound` from then on. -/
def LoadsOk (m : MemoryRun) : Prop :=
  ∀ pre key value expire now mid now' r post,
    m.log = pre ++ .save key value expire now none :: (mid ++ .load key now' r :: post) → 0 ≤ expire →
    (∀ ev ∈ mid, ev.keeps key = true) →
    r = if isExpired (savedExpireAt now expire) now' then ([], some .errNotFound) else (value, none)

/-- Where a split of a log one call longer falls: at that call, or in the log before. -/
theorem concat_eq_append_cons {α : Type} {l pre mid : List α} {x ev : α} (h : l ++ [ev] = pre ++ x :: mid) :
    (mid = [] ∧ x = ev ∧ pre = l) ∨ ∃ mid', mid = mid' ++ [ev] ∧ l = pre ++ x :: mid' := by
  rcases List.eq_nil_or_concat mid with rfl | ⟨mid', y, rfl⟩
  · obtain ⟨h1, h2⟩ := List.append_inj' h rfl
    exact .inl ⟨rfl, (List.singleton_inj.mp h2).symm, h1.symm⟩
  · rw [List.concat_eq_append, ← List.cons_append, ← List.append_assoc] at h
    obtain ⟨h1, h2⟩ := List.append_inj' h rfl
    exact .inr ⟨mid', by rw [List.singleton_inj.mp h2, List.concat_eq_append], h1⟩

theorem SavesTracked.step (hi : Inv config m) (hst : SavesTracked m) (hs : Step m m') : SavesTracked m' := by
  intro pre key value expire now mid hlog hexp hkeep
  rcases hs.log_cases with heq | ⟨ev, heq⟩
  · exact (hst _ _ _ _ _ _ (heq ▸ hlog) hexp hkeep).step hi hs fun ev h => by simp [heq] at h
  · rw [heq] at hlog
    rcases concat_eq_append_cons hlog with ⟨rfl, rfl, rfl⟩ | ⟨mid', rfl, hlog'⟩
    · exact Tracks.of_save hi hs heq hexp
    · refine (hst _ _ _ _ _ _ hlog' hexp fun e he => hkeep e (List.mem_append_left _ he)).step hi hs
        fun ev' h => ?_
      obtain rfl : ev = ev' := List.singleton_inj.mp (List.append_cancel_left (heq.symm.trans h))
      exact hkeep ev (List.mem_append_right _ (List.mem_singleton_self _))

theorem LoadsOk.step (hst : SavesTracked m) (hl : LoadsOk m) (hs : Step m m') : LoadsOk m' := by
  intro pre key value expire now mid now' r post hlog hexp hkeep
  rcases hs.log_cases with heq | ⟨ev, heq⟩
  · exact hl _ _ _ _ _ _ _ _ _ (heq ▸ hlog) hexp hkeep
  · rw [heq, show pre ++ MemEvent.save key value expire now none :: (mid ++ .load key now' r :: post) =
      (pre ++ .save key value expire now none :: mid) ++ .load key now' r :: post by simp] at hlog
    rcases concat_eq_append_cons hlog with ⟨rfl, rfl, hpre⟩ | ⟨post', rfl, hlog'⟩
    · exact (hst _ _ _ _ _ _ hpre.symm hexp hkeep).load_event hs heq
    · exact hl pre key value expire now mid now' r post' (by rw [hlog']; simp) hexp hkeep

/-- **The invariants hold along every run.** -/
theorem Reachable.invs {now₀ : UInt32} (hr : Reachable config now₀ m) :
    Inv config m ∧ SavesTracked m ∧ LoadsOk m := by
  induction hr with
  | init => exact ⟨inv_init config now₀, fun _ _ _ _ _ _ h => by simp [MemoryRun.init] at h,
      fun _ _ _ _ _ _ _ _ _ h => by simp [MemoryRun.init] at h⟩
  | step _ hs ih => exact ⟨ih.1.step hs, ih.2.1.step ih.1 hs, ih.2.2.step ih.2.1 hs⟩

/-! ### A whole `onConfigChange` is `Memory.onConfigChange` -/

/-- The copy loop over `entries` in order, every iteration at `now`: `iter.Next()` passes
    over the expired entries, and each live one is copied. -/
def copyLoop (oldClient : Freecache) (now : UInt32) (newClient : Freecache) (entries : List Entry) :
    Freecache :=
  entries.foldl (fun nc e => if isExpired e.expireAt now then nc else Memory.copyEntry oldClient now nc e) newClient

/-- Over the old store's entries, the loop is `Memory.copyEntries`, the loop over the
    iterator at one clock reading. -/
theorem copyLoop_entries (c nc : Freecache) (now : UInt32) :
    copyLoop c now nc c.entries = Memory.copyEntries c now nc := by
  suffices ∀ l nc, copyLoop c now nc l = (l.filter fun e => e.expireAt == 0 || e.expireAt > now).foldl
      (Memory.copyEntry c now) nc from this _ _
  intro l
  induction l with
  | nil => intro; rfl
  | cons e l ih =>
    intro nc
    rw [List.filter_cons, Freecache.iterate_test]
    by_cases h : isExpired e.expireAt now <;> simp only [copyLoop, List.foldl_cons, h, if_true, if_false,
      Bool.not_true, Bool.not_false, Bool.false_eq_true] at ih ⊢ <;> exact ih _

/-- The copy loop of goroutine `t` run to its end at the current clock reading. -/
theorem Reachable.copies {now₀ : UInt32} {t : Nat} {old target : MemoryFields}
    {ws : List (MemoryFields → MemoryFields)} (hne : old.client.id ≠ target.client.id) :
    ∀ (l : List Entry) {m : MemoryRun}, Reachable config now₀ m → m.handle.pcs t = .writing old target ws →
      m.pending t = l → ∃ m', Reachable config now₀ m' ∧ m'.handle = m.handle ∧ m'.now = m.now ∧
        m'.pending = Function.update m.pending t [] ∧
        m'.stores = Function.update m.stores target.client.id
          (copyLoop (m.stores old.client.id) m.now (m.stores target.client.id) l)
  | [], m, hr, _, hp => ⟨m, hr, rfl, rfl, by rw [← hp, Function.update_eq_self],
      by rw [copyLoop, List.foldl_nil, Function.update_eq_self]⟩
  | e :: rest, m, hr, hpc, hp => by
    by_cases hexp : isExpired e.expireAt m.now
    · obtain ⟨m', hr', hh, hn, hp', hs'⟩ :=
        Reachable.copies hne rest (hr.step (.copySkip t old target ws e rest hpc hp hexp)) hpc
          (Function.update_same _ _ _)
      refine ⟨m', hr', hh, hn, by rw [hp', Function.update_idem], ?_⟩
      rw [hs']
      simp [copyLoop, hexp]
    · obtain ⟨m', hr', hh, hn, hp', hs'⟩ :=
        Reachable.copies hne rest (hr.step (.copy t old target ws e rest hpc hp (by simpa using hexp))) hpc
          (Function.update_same _ _ _)
      refine ⟨m', hr', hh, hn, by rw [hp', Function.update_idem], ?_⟩
      rw [hs']
      simp [copyLoop, hexp, Function.update_noteq hne]

/-- The writes of a locked section, one step each, once the copy loop is done. -/
theorem Reachable.writes {now₀ : UInt32} (t : Nat) (old target : MemoryFields) :
    ∀ (ws : List (MemoryFields → MemoryFields)) {m : MemoryRun}, Reachable config now₀ m →
      m.handle.pcs t = .writing old target ws → m.pending t = [] →
      Reachable config now₀ { m with handle := { m.handle with
        fields := applyWrites ws m.handle.fields, pcs := Function.update m.handle.pcs t (.writing old target []) } }
  | [], m, hr, hpc, _ => by rw [← hpc, Function.update_eq_self]; exact hr
  | w :: ws, m, hr, hpc, hp => by
    have := Reachable.writes t old target ws (hr.step (.write t old target w ws hpc hp)) (by simp) hp
    rwa [Function.update_idem] at this

/-- **`onConfigChange` run whole is `Memory.onConfigChange`.** From a state where no
    goroutine is in the cache, one goroutine's whole `onConfigChange` for the change `c`,
    at one clock reading, leaves the cache that `Memory.onConfigChange` returns: the same,
    or a store of the new size holding the copy of the old store's live entries. -/
theorem Reachable.onConfigChange {now₀ : UInt32} (hr : Reachable config now₀ m)
    (hidle : ∀ u, m.handle.pcs u = .idle) (t : Nat) (c : Config × List String) :
    ∃ m', Reachable config now₀ m' ∧ m'.cache = m.cache.onConfigChange m.now c.1 c.2 ∧ m'.now = m.now ∧
      ∀ u, m'.handle.pcs u = .idle := by
  set sec := MemoryFields.lockSection c m.handle.created m.handle.fields with hsec
  have h₁ := hr.step (.lock t c (hidle t) fun u => by simp [hidle u, Reload.Pc.holdsLock])
  obtain ⟨m₂, hr₂, hpc₂, hf₂, hn₂, hp₂, hcache⟩ : ∃ m₂, Reachable config now₀ m₂ ∧
      m₂.handle.pcs = Function.update m.handle.pcs t
        (.writing m.handle.fields (applyWrites sec m.handle.fields) sec) ∧
      m₂.handle.fields = m.handle.fields ∧ m₂.now = m.now ∧ m₂.pending t = [] ∧
      (⟨m₂.stores (applyWrites sec m.handle.fields).client.id, (applyWrites sec m.handle.fields).memSize⟩ :
        Memory) = m.cache.onConfigChange m.now c.1 c.2 := by
    by_cases hres : Memory.changedMemSize c.1 c.2 ≠ 0 ∧ Memory.changedMemSize c.1 c.2 ≠ m.handle.fields.memSize
    · have hsec' := MemoryFields.lockSection_of_resize (n := m.handle.created) hres.1 hres.2
      have hE : sec.isEmpty = false := by rw [hsec, hsec']; rfl
      simp only [← hsec, hE, Bool.false_eq_true, if_false] at h₁
      have hne := hr.invs.1.ids.ne
      obtain ⟨m₂, hr₂, hh₂, hn₂, hp₂, hs₂⟩ := @Reachable.copies _ _ t m.handle.fields
        (applyWrites sec m.handle.fields) sec (by rw [hsec, hsec']; exact hne) m.current.entries _ h₁
        (by simp) (by simp)
      refine ⟨m₂, hr₂, by rw [hh₂], by rw [hh₂], hn₂, by rw [hp₂]; simp, ?_⟩
      have htgt : (applyWrites sec m.handle.fields).client.id = m.handle.created := by rw [hsec, hsec']; rfl
      have hms : (applyWrites sec m.handle.fields).memSize = Memory.changedMemSize c.1 c.2 := by
        rw [hsec, hsec']; rfl
      rw [hs₂, Function.update_same]
      dsimp only
      rw [htgt, hms, Function.update_same, Function.update_noteq hne]
      simp only [current, copyLoop_entries]
      simp [Memory.onConfigChange, cache, current, hres.1, hres.2]
    · have hsec' := MemoryFields.lockSection_of_not_resize (n := m.handle.created) hres
      have hE : sec.isEmpty = true := by rw [hsec, hsec']; rfl
      simp only [← hsec, hE, if_true] at h₁
      refine ⟨_, h₁, rfl, rfl, rfl, by simp, ?_⟩
      simp only [hsec, hsec', applyWrites_nil, Memory.onConfigChange]
      split_ifs <;> simp_all [cache, current]
  have h₆ := ((Reachable.writes t m.handle.fields (applyWrites sec m.handle.fields) sec hr₂ (by rw [hpc₂]; simp)
    hp₂).step (.unlock t m.handle.fields (applyWrites sec m.handle.fields) (by simp))).step
      (.release t m.handle.fields (by simp))
  refine ⟨_, h₆, by simpa only [cache, current, hf₂] using hcache, hn₂, fun u => ?_⟩
  rcases eq_or_ne u t with rfl | hne
  · simp
  · simp [Function.update_noteq hne, hpc₂, hidle u]

end MemoryRun

end Xcache
