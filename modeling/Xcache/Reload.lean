import Xcache.Basic
import Mathlib.Data.List.Chain
import Mathlib.Data.List.Nodup
import Mathlib.Logic.Function.Basic

namespace Xcache

/-!
# xcache — live reconfiguration under the `RWMutex`

A cache built by `New*WithConfig` keeps the fields a reconfiguration replaces behind
`mu *sync.RWMutex`: every call (`Save`, `Load`, `TTL`, `Stats`, `Close`) reads them and
issues its commands under `RLock`, and `onConfigChange` rewrites them, one field at a
time, under `Lock`; `Redis6` and `Redis7` then close the replaced client after `Unlock`.

Any number of goroutines do so at once, interleaved step by step:

* `Reloadable` — what an instance supplies: its fields, the client they point to, and
  the field writes of the locked section of `onConfigChange`;
* `Reload.Pc`, `Reload.Handle`, `Reload.Step`, `Reload.Reachable` — the goroutines, the
  shared state (with ghost records of the versions installed and the clients closed),
  and the steps of each;
* `Reload.Inv` — every call under `RLock` has read only the current fields, which are the
  last version installed, and every version was installed whole by one locked section;
* `Reload.ClosedInv` — for an instance that installs a fresh client every time and
  closes the replaced one, the clients closed so far, and which of them are open;
* `Reload.reading_one_version`, `Reload.reading_open` — what a call reads, over every run.

Go's `RWMutex` also keeps new readers out while a `Lock` waits; the steps here allow
those interleavings too, so what holds here holds of the program.
-/

/-- Runs the field writes of a locked section, in order. -/
def applyWrites {σ : Type} (ws : List (σ → σ)) (s : σ) : σ := ws.foldl (fun s w => w s) s

@[simp] theorem applyWrites_nil {σ : Type} (s : σ) : applyWrites [] s = s := rfl
@[simp] theorem applyWrites_cons {σ : Type} (w : σ → σ) (ws : List (σ → σ)) (s : σ) :
    applyWrites (w :: ws) s = applyWrites ws (w s) := rfl

/-- A cache whose fields `σ` are replaced by `onConfigChange` for a change `κ`. -/
structure Reloadable (σ κ : Type) where
  /-- The client (or store) the fields point to, by the order of its creation. -/
  clientOf : σ → Nat
  /-- The field writes of the locked section of `onConfigChange`, for the change `c`,
      given the client it created and the fields it finds under the lock. -/
  lockSection : κ → Nat → σ → List (σ → σ)
  /-- Whether `onConfigChange` closes the replaced client after `Unlock`. -/
  closesOld : Bool
  /-- What the fields of one version satisfy together. -/
  good : σ → Prop
  /-- A locked section run whole installs a good version. -/
  good_lockSection : ∀ c n s, good s → good (applyWrites (lockSection c n s) s)

namespace Reload

variable {σ κ : Type}

/-- What one goroutine is doing with the cache. -/
inductive Pc (σ : Type) where
  /-- Outside the cache. -/
  | idle
  /-- In a call, holding the read lock: the versions of the fields it has read. -/
  | reading (seen : List σ)
  /-- In `onConfigChange`, holding the write lock: the version it found (`old`), the one
      its section installs (`target`, ghost), and the writes it has left. -/
  | writing (old target : σ) (writes : List (σ → σ))
  /-- In `onConfigChange` after `Unlock`, about to close the client of `old`. -/
  | releasing (old : σ)

namespace Pc

/-- Holds the write lock. -/
def isWriting : Pc σ → Bool
  | writing .. => true
  | _ => false

/-- Holds the read lock or the write lock. -/
def holdsLock : Pc σ → Bool
  | reading _ => true
  | writing .. => true
  | _ => false

@[simp] theorem isWriting_writing (old target : σ) (ws : List (σ → σ)) :
    (writing old target ws).isWriting = true := rfl
@[simp] theorem holdsLock_reading (seen : List σ) : (reading seen).holdsLock = true := rfl
@[simp] theorem holdsLock_writing (old target : σ) (ws : List (σ → σ)) :
    (writing old target ws).holdsLock = true := rfl

theorem isWriting_of_holdsLock {p : Pc σ} (h : p.holdsLock = false) : p.isWriting = false := by
  cases p <;> simp_all [isWriting, holdsLock]

end Pc

/-- The cache shared by the goroutines: its fields and what each goroutine is doing,
    with the clients created so far and three ghost records: the versions installed
    (by the constructor, then by each `onConfigChange`), the client of every `Close`
    call, and whether the cache's own `Close` has been called. -/
structure Handle (σ : Type) where
  fields : σ
  pcs : Nat → Pc σ
  created : Nat
  installed : List σ
  closes : List Nat
  cacheClosed : Bool

/-- The cache `New*WithConfig` returns, with the fields `s₀`. -/
def Handle.init (R : Reloadable σ κ) (s₀ : σ) : Handle σ where
  fields := s₀
  pcs := fun _ => .idle
  created := R.clientOf s₀ + 1
  installed := [s₀]
  closes := []
  cacheClosed := false

/-- One step of one goroutine `t`. -/
inductive Step (R : Reloadable σ κ) : Handle σ → Handle σ → Prop
  /-- `rLock` at the start of a call: waits while a goroutine writes. -/
  | rLock {h : Handle σ} (t : Nat) (hidle : h.pcs t = .idle)
      (hfree : ∀ u, (h.pcs u).isWriting = false) :
      Step R h { h with pcs := Function.update h.pcs t (.reading []) }
  /-- The call reads a field (and issues a command on the client it points to). -/
  | read {h : Handle σ} (t : Nat) (seen : List σ) (hpc : h.pcs t = .reading seen) :
      Step R h { h with pcs := Function.update h.pcs t (.reading (seen ++ [h.fields])) }
  /-- The cache's own `Close`: `client.Close()` under the read lock. -/
  | close {h : Handle σ} (t : Nat) (seen : List σ) (hpc : h.pcs t = .reading seen) :
      Step R h { h with
        pcs := Function.update h.pcs t (.reading (seen ++ [h.fields]))
        closes := h.closes ++ [R.clientOf h.fields]
        cacheClosed := true }
  /-- `rUnlock` at the end of the call. -/
  | rUnlock {h : Handle σ} (t : Nat) (seen : List σ) (hpc : h.pcs t = .reading seen) :
      Step R h { h with pcs := Function.update h.pcs t .idle }
  /-- `onConfigChange` for the change `c`, with the client it created, takes `mu.Lock()`:
      waits while any goroutine holds the lock. -/
  | lock {h : Handle σ} (t : Nat) (c : κ) (hidle : h.pcs t = .idle)
      (hfree : ∀ u, (h.pcs u).holdsLock = false) :
      Step R h { h with
        pcs := Function.update h.pcs t (.writing h.fields
          (applyWrites (R.lockSection c h.created h.fields) h.fields) (R.lockSection c h.created h.fields))
        created := h.created + 1 }
  /-- One field write of the locked section. -/
  | write {h : Handle σ} (t : Nat) (old target : σ) (w : σ → σ) (ws : List (σ → σ))
      (hpc : h.pcs t = .writing old target (w :: ws)) :
      Step R h { h with fields := w h.fields, pcs := Function.update h.pcs t (.writing old target ws) }
  /-- `mu.Unlock()`: the fields written are the new version. -/
  | unlock {h : Handle σ} (t : Nat) (old target : σ) (hpc : h.pcs t = .writing old target []) :
      Step R h { h with
        pcs := Function.update h.pcs t (.releasing old)
        installed := h.installed ++ [h.fields] }
  /-- `oldClient.Close()` where the instance does so, then `onConfigChange` returns. -/
  | release {h : Handle σ} (t : Nat) (old : σ) (hpc : h.pcs t = .releasing old) :
      Step R h { h with
        pcs := Function.update h.pcs t .idle
        closes := if R.closesOld then h.closes ++ [R.clientOf old] else h.closes }

/-- The states of every run from the cache `New*WithConfig` returns. -/
inductive Reachable (R : Reloadable σ κ) (s₀ : σ) : Handle σ → Prop
  | init : Reachable R s₀ (Handle.init R s₀)
  | step {h h' : Handle σ} : Reachable R s₀ h → Step R h h' → Reachable R s₀ h'

/-- `new` is what one locked section, run whole, installs over `old`. -/
def Installs (R : Reloadable σ κ) (old new : σ) : Prop :=
  ∃ c n, new = applyWrites (R.lockSection c n old) old

/-! ### Every call reads one installed version -/

/-- The invariant of the lock: a writer excludes every other holder; a reader has read
    only the current fields; the current fields are the last version installed unless a
    writer is in its section, which then runs from that version to its target; and each
    version installed is the constructor's, then one whole section over the one before. -/
structure Inv (R : Reloadable σ κ) (s₀ : σ) (h : Handle σ) : Prop where
  exclusive : ∀ t u, (h.pcs t).isWriting = true → u ≠ t → (h.pcs u).holdsLock = false
  seen_fields : ∀ t seen, h.pcs t = .reading seen → ∀ v ∈ seen, v = h.fields
  last_idle : (∀ t, (h.pcs t).isWriting = false) → h.installed.getLast? = some h.fields
  last_writing : ∀ t old target ws, h.pcs t = .writing old target ws →
    h.installed.getLast? = some old ∧ applyWrites ws h.fields = target ∧ Installs R old target
  head : h.installed.head? = some s₀
  chain : h.installed.Chain' (Installs R)

variable {R : Reloadable σ κ} {s₀ : σ} {h : Handle σ}

theorem inv_init : Inv R s₀ (Handle.init R s₀) where
  exclusive _ _ h := by simp [Handle.init, Pc.isWriting] at h
  seen_fields _ _ h := by simp [Handle.init] at h
  last_idle _ := rfl
  last_writing _ _ _ _ h := by simp [Handle.init] at h
  head := rfl
  chain := List.chain'_singleton _

/-- While a goroutine holds the read lock, none writes. -/
theorem Inv.no_writer {t : Nat} {seen : List σ} (hi : Inv R s₀ h) (hpc : h.pcs t = .reading seen) :
    ∀ u, (h.pcs u).isWriting = false := by
  intro u
  by_contra hw
  have hut : t ≠ u := by rintro rfl; simp [hpc, Pc.isWriting] at hw
  simpa [hpc] using hi.exclusive u t (by simpa using hw) hut

/-- A writer is the only goroutine in its section. -/
theorem Inv.writer_unique {t u : Nat} {old target : σ} {ws : List (σ → σ)} (hi : Inv R s₀ h)
    (hpc : h.pcs t = .writing old target ws) (hu : u ≠ t) : (h.pcs u).holdsLock = false :=
  hi.exclusive t u (by simp [hpc]) hu

/-- A writer `t` that finds every other goroutine outside the lock has it alone. -/
theorem exclusive_update {pcs : Nat → Pc σ} {t : Nat} {p : Pc σ}
    (hother : ∀ u, u ≠ t → (pcs u).holdsLock = false) (t' u : Nat)
    (hw : (Function.update pcs t p t').isWriting = true) (hu : u ≠ t') :
    (Function.update pcs t p u).holdsLock = false := by
  rcases eq_or_ne t' t with rfl | ht
  · rw [Function.update_noteq hu]; exact hother u hu
  · rw [Function.update_noteq ht] at hw
    simp [Pc.isWriting_of_holdsLock (hother t' ht)] at hw

/-- A step that only moves goroutine `t` between idle and reading keeps the invariant. -/
theorem Inv.of_reader {t : Nat} {p : Pc σ} (hi : Inv R s₀ h) (hnw : ∀ u, (h.pcs u).isWriting = false)
    (hp : p = .idle ∨ ∃ seen, p = .reading seen ∧ ∀ v ∈ seen, v = h.fields) (cl : List Nat) (b : Bool) :
    Inv R s₀ { h with pcs := Function.update h.pcs t p, closes := cl, cacheClosed := b } := by
  have hnw' : ∀ u, (Function.update h.pcs t p u).isWriting = false := by
    intro u
    rcases eq_or_ne u t with rfl | hu
    · rcases hp with rfl | ⟨seen, rfl, -⟩ <;> simp [Pc.isWriting]
    · rw [Function.update_noteq hu]; exact hnw u
  refine ⟨fun t' _ hw => by simp [hnw' t'] at hw, fun u seen hu => ?_, fun _ => hi.last_idle hnw,
    fun u _ _ _ hu => absurd (hnw' u) (by simp [show Function.update h.pcs t p u = _ from hu]),
    hi.head, hi.chain⟩
  obtain ⟨-, rfl⟩ | ⟨-, hu⟩ := update_eq_cases hu
  · rcases hp with hp | ⟨_, hp, hseen⟩ <;> cases hp
    exact hseen
  · exact hi.seen_fields u seen hu

/-- A reader's versions, with the current fields read once more. -/
theorem Inv.seen_append {t : Nat} {seen : List σ} (hi : Inv R s₀ h) (hpc : h.pcs t = .reading seen) :
    ∀ v ∈ seen ++ [h.fields], v = h.fields := by
  intro v hv
  rcases List.mem_append.mp hv with hv | hv
  · exact hi.seen_fields t seen hpc v hv
  · simpa using hv

/-- `lock` finds no holder: the writer is alone, and its section starts from the current
    fields, the last version installed. -/
theorem Inv.lock (hi : Inv R s₀ h) {t : Nat} (hfree : ∀ u, (h.pcs u).holdsLock = false) {target : σ}
    {ws : List (σ → σ)} (happ : applyWrites ws h.fields = target) (hins : Installs R h.fields target)
    (cr : Nat) :
    Inv R s₀ { h with pcs := Function.update h.pcs t (.writing h.fields target ws), created := cr } := by
  have hnw u := Pc.isWriting_of_holdsLock (hfree u)
  refine ⟨exclusive_update fun u _ => hfree u, fun u seen hu => ?_, fun hall => by simpa using hall t,
    fun u old target' ws' hu => ?_, hi.head, hi.chain⟩
  · obtain ⟨-, ⟨⟩⟩ | ⟨-, hu⟩ := update_eq_cases hu
    exact absurd (hfree u) (by simp [hu])
  · obtain ⟨-, ⟨⟩⟩ | ⟨-, hu⟩ := update_eq_cases hu
    · exact ⟨hi.last_idle hnw, happ, hins⟩
    · exact absurd (hnw u) (by simp [hu])

/-- A field write: the writer stays alone, one write nearer its target. -/
theorem Inv.write (hi : Inv R s₀ h) {t : Nat} {old target : σ} {w : σ → σ} {ws : List (σ → σ)}
    (hpc : h.pcs t = .writing old target (w :: ws)) :
    Inv R s₀ { h with fields := w h.fields, pcs := Function.update h.pcs t (.writing old target ws) } := by
  obtain ⟨hlast, happ, hins⟩ := hi.last_writing t old target _ hpc
  refine ⟨exclusive_update fun u hu => hi.writer_unique hpc hu, fun u seen hu => ?_,
    fun hall => by simpa using hall t, fun u old' target' ws' hu => ?_, hi.head, hi.chain⟩
  · obtain ⟨-, ⟨⟩⟩ | ⟨hne, hu⟩ := update_eq_cases hu
    exact absurd (hi.writer_unique hpc hne) (by simp [hu])
  · obtain ⟨-, ⟨⟩⟩ | ⟨hne, hu⟩ := update_eq_cases hu
    · exact ⟨hlast, happ, hins⟩
    · exact absurd (hi.writer_unique hpc hne) (by simp [hu])

/-- `Unlock`: the fields written, the writer's target, are the next version installed. -/
theorem Inv.unlock (hi : Inv R s₀ h) {t : Nat} {old target : σ} (hpc : h.pcs t = .writing old target []) :
    Inv R s₀ { h with
      pcs := Function.update h.pcs t (.releasing old)
      installed := h.installed ++ [h.fields] } := by
  obtain ⟨hlast, happ, hins⟩ := hi.last_writing t old target _ hpc
  have hnw : ∀ u, (Function.update h.pcs t (.releasing old) u).isWriting = false := fun u => by
    rcases eq_or_ne u t with rfl | hne
    · simp [Pc.isWriting]
    · rw [Function.update_noteq hne]; exact Pc.isWriting_of_holdsLock (hi.writer_unique hpc hne)
  refine ⟨fun t' _ hw => by simp [hnw t'] at hw, fun u seen hu => ?_, fun _ => List.getLast?_concat _,
    fun u _ _ _ hu => absurd (hnw u) (by simp [show Function.update h.pcs t _ u = _ from hu]), ?_, ?_⟩
  · obtain ⟨-, ⟨⟩⟩ | ⟨hne, hu⟩ := update_eq_cases hu
    exact absurd (hi.writer_unique hpc hne) (by simp [hu])
  · rw [List.head?_append_of_ne_nil _ (by rintro h0; simp [h0] at hlast)]; exact hi.head
  · refine List.chain'_append.mpr ⟨hi.chain, List.chain'_singleton _, ?_⟩
    simp only [hlast, List.head?_cons, Option.mem_some_iff, forall_eq']
    rw [← happ] at hins
    exact hins

/-- `oldClient.Close()` after `Unlock`: the goroutine leaves; every other one is where it was. -/
theorem Inv.release (hi : Inv R s₀ h) {t : Nat} {old : σ} (hpc : h.pcs t = .releasing old) (cl : List Nat) :
    Inv R s₀ { h with pcs := Function.update h.pcs t .idle, closes := cl } := by
  refine ⟨fun t' u hw hu => ?_, fun u seen hu => ?_, fun hall => hi.last_idle fun u => ?_,
    fun u old' target' ws' hu => ?_, hi.head, hi.chain⟩
  · have ht : t' ≠ t := by rintro rfl; simp [Pc.isWriting] at hw
    dsimp only at hw ⊢
    rw [Function.update_noteq ht] at hw
    rcases eq_or_ne u t with rfl | hut
    · simp [Pc.holdsLock]
    · rw [Function.update_noteq hut]; exact hi.exclusive t' u hw hu
  · obtain ⟨-, ⟨⟩⟩ | ⟨-, hu⟩ := update_eq_cases hu
    exact hi.seen_fields u seen hu
  · rcases eq_or_ne u t with rfl | hne
    · simp [hpc, Pc.isWriting]
    · simpa [Function.update_noteq hne] using hall u
  · obtain ⟨-, ⟨⟩⟩ | ⟨-, hu⟩ := update_eq_cases hu
    exact hi.last_writing u old' target' ws' hu

/-- The invariant of the lock holds after every step. -/
theorem Inv.step {h' : Handle σ} (hi : Inv R s₀ h) (hs : Step R h h') : Inv R s₀ h' := by
  cases hs with
  | rLock t _ hfree => exact hi.of_reader hfree (.inr ⟨[], rfl, by simp⟩) h.closes h.cacheClosed
  | read t seen hpc =>
    exact hi.of_reader (hi.no_writer hpc) (.inr ⟨_, rfl, hi.seen_append hpc⟩) h.closes h.cacheClosed
  | close t seen hpc => exact hi.of_reader (hi.no_writer hpc) (.inr ⟨_, rfl, hi.seen_append hpc⟩) _ _
  | rUnlock t seen hpc => exact hi.of_reader (hi.no_writer hpc) (.inl rfl) h.closes h.cacheClosed
  | lock t c _ hfree => exact hi.lock hfree rfl ⟨c, _, rfl⟩ _
  | write t old target w ws hpc => exact hi.write hpc
  | unlock t old target hpc => exact hi.unlock hpc
  | release t old hpc => exact hi.release hpc _

/-- **The invariant of the lock holds along every run.** -/
theorem Reachable.inv (hr : Reachable R s₀ h) : Inv R s₀ h := by
  induction hr with
  | init => exact inv_init
  | step _ hs ih => exact ih.step hs

/-- Every version installed is good when the constructor's is. -/
theorem Inv.good (hi : Inv R s₀ h) (h₀ : R.good s₀) : ∀ v ∈ h.installed, R.good v :=
  hi.chain.induction _ _ (fun _ _ ⟨c, n, he⟩ hg => he ▸ R.good_lockSection c n _ hg)
    fun hne => Option.some.inj ((List.head?_eq_head hne).symm.trans hi.head) ▸ h₀

/-- **Every call reads one version.** In every reachable state, every goroutine inside a
    call has read the same version each time: the last one installed. -/
theorem reading_one_version (hr : Reachable R s₀ h) {t : Nat} {seen : List σ}
    (hpc : h.pcs t = .reading seen) :
    h.installed.getLast? = some h.fields ∧ ∀ v ∈ seen, v = h.fields :=
  ⟨hr.inv.last_idle (hr.inv.no_writer hpc), hr.inv.seen_fields t seen hpc⟩

/-! ### Calls made one at a time -/

/-- The writes of a section, one step each. -/
theorem Reachable.writes (t : Nat) (old target : σ) :
    ∀ (ws : List (σ → σ)) {h : Handle σ}, Reachable R s₀ h → h.pcs t = .writing old target ws →
      Reachable R s₀ { h with
        fields := applyWrites ws h.fields
        pcs := Function.update h.pcs t (.writing old target []) }
  | [], h, hr, hpc => by
    rw [← hpc, Function.update_eq_self]; exact hr
  | w :: ws, h, hr, hpc => by
    have := Reachable.writes t old target ws (hr.step (.write t old target w ws hpc)) (by simp)
    rwa [Function.update_idem] at this

/-- **`onConfigChange` run whole.** From a state where no goroutine is in the cache, a
    goroutine's whole `onConfigChange` for `c` installs the section's version and, where
    the instance does so, closes the replaced client. -/
theorem Reachable.reload (hr : Reachable R s₀ h) (hidle : ∀ u, h.pcs u = .idle) (t : Nat) (c : κ) :
    Reachable R s₀ { h with
      fields := applyWrites (R.lockSection c h.created h.fields) h.fields
      created := h.created + 1
      installed := h.installed ++ [applyWrites (R.lockSection c h.created h.fields) h.fields]
      closes := if R.closesOld then h.closes ++ [R.clientOf h.fields] else h.closes } := by
  have hw := Reachable.writes t h.fields (applyWrites (R.lockSection c h.created h.fields) h.fields)
    (R.lockSection c h.created h.fields)
    (hr.step (.lock t c (hidle t) fun u => by simp [hidle u, Pc.holdsLock])) (by simp)
  dsimp only at hw
  simp only [Function.update_idem] at hw
  have hrel := (hw.step (.unlock t h.fields (applyWrites (R.lockSection c h.created h.fields) h.fields)
    (by simp))).step (.release t h.fields (by simp))
  dsimp only at hrel
  simp only [Function.update_idem] at hrel
  rwa [← hidle t, Function.update_eq_self] at hrel

/-- **The cache's `Close` run whole**, from a state where no goroutine is in the cache. -/
theorem Reachable.closeCall (hr : Reachable R s₀ h) (hidle : ∀ u, h.pcs u = .idle) (t : Nat) :
    Reachable R s₀ { h with closes := h.closes ++ [R.clientOf h.fields], cacheClosed := true } := by
  have hu := ((hr.step (.rLock t (hidle t) fun u => by simp [hidle u, Pc.isWriting])).step
    (.close t [] (by simp))).step (.rUnlock t ([] ++ [h.fields]) (by simp))
  dsimp only at hu
  simp only [Function.update_idem] at hu
  rwa [← hidle t, Function.update_eq_self] at hu

/-! ### The clients closed -/

/-- For an instance whose section installs the client it created and whose
    `onConfigChange` closes the replaced client: client numbers grow along the versions
    installed; no closed client is a writer's new one or, while the cache is open, the
    last one installed; each replaced client is closed by its own `onConfigChange`, once. -/
structure ClosedInv (R : Reloadable σ κ) (h : Handle σ) : Prop where
  installed_lt : ∀ v ∈ h.installed, R.clientOf v < h.created
  closes_lt : ∀ n ∈ h.closes, n < h.created
  writing_fresh : ∀ t old target ws, h.pcs t = .writing old target ws →
    R.clientOf target + 1 = h.created ∧ R.clientOf target ∉ h.closes ∧
      ∀ v ∈ h.installed, R.clientOf v < R.clientOf target
  releasing_old : ∀ t old, h.pcs t = .releasing old →
    old ∈ h.installed ∧ ∀ v ∈ h.installed.getLast?, R.clientOf old < R.clientOf v
  releasing_distinct : ∀ t u old old', h.pcs t = .releasing old → h.pcs u = .releasing old' →
    t ≠ u → R.clientOf old ≠ R.clientOf old'
  open_last : h.cacheClosed = false → ∀ v ∈ h.installed.getLast?, R.clientOf v ∉ h.closes
  open_releasing : h.cacheClosed = false → ∀ t old, h.pcs t = .releasing old →
    R.clientOf old ∉ h.closes
  closes_nodup : h.cacheClosed = false → h.closes.Nodup
  retired : ∀ v ∈ h.installed, ∀ w ∈ h.installed.getLast?, R.clientOf v ≠ R.clientOf w →
    R.clientOf v ∈ h.closes ∨ ∃ t old, h.pcs t = .releasing old ∧ R.clientOf old = R.clientOf v

theorem closedInv_init : ClosedInv R (Handle.init R s₀) where
  installed_lt _ h := by simp_all [Handle.init]
  closes_lt _ h := by simp [Handle.init] at h
  writing_fresh _ _ _ _ h := by simp [Handle.init] at h
  releasing_old _ _ h := by simp [Handle.init] at h
  releasing_distinct _ _ _ _ h := by simp [Handle.init] at h
  open_last _ _ _ := by simp [Handle.init]
  open_releasing _ _ _ h := by simp [Handle.init] at h
  closes_nodup _ := List.nodup_nil
  retired _ hv _ hw hne := by simp_all [Handle.init]

/-- A step that changes no ghost record, no releaser, and no writer's versions keeps
    `ClosedInv`. -/
theorem ClosedInv.of_pcs {h' : Handle σ} (hc : ClosedInv R h) (hinst : h'.installed = h.installed)
    (hcl : h'.closes = h.closes) (hcr : h'.created = h.created) (hcc : h'.cacheClosed = h.cacheClosed)
    (hw : ∀ u old target ws, h'.pcs u = .writing old target ws → ∃ ws', h.pcs u = .writing old target ws')
    (hr : ∀ u old, h'.pcs u = .releasing old ↔ h.pcs u = .releasing old) : ClosedInv R h' := by
  rcases h' with ⟨f, pcs, cr, inst, cl, cc⟩
  dsimp only at hinst hcl hcr hcc hw hr
  subst hinst hcl hcr hcc
  refine ⟨hc.installed_lt, hc.closes_lt, fun u old target ws hu => ?_,
    fun u old hu => hc.releasing_old u old ((hr u old).mp hu),
    fun u u' old old' hu hu' => hc.releasing_distinct u u' old old' ((hr u old).mp hu) ((hr u' old').mp hu'),
    hc.open_last, fun h u old hu => hc.open_releasing h u old ((hr u old).mp hu), hc.closes_nodup,
    fun v hv w hw' hne => ?_⟩
  · obtain ⟨ws', hu'⟩ := hw u old target ws hu
    exact hc.writing_fresh u old target ws' hu'
  · rcases hc.retired v hv w hw' hne with h | ⟨u, old, hu, he⟩
    · exact .inl h
    · exact .inr ⟨u, old, (hr u old).mpr hu, he⟩

/-- A goroutine moving between idle and reading changes no writer and no releaser. -/
theorem ClosedInv.of_reader {t : Nat} {p : Pc σ} (hc : ClosedInv R h)
    (ht : h.pcs t = .idle ∨ ∃ seen, h.pcs t = .reading seen) (hp : p = .idle ∨ ∃ seen, p = .reading seen) :
    ClosedInv R { h with pcs := Function.update h.pcs t p } := by
  have hne : ∀ q : Pc σ, (q = .idle ∨ ∃ seen, q = .reading seen) →
      ∀ old, q ≠ .releasing old ∧ ∀ target ws, q ≠ .writing old target ws := by
    rintro q (rfl | ⟨_, rfl⟩) old <;> simp
  refine hc.of_pcs rfl rfl rfl rfl (fun u old target ws hu => ⟨ws, ?_⟩)
    (fun u old => update_eq_iff_of_ne (hne p hp old).1 (hne _ ht old).1)
  exact (update_eq_iff_of_ne ((hne p hp old).2 target ws) ((hne _ ht old).2 target ws)).mp hu

/-- The cache's `Close` closes the current client, the last one installed. -/
theorem ClosedInv.close (hi : Inv R s₀ h) (hc : ClosedInv R h) {t : Nat} {seen : List σ}
    (hpc : h.pcs t = .reading seen) :
    ClosedInv R { h with
      pcs := Function.update h.pcs t (.reading (seen ++ [h.fields]))
      closes := h.closes ++ [R.clientOf h.fields]
      cacheClosed := true } := by
  have hlast := hi.last_idle (hi.no_writer hpc)
  have hr : ∀ u old, Function.update h.pcs t (.reading (seen ++ [h.fields])) u = .releasing old ↔
      h.pcs u = .releasing old := fun u old => update_eq_iff_of_ne (by simp) (by simp [hpc])
  refine ⟨hc.installed_lt, fun n hn => ?_, fun u _ _ _ hu => ?_,
    fun u old hu => hc.releasing_old u old ((hr u old).mp hu),
    fun u u' old old' hu hu' => hc.releasing_distinct u u' old old' ((hr u old).mp hu) ((hr u' old').mp hu'),
    fun h => by simp at h, fun h => by simp at h, fun h => by simp at h, fun v hv w hw hne => ?_⟩
  · rcases List.mem_append.mp hn with hn | hn
    · exact hc.closes_lt n hn
    · rw [List.mem_singleton.mp hn]; exact hc.installed_lt _ (List.mem_of_mem_getLast? hlast)
  · obtain ⟨-, hu⟩ := update_eq_of_ne (by simp) hu
    exact absurd (hi.no_writer hpc u) (by simp [hu])
  · rcases hc.retired v hv w hw hne with h | ⟨u, old, hu, he⟩
    · exact .inl (List.mem_append_left _ h)
    · exact .inr ⟨u, old, (hr u old).mpr hu, he⟩

/-- `lock`: the writer's target holds the client just created, which no one closed. -/
theorem ClosedInv.lock (hc : ClosedInv R h) {t : Nat} (hidle : h.pcs t = .idle)
    (hfree : ∀ u, (h.pcs u).holdsLock = false) {target : σ} (ws : List (σ → σ))
    (hn : R.clientOf target = h.created) :
    ClosedInv R { h with
      pcs := Function.update h.pcs t (.writing h.fields target ws)
      created := h.created + 1 } := by
  have hr : ∀ u old, Function.update h.pcs t (.writing h.fields target ws) u = .releasing old ↔
      h.pcs u = .releasing old := fun u old => update_eq_iff_of_ne (by simp) (by simp [hidle])
  refine ⟨fun v hv => Nat.lt_succ_of_lt (hc.installed_lt v hv),
    fun n hn => Nat.lt_succ_of_lt (hc.closes_lt n hn), fun u old target' ws' hu => ?_,
    fun u old hu => hc.releasing_old u old ((hr u old).mp hu),
    fun u u' old old' hu hu' => hc.releasing_distinct u u' old old' ((hr u old).mp hu) ((hr u' old').mp hu'),
    hc.open_last, fun h u old hu => hc.open_releasing h u old ((hr u old).mp hu), hc.closes_nodup,
    fun v hv w hw hne => ?_⟩
  · obtain ⟨-, ⟨⟩⟩ | ⟨-, hu⟩ := update_eq_cases hu
    · rw [hn]
      exact ⟨rfl, fun hm => Nat.lt_irrefl _ (hc.closes_lt _ hm), hc.installed_lt⟩
    · exact absurd (hfree u) (by simp [hu])
  · rcases hc.retired v hv w hw hne with h | ⟨u, old, hu, he⟩
    · exact .inl h
    · exact .inr ⟨u, old, (hr u old).mpr hu, he⟩

/-- `Unlock`: the new version's client is the newest; the replaced one, `old`'s, now
    waits for its `Close`. -/
theorem ClosedInv.unlock (hi : Inv R s₀ h) (hc : ClosedInv R h) {t : Nat} {old target : σ}
    (hpc : h.pcs t = .writing old target []) :
    ClosedInv R { h with
      pcs := Function.update h.pcs t (.releasing old)
      installed := h.installed ++ [h.fields] } := by
  obtain ⟨hlast, happ, -⟩ := hi.last_writing t old target [] hpc
  rw [applyWrites_nil] at happ
  subst happ
  obtain ⟨hcr, hopen, hgt⟩ := hc.writing_fresh t old h.fields [] hpc
  have hold : old ∈ h.installed := List.mem_of_mem_getLast? hlast
  -- every other releaser's client is older than `old`, the last version before this one
  have holder : ∀ u o, h.pcs u = .releasing o → R.clientOf o < R.clientOf old :=
    fun u o hu => (hc.releasing_old u o hu).2 old hlast
  refine ⟨fun v hv => ?_, hc.closes_lt, fun u o tg ws hu => ?_, fun u o hu => ?_,
    fun u u' o o' hu hu' hne => ?_, fun _ v hv => ?_, fun hcc u o hu => ?_, hc.closes_nodup,
    fun v hv w hw hne => ?_⟩
  · rcases List.mem_append.mp hv with hv | hv
    · exact hc.installed_lt v hv
    · rw [List.mem_singleton.mp hv]; exact hcr ▸ Nat.lt_succ_self _
  · obtain ⟨hne, hu⟩ := update_eq_of_ne (by simp) hu
    exact absurd (hi.writer_unique hpc hne) (by simp [hu])
  · simp only [List.getLast?_concat, Option.mem_some_iff, forall_eq']
    obtain ⟨-, ⟨⟩⟩ | ⟨-, hu⟩ := update_eq_cases hu
    · exact ⟨List.mem_append_left _ hold, hgt _ hold⟩
    · exact ⟨List.mem_append_left _ (hc.releasing_old u o hu).1, (holder u o hu).trans (hgt _ hold)⟩
  · obtain ⟨rfl, ⟨⟩⟩ | ⟨-, hou⟩ := update_eq_cases hu <;>
      obtain ⟨rfl, ⟨⟩⟩ | ⟨-, hou'⟩ := update_eq_cases hu'
    · exact absurd rfl hne
    · exact (holder u' o' hou').ne'
    · exact (holder u o hou).ne
    · exact hc.releasing_distinct u u' o o' hou hou' hne
  · simp only [List.getLast?_concat, Option.mem_some_iff] at hv
    subst hv; exact hopen
  · obtain ⟨-, ⟨⟩⟩ | ⟨-, hu⟩ := update_eq_cases hu
    · exact hc.open_last hcc _ hlast
    · exact hc.open_releasing hcc u o hu
  · simp only [List.getLast?_concat, Option.mem_some_iff] at hw
    subst hw
    rcases List.mem_append.mp hv with hv | hv
    · by_cases hvo : R.clientOf v = R.clientOf old
      · exact .inr ⟨t, old, by simp, hvo.symm⟩
      · rcases hc.retired v hv old hlast hvo with h | ⟨u, o, hu, he⟩
        · exact .inl h
        · have hne : u ≠ t := by rintro rfl; simp [hpc] at hu
          exact .inr ⟨u, o, (Function.update_noteq hne _ _).trans hu, he⟩
    · exact absurd (List.mem_singleton.mp hv ▸ rfl) hne

/-- `oldClient.Close()`: it closes the client of a replaced version, closed by no one else. -/
theorem ClosedInv.release (hc : ClosedInv R h) {t : Nat} {old : σ} (hpc : h.pcs t = .releasing old) :
    ClosedInv R { h with
      pcs := Function.update h.pcs t .idle
      closes := h.closes ++ [R.clientOf old] } := by
  obtain ⟨hold, hlt⟩ := hc.releasing_old t old hpc
  refine ⟨hc.installed_lt, fun n hn => ?_, fun u o tg ws hu => ?_,
    fun u o hu => hc.releasing_old u o (update_eq_of_ne (by simp) hu).2,
    fun u u' o o' hu hu' hne => hc.releasing_distinct u u' o o' (update_eq_of_ne (by simp) hu).2
      (update_eq_of_ne (by simp) hu').2 hne,
    fun hcc v hv hm => ?_, fun hcc u o hu hm => ?_, fun hcc => ?_, fun v hv w hw hne => ?_⟩
  · rcases List.mem_append.mp hn with hn | hn
    · exact hc.closes_lt n hn
    · rw [List.mem_singleton.mp hn]; exact hc.installed_lt _ hold
  · obtain ⟨-, hu⟩ := update_eq_of_ne (by simp) hu
    obtain ⟨hcr, hopen, hgt⟩ := hc.writing_fresh u o tg ws hu
    refine ⟨hcr, fun hm => ?_, hgt⟩
    rcases List.mem_append.mp hm with hm | hm
    · exact hopen hm
    · exact (hgt old hold).ne (List.mem_singleton.mp hm).symm
  · rcases List.mem_append.mp hm with hm | hm
    · exact hc.open_last hcc v hv hm
    · exact (hlt v hv).ne' (List.mem_singleton.mp hm)
  · obtain ⟨hne, hu⟩ := update_eq_of_ne (by simp) hu
    rcases List.mem_append.mp hm with hm | hm
    · exact hc.open_releasing hcc u o hu hm
    · exact hc.releasing_distinct u t o old hu hpc hne (List.mem_singleton.mp hm)
  · simpa [List.nodup_append, hc.open_releasing hcc t old hpc] using hc.closes_nodup hcc
  · rcases hc.retired v hv w hw hne with h | ⟨u, o, hu, he⟩
    · exact .inl (List.mem_append_left _ h)
    · rcases eq_or_ne u t with rfl | hut
      · obtain ⟨⟩ := hpc.symm.trans hu
        exact .inl (List.mem_append_right _ (List.mem_singleton.mpr he.symm))
      · exact .inr ⟨u, o, (Function.update_noteq hut _ _).trans hu, he⟩

/-- `ClosedInv` holds after every step. -/
theorem ClosedInv.step (hfresh : ∀ c n s, R.clientOf (applyWrites (R.lockSection c n s) s) = n)
    (hcloses : R.closesOld = true) {h' : Handle σ} (hi : Inv R s₀ h) (hc : ClosedInv R h)
    (hs : Step R h h') : ClosedInv R h' := by
  cases hs with
  | rLock t hidle _ => exact hc.of_reader (.inl hidle) (.inr ⟨_, rfl⟩)
  | read t seen hpc => exact hc.of_reader (.inr ⟨_, hpc⟩) (.inr ⟨_, rfl⟩)
  | rUnlock t seen hpc => exact hc.of_reader (.inr ⟨_, hpc⟩) (.inl rfl)
  | close t seen hpc => exact hc.close hi hpc
  | lock t c hidle hfree => exact hc.lock hidle hfree _ (hfresh c _ _)
  | write t old target w ws hpc =>
    refine hc.of_pcs rfl rfl rfl rfl (fun u o tg ws' hu => ?_)
      (fun u o => update_eq_iff_of_ne (by simp) (by simp [hpc]))
    obtain ⟨rfl, ⟨⟩⟩ | ⟨-, hu⟩ := update_eq_cases hu
    · exact ⟨_, hpc⟩
    · exact ⟨_, hu⟩
  | unlock t old target hpc => exact hc.unlock hi hpc
  | release t old hpc =>
    simp only [hcloses, if_true]
    exact hc.release hpc

/-- **`ClosedInv` holds along every run.** -/
theorem Reachable.closedInv (hfresh : ∀ c n s, R.clientOf (applyWrites (R.lockSection c n s) s) = n)
    (hcloses : R.closesOld = true) (hr : Reachable R s₀ h) : ClosedInv R h := by
  induction hr with
  | init => exact closedInv_init
  | step hr hs ih => exact ih.step hfresh hcloses hr.inv hs

/-- **Until the cache's `Close`, no call reads a closed client.** -/
theorem reading_open (hfresh : ∀ c n s, R.clientOf (applyWrites (R.lockSection c n s) s) = n)
    (hcloses : R.closesOld = true) (hr : Reachable R s₀ h) (hcc : h.cacheClosed = false) {t : Nat}
    {seen : List σ} (hpc : h.pcs t = .reading seen) : ∀ v ∈ seen, R.clientOf v ∉ h.closes := by
  obtain ⟨hlast, hseen⟩ := reading_one_version hr hpc
  intro v hv
  rw [hseen v hv]
  exact (hr.closedInv hfresh hcloses).open_last hcc _ hlast

/-- **The clients open between reconfigurations.** Until the cache's `Close`, whenever no
    `onConfigChange` is under way, a client installed so far is open exactly when it is
    the current one. -/
theorem open_iff_current (hfresh : ∀ c n s, R.clientOf (applyWrites (R.lockSection c n s) s) = n)
    (hcloses : R.closesOld = true) (hr : Reachable R s₀ h) (hcc : h.cacheClosed = false)
    (hquiet : ∀ t, h.pcs t = .idle ∨ ∃ seen, h.pcs t = .reading seen) :
    ∀ v ∈ h.installed, R.clientOf v ∉ h.closes ↔ R.clientOf v = R.clientOf h.fields := by
  have hc := hr.closedInv hfresh hcloses
  have hlast : h.installed.getLast? = some h.fields := hr.inv.last_idle fun t => by
    rcases hquiet t with h | ⟨_, h⟩ <;> simp [h, Pc.isWriting]
  intro v hv
  refine ⟨fun hopen => ?_, fun he => he ▸ hc.open_last hcc _ hlast⟩
  by_contra hne
  rcases hc.retired v hv _ hlast hne with h | ⟨t, old, ht, -⟩
  · exact hopen h
  · rcases hquiet t with h | ⟨_, h⟩ <;> simp [h] at ht

end Reload

end Xcache
