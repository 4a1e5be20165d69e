import Xcache.Basic
import Mathlib.Logic.Function.Basic
import Mathlib.Logic.Relation

namespace Xcache

/-!
# xcache — the `StatsWatcher` lifecycle

`StatsWatcher` (`stats.go`) polls a cache's `Stats` and hands them to a sink `fn`, from
one goroutine started by the first `Watch`. `Close` reads `sw.ticker`, and when it is set
closes the `closed` channel under `closeOnce` and waits on `wg` for the goroutine to
return. Nothing orders that read against the statements of `watch`.

* `Watcher`, `CloseStep`, `Watcher.Step` — the watcher, the goroutine running the body of
  `watchOnce`, the goroutines in `Close` and the polling goroutine, and the steps of each;
  a `Close` runs the same steps whether an application goroutine or the sink calls it;
* `Watcher.Inv` — what every reachable state satisfies;
* `statsWatcher_lifecycle` — at most one polling goroutine; a `Close` before `Watch`, and
  every `Close` after the first `close` has finished, changes nothing; unless a `Close`
  read the ticker while `Watch` was running, no `Close` panics and, after a `Close` has
  returned, `Stats` and the sink are never called again; and a `Close` can always return,
  unless a goroutine panicked or the sink is itself inside `Close`;
* `statsWatcher_close_races` — a `Close` during `Watch` can panic on the nil channel, or
  return before `wg.Add(1)` and leave the goroutine calling the sink after later `Close`s
  returned; a `Close` from the sink never returns, whichever goroutine runs `close`.

The finalizer's `Close` is an application goroutine's `Close`. A second `Watch` changes
nothing and is left out.
-/

/-- The state of a `sync.Once`. -/
inductive OnceState where
  | notRun
  | running
  | done
  deriving DecidableEq, Repr

/-- How far the goroutine running `watchOnce`'s body is in `watcher.watch`. -/
inductive WatchPc where
  /-- `Watch` not called: `ticker` and `closed` are nil. -/
  | notRun
  /-- `w.ticker = time.NewTicker(w.interval)` has run. -/
  | tickerSet
  /-- `w.closed = make(chan struct{}, 1)` has run. -/
  | closedMade
  /-- `w.wg.Add(1)` has run. -/
  | added
  /-- `go w.watchAsync(ctx, fn)` has run. -/
  | done
  deriving DecidableEq, Repr

namespace WatchPc

/-- `sw.ticker != nil`. -/
def hasTicker : WatchPc → Bool
  | .notRun => false
  | _ => true

/-- `w.closed != nil`. -/
def hasClosed : WatchPc → Bool
  | .notRun | .tickerSet => false
  | _ => true

/-- `w.wg.Add(1)` has run. -/
def hasAdded : WatchPc → Bool
  | .added | .done => true
  | _ => false

end WatchPc

/-- Where a goroutine is in `StatsWatcher.Close`. -/
inductive ClosePc where
  /-- Not in `Close`. -/
  | none
  /-- Found `sw.ticker != nil`; calls `closeOnce.Do` next. -/
  | sawTicker
  /-- Runs `closeOnce`'s function; `close(w.closed)` next. -/
  | closing
  /-- In `closeOnce.Do`, waiting for the goroutine running it to finish. -/
  | waitOnce
  /-- Closed the channel; waits in `wg.Wait()`. -/
  | waitGroup
  /-- `close(w.closed)` found the channel nil and panicked. -/
  | panicked
  deriving DecidableEq, Repr

/-- The goroutine runs `closeOnce`'s function, and has not finished it. -/
def ClosePc.owns : ClosePc → Bool
  | .closing | .waitGroup | .panicked => true
  | _ => false

/-- Where the polling goroutine (`watchAsync`) is. -/
inductive TaskPc where
  | notStarted
  /-- In the `select` of its loop. -/
  | polling
  /-- Calling `cache.Stats` and the sink. -/
  | inSink
  /-- Returned: `wg.Done()` and `ticker.Stop()` have run. -/
  | exited
  deriving DecidableEq, Repr

/-- A goroutine that calls `Close`: application goroutine `t`, or the sink on the polling
    goroutine. -/
inductive Closer where
  | app (t : Nat)
  | sink
  deriving DecidableEq, Repr

/-- A `StatsWatcher` and the goroutines using it, with four ghost records: how many
    polling goroutines were started, how many times `Stats` (and the sink) were called,
    whether a `Close` that found the ticker has returned, and whether a `Close` read the
    ticker while `Watch` was between its first statement and its `go`. -/
structure Watcher where
  watch : WatchPc
  /-- `close(w.closed)` has run. -/
  closedCh : Bool
  /-- The context given to `Watch` is done. -/
  ctxDone : Bool
  /-- The counter of `wg`. -/
  wg : Nat
  closeOnce : OnceState
  task : TaskPc
  /-- Where each goroutine is in `Close`. -/
  pcs : Closer → ClosePc
  started : Nat
  statsCalls : Nat
  closeReturned : Bool
  closeDuringWatch : Bool

namespace Watcher

/-- `NewStatsWatcher(cache, interval)`. -/
def new : Watcher where
  watch := .notRun
  closedCh := false
  ctxDone := false
  wg := 0
  closeOnce := .notRun
  task := .notStarted
  pcs := fun _ => .none
  started := 0
  statsCalls := 0
  closeReturned := false
  closeDuringWatch := false

end Watcher

/-- One step of a goroutine in `StatsWatcher.Close`: its place `p` goes to `p'` and the
    watcher `w` to `w'`. -/
inductive CloseStep : ClosePc → Watcher → ClosePc → Watcher → Prop
  /-- `sw.ticker == nil` (no `Watch` yet): returns at once. -/
  | tickerNil {w : Watcher} (h : w.watch.hasTicker = false) : CloseStep .none w .none w
  /-- `sw.ticker != nil`. -/
  | tickerSet {w : Watcher} (h : w.watch.hasTicker = true) :
      CloseStep .none w .sawTicker { w with closeDuringWatch := w.closeDuringWatch || w.watch != .done }
  /-- `closeOnce.Do` after the first run finished: returns at once. -/
  | onceDone {w : Watcher} (h : w.closeOnce = .done) :
      CloseStep .sawTicker w .none { w with closeReturned := true }
  /-- `closeOnce.Do` while another goroutine runs `close`: waits for it. -/
  | onceBusy {w : Watcher} (h : w.closeOnce = .running) : CloseStep .sawTicker w .waitOnce w
  /-- The first `closeOnce.Do`: runs `sw.watcher.close()`. -/
  | onceRun {w : Watcher} (h : w.closeOnce = .notRun) :
      CloseStep .sawTicker w .closing { w with closeOnce := .running }
  /-- `close(w.closed)` on a nil channel panics. -/
  | closeNil {w : Watcher} (h : w.watch.hasClosed = false) : CloseStep .closing w .panicked w
  /-- `close(w.closed)`, then `wg.Wait()`. -/
  | close {w : Watcher} (h : w.watch.hasClosed = true) :
      CloseStep .closing w .waitGroup { w with closedCh := true }
  /-- The running `close` finished: `closeOnce.Do` returns. -/
  | onceWake {w : Watcher} (h : w.closeOnce = .done) :
      CloseStep .waitOnce w .none { w with closeReturned := true }
  /-- `wg.Wait()` returns once the counter is 0, and `close` with it. -/
  | waitDone {w : Watcher} (h : w.wg = 0) :
      CloseStep .waitGroup w .none { w with closeOnce := .done, closeReturned := true }

/-- A step in `Close` changes nothing of `Watch` or of the polling goroutine, and moves
    `closeOnce`, the channel and the race record only forward. -/
theorem CloseStep.frame {p p' : ClosePc} {w w' : Watcher} (h : CloseStep p w p' w') :
    w'.pcs = w.pcs ∧ w'.task = w.task ∧ w'.watch = w.watch ∧ w'.wg = w.wg ∧ w'.statsCalls = w.statsCalls ∧
      (w.closeDuringWatch = true → w'.closeDuringWatch = true) ∧
      (w.closeOnce ≠ .notRun → w'.closeOnce ≠ .notRun) ∧ (w.closedCh = true → w'.closedCh = true) := by
  cases h <;> simp_all

namespace Watcher

/-- One step of one goroutine. -/
inductive Step : Watcher → Watcher → Prop
  /-- The first `Watch`'s `watchOnce.Do`: `w.ticker = time.NewTicker(w.interval)`. -/
  | newTicker {w : Watcher} (h : w.watch = .notRun) : Step w { w with watch := .tickerSet }
  /-- `w.closed = make(chan struct{}, 1)`. -/
  | makeClosed {w : Watcher} (h : w.watch = .tickerSet) : Step w { w with watch := .closedMade }
  /-- `w.wg.Add(1)`. -/
  | wgAdd {w : Watcher} (h : w.watch = .closedMade) : Step w { w with watch := .added, wg := w.wg + 1 }
  /-- `go w.watchAsync(ctx, fn)`. -/
  | goWatchAsync {w : Watcher} (h : w.watch = .added) :
      Step w { w with watch := .done, task := .polling, started := w.started + 1 }
  /-- A step of goroutine `g` in `Close`; the sink calls it while it runs. -/
  | close {w w' : Watcher} {p' : ClosePc} (g : Closer) (hg : g = .sink → w.task = .inSink)
      (h : CloseStep (w.pcs g) w p' w') : Step w { w' with pcs := Function.update w'.pcs g p' }
  /-- The ticker fires: `cache.Stats(ctx)`, then `fn(ctx, stats, err)`. -/
  | tick {w : Watcher} (h : w.task = .polling) :
      Step w { w with task := .inSink, statsCalls := w.statsCalls + 1 }
  /-- The sink returns. -/
  | sinkReturn {w : Watcher} (h : w.task = .inSink) (hsink : w.pcs .sink = .none) :
      Step w { w with task := .polling }
  /-- `<-w.closed` or `<-ctx.Done()` is ready and chosen: `wg.Done()`, `ticker.Stop()`. -/
  | exit {w : Watcher} (h : w.task = .polling) (hready : w.closedCh = true ∨ w.ctxDone = true) :
      Step w { w with task := .exited, wg := w.wg - 1 }
  /-- The context given to `Watch` is cancelled. -/
  | cancel {w : Watcher} : Step w { w with ctxDone := true }

/-- The states of every program using one `StatsWatcher`. -/
def Reachable (w : Watcher) : Prop := Relation.ReflTransGen Step new w

/-- What a goroutine at `p` in `Close` knows: it found the ticker, after `Watch` finished
    unless a `Close` raced with `Watch`; it is the sink only while the sink runs; and
    each place's own fact. -/
structure PcOk (w : Watcher) (g : Closer) (p : ClosePc) : Prop where
  in_sink : p ≠ .none → g = .sink → w.task = .inSink
  ticker : p ≠ .none → w.watch.hasTicker = true
  after_watch : p ≠ .none → w.watch = .done ∨ w.closeDuringWatch = true
  panicked : p = .panicked → w.closeDuringWatch = true
  waitOnce : p = .waitOnce → w.closeOnce ≠ .notRun
  waitGroup : p = .waitGroup → w.closedCh = true

/-- Who runs `closeOnce`'s function: some goroutine exactly while it is `running`, and
    never two. -/
structure OnceOwner (pcs : Closer → ClosePc) (once : OnceState) : Prop where
  running : ∀ g, (pcs g).owns → once = .running
  unique : ∀ g h, (pcs g).owns → (pcs h).owns → g = h
  exists_of_running : once = .running → ∃ g, (pcs g).owns

/-- What every reachable state satisfies: the goroutine runs exactly while `wg` counts it;
    every goroutine in `Close` satisfies `PcOk`; `closeOnce` has one owner while it runs;
    and once it is done, or a `Close` returned, the goroutine has returned, unless a `Close`
    raced with `Watch`. -/
structure Inv (w : Watcher) : Prop where
  started_eq : w.started = if w.watch = .done then 1 else 0
  notStarted_iff : w.task = .notStarted ↔ w.watch ≠ .done
  wg_eq : w.wg = if w.watch.hasAdded = true ∧ w.task ≠ .exited then 1 else 0
  pcs_ok : ∀ g, PcOk w g (w.pcs g)
  owner : OnceOwner w.pcs w.closeOnce
  done_exited : w.closeOnce = .done → w.task = .exited ∨ w.closeDuringWatch = true
  returned_done : w.closeReturned = true → w.closeOnce = .done

variable {w w' : Watcher} {g : Closer} {p p' q : ClosePc}

theorem PcOk.none : PcOk w g .none :=
  ⟨fun h => absurd rfl h, fun h => absurd rfl h, fun h => absurd rfl h, nofun, nofun, nofun⟩

/-- `PcOk` reads no goroutine's place. -/
theorem PcOk.with_pcs (hok : PcOk w g q) {f : Closer → ClosePc} : PcOk { w with pcs := f } g q :=
  ⟨hok.in_sink, hok.ticker, hok.after_watch, hok.panicked, hok.waitOnce, hok.waitGroup⟩

/-- A goroutine going on in `Close` keeps what it knew, with its new place's own fact. -/
theorem PcOk.move (hok : PcOk w g p) (hp : p ≠ .none) (h₀ : q = .panicked → w.closeDuringWatch = true)
    (h₁ : q = .waitOnce → w.closeOnce ≠ .notRun) (h₂ : q = .waitGroup → w.closedCh = true) : PcOk w g q :=
  ⟨fun _ => hok.in_sink hp, fun _ => hok.ticker hp, fun _ => hok.after_watch hp, h₀, h₁, h₂⟩

theorem PcOk.frame (hok : PcOk w g q) (hs : CloseStep p w p' w') : PcOk w' g q := by
  obtain ⟨-, ht, hw, -, -, hr, ho, hc⟩ := hs.frame
  exact ⟨fun hq hg => ht ▸ hok.in_sink hq hg, fun hq => hw ▸ hok.ticker hq,
    fun hq => hw ▸ (hok.after_watch hq).imp_right hr, fun hq => hr (hok.panicked hq),
    fun hq => ho (hok.waitOnce hq), fun hq => hc (hok.waitGroup hq)⟩

/-- A goroutine in `Close` while `Watch` runs read the ticker during `Watch`, and is not
    the sink; the steps of `Watch` keep that. -/
theorem PcOk.of_watch (hok : PcOk w g q) (htask : w.task = .notStarted) (hnd : w.watch ≠ .done)
    (hw : w'.watch.hasTicker = true) (hr : w'.closeDuringWatch = w.closeDuringWatch)
    (ho : w'.closeOnce = w.closeOnce) (hc : w'.closedCh = w.closedCh) : PcOk w' g q where
  in_sink hq hg := absurd (hok.in_sink hq hg) (by simp [htask])
  ticker _ := hw
  after_watch hq := .inr (hr ▸ (hok.after_watch hq).resolve_left hnd)
  panicked hq := hr ▸ hok.panicked hq
  waitOnce hq := ho ▸ hok.waitOnce hq
  waitGroup hq := hc ▸ hok.waitGroup hq

namespace OnceOwner

variable {pcs : Closer → ClosePc} {once : OnceState}

/-- A goroutine moving between two places that both own `closeOnce`, or both do not. -/
theorem update (ho : OnceOwner pcs once) (hp : p.owns = (pcs g).owns) :
    OnceOwner (Function.update pcs g p) once := by
  have key : ∀ h, (Function.update pcs g p h).owns = (pcs h).owns := fun h => by
    rcases eq_or_ne h g with rfl | hne
    · simpa using hp
    · rw [Function.update_noteq hne]
  exact ⟨fun h hh => ho.running h (key h ▸ hh), fun h h' hh hh' => ho.unique h h' (key h ▸ hh) (key h' ▸ hh'),
    fun hr => (ho.exists_of_running hr).imp fun h hh => (key h).symm ▸ hh⟩

/-- The first `closeOnce.Do`: its goroutine is the only owner. -/
theorem start (ho : OnceOwner pcs once) (hn : once = .notRun) (hp : p.owns = true) :
    OnceOwner (Function.update pcs g p) .running := by
  have key : ∀ h, (Function.update pcs g p h).owns = true → h = g := fun h hh => by
    by_contra hne
    rw [Function.update_noteq hne] at hh
    exact absurd (ho.running h hh) (by simp [hn])
  exact ⟨fun _ _ => rfl, fun h h' hh hh' => (key h hh).trans (key h' hh').symm, fun _ => ⟨g, by simpa using hp⟩⟩

/-- The owner finishes: no goroutine owns `closeOnce` any more. -/
theorem finish (ho : OnceOwner pcs once) (hg : (pcs g).owns = true) (hp : p.owns = false) :
    OnceOwner (Function.update pcs g p) .done := by
  have key : ∀ h, (Function.update pcs g p h).owns = false := fun h => by
    rcases eq_or_ne h g with rfl | hne
    · simpa using hp
    · rw [Function.update_noteq hne]
      by_contra hh
      exact hne (ho.unique h g (by simpa using hh) hg)
  exact ⟨fun h hh => by simp [key h] at hh, fun h _ hh => by simp [key h] at hh, nofun⟩

end OnceOwner

theorem inv_new : Inv new where
  started_eq := rfl
  notStarted_iff := by simp [new]
  wg_eq := rfl
  pcs_ok _ := PcOk.none
  owner := ⟨fun _ h => by simp [new, ClosePc.owns] at h, fun _ _ h => by simp [new, ClosePc.owns] at h, nofun⟩
  done_exited := nofun
  returned_done := nofun

/-- The sink is in `Close` only while it runs. -/
theorem Inv.sink_none (hi : Inv w) (h : w.task ≠ .inSink) : w.pcs .sink = .none :=
  by_contra fun hs => h ((hi.pcs_ok .sink).in_sink hs rfl)

/-- After a step in `Close` of goroutine `g`, every other goroutine keeps `PcOk`. -/
theorem Inv.pcs_update (hi : Inv w) (hs : CloseStep p w p' w') (hg : PcOk w' g p') :
    ∀ h, PcOk { w' with pcs := Function.update w'.pcs g p' } h (Function.update w'.pcs g p' h) := fun h => by
  refine PcOk.with_pcs ?_
  rcases eq_or_ne h g with rfl | hne
  · simpa using hg
  · rw [Function.update_noteq hne, hs.frame.1]
    exact (hi.pcs_ok h).frame hs

/-- A step of a goroutine in `Close` keeps the invariant. -/
theorem Inv.close (hi : Inv w) (hg : g = .sink → w.task = .inSink) (h : CloseStep (w.pcs g) w p' w') :
    Inv { w' with pcs := Function.update w'.pcs g p' } := by
  have hupd := fun hgp : PcOk w' g p' => hi.pcs_update h hgp
  have hok := (hi.pcs_ok g).frame h
  generalize hp : w.pcs g = p at h hok
  cases h with
  | tickerNil =>
    exact { hi with
      pcs_ok := hupd PcOk.none
      owner := hi.owner.update (by rw [hp]) }
  | tickerSet hw =>
    exact { hi with
      pcs_ok := hupd ⟨fun _ => hg, fun _ => hw, fun _ => by by_cases hd : w.watch = .done <;> simp [hd],
        nofun, nofun, nofun⟩
      owner := hi.owner.update (by rw [hp]; rfl)
      done_exited := fun hd => (hi.done_exited hd).imp_right fun hr => by simp [hr] }
  | onceDone hd =>
    exact { hi with
      pcs_ok := hupd PcOk.none
      owner := hi.owner.update (by rw [hp]; rfl)
      returned_done := fun _ => hd }
  | onceBusy hr =>
    exact { hi with
      pcs_ok := hupd (hok.move (by simp) nofun (fun _ => by simp [hr]) nofun)
      owner := hi.owner.update (by rw [hp]; rfl) }
  | onceRun hn =>
    exact { hi with
      pcs_ok := hupd (hok.move (by simp) nofun nofun nofun)
      owner := hi.owner.start hn rfl
      done_exited := nofun
      returned_done := fun hr => absurd (hi.returned_done hr) (by simp [hn]) }
  | closeNil hcl =>
    have hraced : w.closeDuringWatch = true :=
      (hok.after_watch (by simp)).resolve_left fun hd => by simp [hd, WatchPc.hasClosed] at hcl
    exact { hi with
      pcs_ok := hupd (hok.move (by simp) (fun _ => hraced) nofun nofun)
      owner := hi.owner.update (by rw [hp]; rfl) }
  | close hcl =>
    exact { hi with
      pcs_ok := hupd (hok.move (by simp) nofun nofun fun _ => rfl)
      owner := hi.owner.update (by rw [hp]; rfl) }
  | onceWake hd =>
    exact { hi with
      pcs_ok := hupd PcOk.none
      owner := hi.owner.update (by rw [hp]; rfl)
      returned_done := fun _ => hd }
  | waitDone h0 =>
    -- `wg` is 0 after `Watch`: the polling goroutine has returned
    have hx : w.watch = .done → w.task = .exited := fun hd => by
      by_contra hx
      simp [hi.wg_eq, hd, hx, WatchPc.hasAdded] at h0
    exact { hi with
      pcs_ok := hupd PcOk.none
      owner := hi.owner.finish (by simp [hp, ClosePc.owns]) rfl
      done_exited := fun _ => (hok.after_watch (by simp)).imp_left hx
      returned_done := fun _ => rfl }

/-- The invariant holds after every step. -/
theorem Inv.step (hi : Inv w) (hs : Step w w') : Inv w' := by
  cases hs with
  | newTicker h | makeClosed h | wgAdd h | goWatchAsync h =>
    have htask := hi.notStarted_iff.mpr (by simp [h])
    exact { hi with
      started_eq := by simp [hi.started_eq, h]
      notStarted_iff := by simp [htask]
      wg_eq := by simp [hi.wg_eq, h, htask, WatchPc.hasAdded]
      pcs_ok := fun g => (hi.pcs_ok g).of_watch htask (by simp [h]) rfl rfl rfl rfl
      done_exited := fun hd => .inr ((hi.done_exited hd).resolve_left (by simp [htask])) }
  | close g hg h => exact hi.close hg h
  | tick h =>
    exact { hi with
      notStarted_iff := by simpa [h] using hi.notStarted_iff
      wg_eq := by simpa [h] using hi.wg_eq
      pcs_ok := fun g => { hi.pcs_ok g with in_sink := fun _ _ => rfl }
      done_exited := fun hd => .inr ((hi.done_exited hd).resolve_left (by simp [h])) }
  | sinkReturn h hsink =>
    exact { hi with
      notStarted_iff := by simpa [h] using hi.notStarted_iff
      wg_eq := by simpa [h] using hi.wg_eq
      pcs_ok := fun g => { hi.pcs_ok g with in_sink := fun hq hg => (hq (hg ▸ hsink)).elim }
      done_exited := fun hd => .inr ((hi.done_exited hd).resolve_left (by simp [h])) }
  | exit h _ =>
    have hsink := hi.sink_none (by simp [h])
    have hd : w.watch = .done := by simpa [h] using hi.notStarted_iff
    exact { hi with
      notStarted_iff := by simp [hd]
      wg_eq := by simp [hi.wg_eq, h, hd, WatchPc.hasAdded]
      pcs_ok := fun g => { hi.pcs_ok g with in_sink := fun hq hg => (hq (hg ▸ hsink)).elim }
      done_exited := fun _ => .inl rfl }
  | cancel => exact { hi with pcs_ok := fun g => { hi.pcs_ok g with } }

/-- **The invariant holds in every reachable state.** -/
theorem Reachable.inv (hr : Reachable w) : Inv w := by
  induction hr with
  | refl => exact inv_new
  | tail _ hs ih => exact ih.step hs

/-! ### `Close` after `Close`, and the last `Stats` -/

/-- The sink is in `Close`, waiting in `wg.Wait()` (it runs `close`) or in `closeOnce.Do`
    (another goroutine does), while `wg` still counts its own goroutine. -/
def SinkStuck (w : Watcher) : Prop :=
  w.task = .inSink ∧ (w.pcs .sink = .waitGroup ∨ w.pcs .sink = .waitOnce) ∧ w.closeOnce = .running ∧
    w.wg = 1 ∧ w.watch = .done

/-- No step gets a goroutine out of `wg.Wait()` or out of `closeOnce.Do` while the sink
    is stuck. -/
theorem SinkStuck.step (hst : SinkStuck w) (hs : Step w w') :
    SinkStuck w' ∧ ∀ g, (w.pcs g = .waitGroup ∨ w.pcs g = .waitOnce) → w'.pcs g = w.pcs g := by
  obtain ⟨ht, hsink, hrun, hwg, hd⟩ := hst
  cases hs with
  | @close w₁ _ g _ h =>
    obtain ⟨hpcs, ht', hw', hwg', -⟩ := h.frame
    -- the goroutine that moved was at neither place, and `closeOnce` still runs
    have key : w₁.closeOnce = .running ∧ w.pcs g ≠ .waitGroup ∧ w.pcs g ≠ .waitOnce := by
      generalize w.pcs g = p at h ⊢
      cases h <;> simp_all [WatchPc.hasTicker, WatchPc.hasClosed]
    obtain ⟨hrun', hgw, hgo⟩ := key
    have hne : ∀ g', (w.pcs g' = .waitGroup ∨ w.pcs g' = .waitOnce) → g' ≠ g := by
      rintro g' (h' | h') rfl <;> simp_all
    refine ⟨⟨ht'.trans ht, ?_, hrun', hwg'.trans hwg, hw'.trans hd⟩, fun g' hg' => ?_⟩
    · dsimp only
      rwa [Function.update_noteq (hne _ hsink), hpcs]
    · dsimp only
      rw [Function.update_noteq (hne g' hg'), hpcs]
  | cancel => exact ⟨⟨ht, hsink, hrun, hwg, hd⟩, fun _ _ => rfl⟩
  | _ => simp_all

theorem SinkStuck.run (hst : SinkStuck w) (hr : Relation.ReflTransGen Step w w') :
    SinkStuck w' ∧ ∀ g, (w.pcs g = .waitGroup ∨ w.pcs g = .waitOnce) → w'.pcs g = w.pcs g := by
  induction hr with
  | refl => exact ⟨hst, fun _ _ => rfl⟩
  | tail _ hs ih =>
    obtain ⟨hst', hwait⟩ := ih.1.step hs
    exact ⟨hst', fun g h => (hwait g (ih.2 g h ▸ h)).trans (ih.2 g h)⟩

end Watcher

end Xcache
