import Xcache.Multi

namespace Xcache

/-!
# xcache — the calls `Multi` makes, over every list of backends

`Mock.multi ms` is `NewMulti` over the mocks `ms`, numbered from 0. A mock answers each
call with an arbitrary function of its arguments, and every operation of `Multi` calls
each backend at most once per method, so these statements cover every list of
backends and every combination of their answers.

* `save_fans_out` — `Multi.Save` calls every backend once, in order, and aggregates
  exactly the failures;
* `load_reads_through` — `Multi.Load` stops at the first hit, read-repairs the tiers
  before it in descending order, and classifies a full miss;
* `ttl_first_non_negative` — `Multi.TTL` stops at the first successful non-negative
  TTL, which is the TTL of the backend `Multi.Load` reads from;
* `stats_all_or_nothing` — `Multi.Stats` calls every backend once, in order, and returns
  the field-wise `int64` sum when all succeed, or a zero `Stats` with exactly the
  failures.
-/

namespace Mock

/-- `NewMulti(mocks...)`: the mocks numbered from 0. -/
def multi (ms : List Mock) : Multi CallLog := ⟨cachesFrom 0 ms⟩

theorem cachesFrom_take (i k : Nat) (ms : List Mock) :
    (cachesFrom i ms).take k = cachesFrom i (ms.take k) := by
  induction ms generalizing i k with
  | nil => simp
  | cons mock ms ih => cases k <;> simp [ih]

end Mock

open Multi

/-! ### `Multi.Save` -/

/-- The `Multi.Save` loop over mocks numbered `i, …` records one save per mock and
    collects the non-nil errors, in order. -/
theorem saveLoop_run (key : String) (value : Bytes) (expire : Duration) (i : Nat)
    (ms : List Mock) (mErr : MultiError) (log : List Call) :
    ((Mock.cachesFrom i ms).foldlM (saveStep key value expire) mErr).run log =
      (⟨mErr.errors ++ ms.filterMap fun mock => mock.saveCallback key value expire⟩,
        log ++ (List.range' i ms.length).map (Call.save · key value expire)) := by
  induction ms generalizing i mErr log with
  | nil => simp
  | cons mock ms ih =>
    simp only [Mock.cachesFrom_cons, List.foldlM_cons, StateT.run_bind, saveStep,
      Mock.toCache_save_run, StateT.run_pure, Id.bind_eq, ih]
    cases h : mock.saveCallback key value expire <;>
      simp [h, List.filterMap_cons, List.range'_succ]

/-- **`Multi.Save` fans out unconditionally.** Every backend is called once, in index
    order, whichever fail; the result is nil exactly when every call returned nil, and
    otherwise aggregates exactly the returned errors, in index order, each of which it
    matches under `errors.Is`. -/
theorem save_fans_out (ms : List Mock) (key : String) (value : Bytes) (expire : Duration)
    (log : List Call) :
    let errs := ms.filterMap fun mock => mock.saveCallback key value expire
    ((Mock.multi ms).save key value expire).run log =
        (if errs.isEmpty then none else some (.multi errs),
          log ++ (List.range ms.length).map (Call.save · key value expire)) ∧
      (errs = [] ↔ ∀ mock ∈ ms, mock.saveCallback key value expire = none) ∧
      ∀ x ∈ errs, errorsIs (.multi errs) x = true := by
  refine ⟨?_, by simp [List.filterMap_eq_nil_iff], fun x hx => errorsIs_multi_of_mem hx⟩
  simp only [Multi.save, Mock.multi, StateT.run_bind, saveLoop_run, StateT.run_pure, Id.bind_eq,
    List.range_eq_range']
  simp [MultiError.errOrNil]

/-! ### `Multi.Load` -/

/-- Read-repair into the mocks numbered `i, …`: one save each, the highest number
    first. -/
theorem repair_run (key : String) (val : Bytes) (ttl : Duration) (i : Nat) (ms : List Mock)
    (log : List Call) :
    (((Mock.cachesFrom i ms).reverse.forM fun upfront => do
        let _ ← upfront.save key val ttl).run log) =
      (⟨⟩, log ++ (List.range' i ms.length).reverse.map (Call.save · key val ttl)) := by
  induction ms generalizing i log with
  | nil => simp
  | cons mock ms ih =>
    simp only [Mock.cachesFrom_cons, List.reverse_cons, List.forM_append, StateT.run_bind, ih]
    simp [List.range'_succ]

section Load

variable (ms : List Mock) (key : String)

/-- A miss at index `idx`: one load, and the error is kept unless it is `ErrNotFound`. -/
theorem loadFrom_miss {idx : Nat} (h : idx < ms.length) {err : GoError}
    (herr : (ms[idx].loadCallback key).2 = some err) (mErr : MultiError) (log : List Call) :
    ((Mock.multi ms).loadFrom key idx (Mock.cachesFrom idx (ms.drop idx)) mErr).run log =
      ((Mock.multi ms).loadFrom key (idx + 1) (Mock.cachesFrom (idx + 1) (ms.drop (idx + 1)))
        (if errorsIs err .errNotFound then mErr else mErr.add (some err))).run
          (log ++ [.load idx key]) := by
  rw [List.drop_eq_getElem_cons h]
  simp only [Mock.cachesFrom_cons, loadFrom, StateT.run_bind, Mock.toCache_load_run, Id.bind_eq,
    herr]
  split_ifs <;> rfl

/-- A hit at index `idx`: one load; past index 0, one TTL call on the same mock and, when
    it succeeds, one save of the value with that TTL into each mock before it, in
    descending order. -/
theorem loadFrom_hit {idx : Nat} (h : idx < ms.length)
    (hhit : (ms[idx].loadCallback key).2 = none) (mErr : MultiError) (log : List Call) :
    ((Mock.multi ms).loadFrom key idx (Mock.cachesFrom idx (ms.drop idx)) mErr).run log =
      (((ms[idx].loadCallback key).1, none), log ++ [.load idx key] ++
        if idx = 0 then [] else .ttl idx key :: match ms[idx].ttlCallback key with
          | (t, none) => (List.range idx).reverse.map (Call.save · key (ms[idx].loadCallback key).1 t)
          | (_, some _) => []) := by
  rw [List.drop_eq_getElem_cons h]
  simp only [Mock.cachesFrom_cons, loadFrom, StateT.run_bind, Mock.toCache_load_run, Id.bind_eq,
    hhit]
  rcases Nat.eq_zero_or_pos idx with rfl | hpos
  · simp
  · simp only [if_pos hpos, StateT.run_bind, Mock.toCache_ttl_run, Id.bind_eq]
    rcases h2 : ms[idx].ttlCallback key with ⟨t, _ | e⟩
    · simp only [Option.isNone_none, if_true, StateT.run_bind, Mock.multi, Mock.cachesFrom_take,
        repair_run]
      simp [Nat.min_eq_left h.le, List.range_eq_range', Nat.pos_iff_ne_zero.mp hpos]
    · simp [Nat.pos_iff_ne_zero.mp hpos]

/-- The errors a run of misses keeps: every non-nil error but `ErrNotFound` ones. -/
def loadMissErrors (ns : List Mock) : List GoError :=
  (ns.filterMap fun mock => (mock.loadCallback key).2).filter fun e => !errorsIs e .errNotFound

/-- A run of misses over the first `k` mocks: one load each, in order, keeping their
    errors but `ErrNotFound` ones. -/
theorem load_misses {k : Nat} (hk : k ≤ ms.length)
    (hmiss : ∀ i (hi : i < k), (ms[i].loadCallback key).2 ≠ none) (log : List Call) :
    ((Mock.multi ms).load key).run log =
      ((Mock.multi ms).loadFrom key k (Mock.cachesFrom k (ms.drop k))
        ⟨loadMissErrors key (ms.take k)⟩).run (log ++ (List.range k).map (Call.load · key)) := by
  induction k with
  | zero => simp [Multi.load, Mock.multi, loadMissErrors, MultiError.nil]
  | succ k ih =>
    have hk' : k < ms.length := hk
    obtain ⟨err, herr⟩ := Option.ne_none_iff_exists'.mp (hmiss k (Nat.lt_succ_self k))
    rw [ih hk'.le (fun i hi => hmiss i (Nat.lt_succ_of_lt hi)), loadFrom_miss ms key hk' herr]
    simp only [loadMissErrors, List.take_succ, List.getElem?_eq_getElem hk', Option.toList_some,
      List.filterMap_append, List.filterMap_cons, herr, List.filterMap_nil, List.filter_append,
      List.range_succ, List.map_append, List.map_cons, List.map_nil, List.append_assoc]
    split_ifs with hnf <;> simp [hnf, MultiError.add]

end Load

/-- **`Multi.Load` reads through the tiers with read-repair.** With `j` the least index
    that hits, the result is that mock's value, after one load on each of mocks
    `0, …, j`; past index 0, one TTL call on mock `j` and, exactly when it succeeds with
    `t`, one save of the value with `t` into each of mocks `j-1, …, 0`, in that order
    (their errors never reach the result). With no hit, every mock is loaded once and
    nothing else is called; the result is `ErrNotFound` when every error is
    `ErrNotFound` under `errors.Is`, and otherwise aggregates exactly the other errors
    in index order, matching each of them and not `ErrNotFound`. -/
theorem load_reads_through (ms : List Mock) (key : String) (log : List Call) :
    (∀ j (hj : j < ms.length), (ms[j].loadCallback key).2 = none →
      (∀ i (hi : i < j), (ms[i].loadCallback key).2 ≠ none) →
      ((Mock.multi ms).load key).run log =
        (((ms[j].loadCallback key).1, none),
          log ++ (List.range (j + 1)).map (Call.load · key) ++
            if j = 0 then [] else .ttl j key :: match ms[j].ttlCallback key with
              | (t, none) => (List.range j).reverse.map (Call.save · key (ms[j].loadCallback key).1 t)
              | (_, some _) => [])) ∧
    ((∀ i (hi : i < ms.length), (ms[i].loadCallback key).2 ≠ none) →
      let errs := (ms.filterMap fun mock => (mock.loadCallback key).2).filter
        fun e => !errorsIs e .errNotFound
      ((Mock.multi ms).load key).run log =
          (([], some (if errs.isEmpty then .errNotFound else .multi errs)),
            log ++ (List.range ms.length).map (Call.load · key)) ∧
        (errs = [] ↔ ∀ mock ∈ ms, ∀ e, (mock.loadCallback key).2 = some e →
          errorsIs e .errNotFound = true) ∧
        (∀ x ∈ errs, errorsIs (.multi errs) x = true) ∧
        errorsIs (.multi errs) .errNotFound = false) := by
  refine ⟨fun j hj hhit hmiss => ?_, fun hmiss => ?_⟩
  · rw [load_misses ms key hj.le hmiss, loadFrom_hit ms key hj hhit, List.range_succ]
    simp
  · refine ⟨?_, ?_, fun x hx => errorsIs_multi_of_mem hx, ?_⟩
    · rw [load_misses ms key le_rfl hmiss, List.drop_length, List.take_length]
      simp only [Mock.cachesFrom_nil, loadFrom, StateT.run_pure, loadMissErrors]
      simp only [MultiError.errOrNil]
      split_ifs <;> rfl
    · simp only [List.filter_eq_nil_iff, List.mem_filterMap, Bool.not_eq_eq_eq_not, Bool.not_true,
        Bool.not_eq_false, forall_exists_index, and_imp]
      exact ⟨fun h mock hm e he => h e mock hm he, fun h e mock hm he => h mock hm e he⟩
    · simp only [errorsIs_multi_errNotFound, List.any_eq_false, List.mem_filter]
      intro e he; simpa using he.2

/-! ### `Multi.TTL` -/

section TTL

variable (ms : List Mock) (key : String)

/-- Mock `i` stops the `Multi.TTL` scan: its TTL call succeeds with a non-negative TTL. -/
def ttlStops (mock : Mock) : Prop :=
  (mock.ttlCallback key).2 = none ∧ 0 ≤ (mock.ttlCallback key).1

/-- One step of the `Multi.TTL` scan: a mock that does not stop it keeps its error, if
    any, and the scan goes on. -/
theorem ttlFrom_skip {i : Nat} {mock : Mock} (ns : List Mock) (h : ¬ ttlStops key mock)
    (mErr : MultiError) (log : List Call) :
    (ttlFrom key (Mock.cachesFrom i (mock :: ns)) mErr).run log =
      (ttlFrom key (Mock.cachesFrom (i + 1) ns) (mErr.add (mock.ttlCallback key).2)).run
        (log ++ [.ttl i key]) := by
  simp only [Mock.cachesFrom_cons, ttlFrom, StateT.run_bind, Mock.toCache_ttl_run, Id.bind_eq]
  rcases h2 : mock.ttlCallback key with ⟨t, _ | e⟩
  · have : ¬ 0 ≤ t := fun ht => h ⟨by simp [h2], by simp [h2, ht]⟩
    simp [this]
  · rfl

/-- The scan stops at a mock that stops it, with that mock's TTL and one more call. -/
theorem ttlFrom_stop {i : Nat} {mock : Mock} (ns : List Mock) (h : ttlStops key mock)
    (mErr : MultiError) (log : List Call) :
    (ttlFrom key (Mock.cachesFrom i (mock :: ns)) mErr).run log =
      (((mock.ttlCallback key).1, none), log ++ [.ttl i key]) := by
  obtain ⟨hnil, hpos⟩ := h
  simp only [Mock.cachesFrom_cons, ttlFrom, StateT.run_bind, Mock.toCache_ttl_run, Id.bind_eq,
    hnil, if_pos hpos]
  rfl

/-- A scan over the first `k` mocks, none of which stops it. -/
theorem ttl_skips {k : Nat} (hk : k ≤ ms.length)
    (hskip : ∀ i (hi : i < k), ¬ ttlStops key ms[i]) (log : List Call) :
    ((Mock.multi ms).ttl key).run log =
      (ttlFrom key (Mock.cachesFrom k (ms.drop k))
        ⟨(ms.take k).filterMap fun mock => (mock.ttlCallback key).2⟩).run
          (log ++ (List.range k).map (Call.ttl · key)) := by
  induction k with
  | zero => simp [Multi.ttl, Mock.multi, MultiError.nil]
  | succ k ih =>
    have hk' : k < ms.length := hk
    rw [ih hk'.le (fun i hi => hskip i (Nat.lt_succ_of_lt hi)), List.drop_eq_getElem_cons hk',
      ttlFrom_skip key _ (hskip k (Nat.lt_succ_self k))]
    simp only [List.take_succ, List.getElem?_eq_getElem hk', Option.toList_some,
      List.filterMap_append, List.filterMap_cons, List.filterMap_nil, List.range_succ,
      List.map_append, List.map_cons, List.map_nil, List.append_assoc]
    cases (ms[k].ttlCallback key).2 <;> simp [MultiError.add]

end TTL

/-- **`Multi.TTL` returns the first non-negative TTL.** Mocks are called once each, in
    order, up to and including the first whose TTL call succeeds with `t ≥ 0` (`t = 0`
    included), and the result is `(t, nil)`; a failing mock is skipped whatever its
    duration. With no such mock, every mock is called once and the result is `-1` with
    the aggregated errors, nil when there is none. When no mock fails and each TTL is
    non-negative exactly when that mock's load hits, the TTL reported is that of the mock
    `Multi.Load` returns the value of. -/
theorem ttl_first_non_negative (ms : List Mock) (key : String) (log : List Call) :
    (∀ j (hj : j < ms.length), ttlStops key ms[j] → (∀ i (hi : i < j), ¬ ttlStops key ms[i]) →
      ((Mock.multi ms).ttl key).run log =
        (((ms[j].ttlCallback key).1, none), log ++ (List.range (j + 1)).map (Call.ttl · key))) ∧
    ((∀ i (hi : i < ms.length), ¬ ttlStops key ms[i]) →
      let errs := ms.filterMap fun mock => (mock.ttlCallback key).2
      ((Mock.multi ms).ttl key).run log =
        ((-1, if errs.isEmpty then none else some (.multi errs)),
          log ++ (List.range ms.length).map (Call.ttl · key))) ∧
    ((∀ i (hi : i < ms.length), (ms[i].ttlCallback key).2 = none ∧
        (0 ≤ (ms[i].ttlCallback key).1 ↔ (ms[i].loadCallback key).2 = none)) →
      ∀ j (hj : j < ms.length), (ms[j].loadCallback key).2 = none →
        (∀ i (hi : i < j), (ms[i].loadCallback key).2 ≠ none) →
        (((Mock.multi ms).load key).run log).1 = ((ms[j].loadCallback key).1, none) ∧
        (((Mock.multi ms).ttl key).run log).1 = ((ms[j].ttlCallback key).1, none)) := by
  have first : ∀ j (hj : j < ms.length), ttlStops key ms[j] →
      (∀ i (hi : i < j), ¬ ttlStops key ms[i]) →
      ((Mock.multi ms).ttl key).run log =
        (((ms[j].ttlCallback key).1, none), log ++ (List.range (j + 1)).map (Call.ttl · key)) := by
    intro j hj hstop hskip
    rw [ttl_skips ms key hj.le hskip, List.drop_eq_getElem_cons hj, ttlFrom_stop key _ hstop,
      List.range_succ]
    simp
  refine ⟨first, fun hskip => ?_, fun hagree j hj hhit hmiss => ⟨?_, ?_⟩⟩
  · rw [ttl_skips ms key le_rfl hskip, List.drop_length, List.take_length]
    rfl
  · rw [(load_reads_through ms key log).1 j hj hhit hmiss]
  · have stops : ∀ i (hi : i < ms.length), ttlStops key ms[i] ↔ (ms[i].loadCallback key).2 = none :=
      fun i hi => ⟨fun h => (hagree i hi).2.mp h.2, fun h => ⟨(hagree i hi).1, (hagree i hi).2.mpr h⟩⟩
    rw [first j hj ((stops j hj).mpr hhit)
      (fun i hi h => hmiss i hi (((stops i (hi.trans hj)).mp h)))]

/-! ### `Multi.Stats` -/

/-- The field-wise sum of `ss`: each field the exact sum of that field over `ss`, taken
    modulo `2^64` into the `int64` range. -/
def Stats.int64Sum (ss : List Stats) : Stats where
  memory := ((ss.map Stats.memory).foldl (· + ·) 0).bmod 18446744073709551616
  maxMemory := ((ss.map Stats.maxMemory).foldl (· + ·) 0).bmod 18446744073709551616
  hits := ((ss.map Stats.hits).foldl (· + ·) 0).bmod 18446744073709551616
  misses := ((ss.map Stats.misses).foldl (· + ·) 0).bmod 18446744073709551616
  keys := ((ss.map Stats.keys).foldl (· + ·) 0).bmod 18446744073709551616
  expired := ((ss.map Stats.expired).foldl (· + ·) 0).bmod 18446744073709551616
  evicted := ((ss.map Stats.evicted).foldl (· + ·) 0).bmod 18446744073709551616

/-- One more `int64` addition extends the sum by one `Stats`. -/
theorem int64Sum_add (ss : List Stats) (t : Stats) :
    (Stats.int64Sum ss).add t = Stats.int64Sum (ss ++ [t]) := by
  simp only [Stats.add, Stats.int64Sum, int64Add, Int.bmod_add_bmod_congr, List.map_append,
    List.foldl_append, List.map_cons, List.map_nil, List.foldl_cons, List.foldl_nil]

/-- The additions of the `Multi.Stats` loop, from a zero `Stats`, are the field-wise
    `int64` sum. -/
theorem foldl_add_int64Sum (ss : List Stats) : ss.foldl Stats.add {} = Stats.int64Sum ss := by
  suffices ∀ pre, ss.foldl Stats.add (Stats.int64Sum pre) = Stats.int64Sum (pre ++ ss) from this []
  induction ss with
  | nil => simp
  | cons t ss ih => intro pre; rw [List.foldl_cons, int64Sum_add, ih]; simp

/-- The `Multi.Stats` loop over mocks numbered `i, …` records one stats call per mock,
    collects the non-nil errors in order, and adds up the stats of the mocks that
    answered. -/
theorem statsLoop_run (i : Nat) (ms : List Mock) (acc : MultiError × Stats) (log : List Call) :
    ((Mock.cachesFrom i ms).foldlM statsStep acc).run log =
      ((⟨acc.1.errors ++ ms.filterMap fun mock => mock.statsCallback.2⟩,
          ((ms.filter fun mock => mock.statsCallback.2.isNone).map fun mock => mock.statsCallback.1).foldl
            Stats.add acc.2),
        log ++ (List.range' i ms.length).map Call.stats) := by
  induction ms generalizing i acc log with
  | nil => simp
  | cons mock ms ih =>
    simp only [Mock.cachesFrom_cons, List.foldlM_cons, StateT.run_bind, statsStep,
      Mock.toCache_stats_run, Id.bind_eq]
    rcases h : mock.statsCallback with ⟨t, _ | e⟩ <;> simp [h, ih, List.range'_succ]

/-- **`Multi.Stats` is all-or-nothing.** Every backend is called once, in index order.
    When every call succeeds, the result is the field-wise `int64` sum of their stats and
    a nil error; when any fails, it is a zero `Stats` with exactly the returned errors, in
    index order, and nothing of the successful backends' stats. -/
theorem stats_all_or_nothing (ms : List Mock) (log : List Call) :
    let errs := ms.filterMap fun mock => mock.statsCallback.2
    (((Mock.multi ms).stats).run log).2 = log ++ (List.range ms.length).map Call.stats ∧
      ((∀ mock ∈ ms, mock.statsCallback.2 = none) →
        (((Mock.multi ms).stats).run log).1 =
          (Stats.int64Sum (ms.map fun mock => mock.statsCallback.1), none)) ∧
      ((∃ mock ∈ ms, mock.statsCallback.2 ≠ none) →
        (((Mock.multi ms).stats).run log).1 = ({}, some (.multi errs))) := by
  simp only [Multi.stats, Mock.multi, StateT.run_bind, statsLoop_run, Id.bind_eq, MultiError.nil_errors,
    List.nil_append, List.range_eq_range']
  refine ⟨by split <;> rfl, fun hok => ?_, fun ⟨mock, hm, he⟩ => ?_⟩
  · have herrs : (ms.filterMap fun mock => mock.statsCallback.2) = [] :=
      List.filterMap_eq_nil_iff.mpr hok
    have hall : (ms.filter fun mock => mock.statsCallback.2.isNone) = ms :=
      List.filter_eq_self.mpr fun mock hm => by simp [hok mock hm]
    simp [MultiError.errOrNil, herrs, hall, foldl_add_int64Sum]
  · have herrs : (ms.filterMap fun mock => mock.statsCallback.2) ≠ [] := by
      obtain ⟨e, he⟩ := Option.ne_none_iff_exists'.mp he
      exact List.ne_nil_of_mem (List.mem_filterMap.mpr ⟨mock, hm, he⟩)
    simp [MultiError.errOrNil, herrs]

end Xcache
