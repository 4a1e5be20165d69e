import Xcache.Redis.Info
import Xcache.Multi
import Mathlib.Data.List.Perm.Basic
import Mathlib.Logic.Relation

namespace Xcache

/-!
# xcache — the `Stats` of a Redis cluster

`getClusterStats` (`Redis6`, `Redis7`) asks every master for `INFO`, then every replica
for `INFO stats`; `ForEachMaster` and `ForEachSlave` run each node's callback in a
goroutine of its own, and the callbacks add each node's counters into one `Stats` with
`atomic.AddInt64`, one field at a time. A node whose `INFO` fails offers its error to the
one-slot `errCh` of the `ForEach*` call (`select` with a `default`): the first offer
wins, and `getClusterStats` then returns a zero `Stats` with that error.

* `StatsField`, `Stats.addField` — one `atomic.AddInt64` on one field;
* `NodeOp`, `masterOps`, `replicaOps` — what each node's goroutine does to the shared
  state after its `INFO` call;
* `ForEachStep`, `ForEach` — the goroutines of one `ForEach*` call, interleaved one
  operation at a time, until `wg.Wait()` returns;
* `ForEach.spec` — every interleaving adds up to the operations taken one node after
  another, and leaves in `errCh` one of the errors offered, if any;
* `clusterSum`, `ClusterStats` — the sum taken node by node, and the results
  `getClusterStats` can return;
* `clusterStats_order_independent` — every interleaving returns that sum, with the keys
  count left at 0, or a zero `Stats` with the error of a failing node.

The cluster's topology (`ReloadOrGet`) is taken as given: the masters and replicas of
the `ForEach*` calls, with their replies.
-/

/-- A field of `Stats` that an `atomic.AddInt64` of `getClusterStats` adds to. -/
inductive StatsField where
  | memory | maxMemory | hits | misses | expired | evicted
  deriving DecidableEq, Repr

/-- `atomic.AddInt64(&stats.<field>, amount)`. -/
def Stats.addField (s : Stats) : StatsField → Int → Stats
  | .memory, x => { s with memory := int64Add s.memory x }
  | .maxMemory, x => { s with maxMemory := int64Add s.maxMemory x }
  | .hits, x => { s with hits := int64Add s.hits x }
  | .misses, x => { s with misses := int64Add s.misses x }
  | .expired, x => { s with expired := int64Add s.expired x }
  | .evicted, x => { s with evicted := int64Add s.evicted x }

/-- What a node's goroutine does to the shared state after its `INFO` call. -/
inductive NodeOp where
  /-- `atomic.AddInt64` on one field. -/
  | add (field : StatsField) (amount : Int)
  /-- `select { case errCh <- err: default: }` with the `INFO` error. -/
  | fail (err : GoError)

/-- The state the goroutines of a `ForEach*` call share: the `stats` of
    `getClusterStats`, and the one-slot `errCh` of the call. -/
structure Shared where
  stats : Stats
  errCh : Option GoError

namespace NodeOp

/-- One operation on the shared state; an offer to a full `errCh` falls to `default`. -/
def apply : NodeOp → Shared → Shared
  | .add f x, sh => { sh with stats := sh.stats.addField f x }
  | .fail e, sh => { sh with errCh := some (sh.errCh.getD e) }

/-- The addition of an operation, if it is one. -/
def addTo : NodeOp → Stats → Stats
  | .add f x, s => s.addField f x
  | .fail _, s => s

/-- The error an operation offers, if it is an offer. -/
def failOf : NodeOp → Option GoError
  | .add .. => none
  | .fail e => some e

end NodeOp

/-- The master callback on the node's `INFO` reply: the error, or the six
    `atomic.AddInt64` calls of the counters `parseInfoStats` reads with `keyPrefixes`
    (the cache's `statsInfoKeyPrefixes`), in the source's order. -/
def masterOps (keyPrefixes : List String) : Except GoError Bytes → List NodeOp
  | .error e => [.fail e]
  | .ok info =>
    let masterStats := parseInfoStats info keyPrefixes
    [.add .memory masterStats.memory, .add .maxMemory masterStats.maxMemory,
      .add .hits masterStats.hits, .add .misses masterStats.misses,
      .add .expired masterStats.expired, .add .evicted masterStats.evicted]

/-- The replica callback on the node's `INFO stats` reply: the error, or the two
    `atomic.AddInt64` calls of its hits and misses. -/
def replicaOps : Except GoError Bytes → List NodeOp
  | .error e => [.fail e]
  | .ok info =>
    let replicaStats := parseInfoStats info clusterReplicaKeyPrefixes
    [.add .hits replicaStats.hits, .add .misses replicaStats.misses]

/-! ### One `ForEach*` call -/

/-- One step of a `ForEach*` call: the goroutine of node `i` does its next operation. -/
inductive ForEachStep : List (List NodeOp) × Shared → List (List NodeOp) × Shared → Prop
  | step {pending : List (List NodeOp)} {sh : Shared} (i : Nat) (op : NodeOp) (rest : List NodeOp)
      (h : pending[i]? = some (op :: rest)) :
      ForEachStep (pending, sh) (pending.set i rest, op.apply sh)

/-- A `ForEach*` call over the nodes' operations, from the shared state `sh`, run until
    every goroutine has finished (`wg.Wait()`), ends with `sh'`. -/
def ForEach (nodes : List (List NodeOp)) (sh sh' : Shared) : Prop :=
  Relation.ReflTransGen ForEachStep (nodes, sh) (nodes.map fun _ => [], sh')

section Ops

variable {l : List NodeOp}

theorem foldl_apply_stats (sh : Shared) :
    (l.foldl (fun sh op => op.apply sh) sh).stats = l.foldl (fun s op => op.addTo s) sh.stats := by
  induction l generalizing sh with
  | nil => rfl
  | cons op l ih => cases op <;> exact ih _

theorem foldl_apply_errCh (sh : Shared) :
    (l.foldl (fun sh op => op.apply sh) sh).errCh = sh.errCh.or (l.findSome? NodeOp.failOf) := by
  induction l generalizing sh with
  | nil => simp
  | cons op l ih =>
    cases op with
    | add f x => exact ih _
    | fail e =>
      rw [List.foldl_cons, ih]
      rcases sh with ⟨_, _ | _⟩ <;> rfl

theorem int64Add_right_comm (a x y : Int) : int64Add (int64Add a x) y = int64Add (int64Add a y) x := by
  simp only [int64Add, Int.bmod_add_bmod_congr, Int.add_right_comm]

/-- Two atomic additions commute, on the same field or on two. -/
theorem addField_comm (s : Stats) (f g : StatsField) (x y : Int) :
    (s.addField f x).addField g y = (s.addField g y).addField f x := by
  cases f <;> cases g <;> simp only [Stats.addField, int64Add_right_comm]

theorem addTo_comm (a b : NodeOp) (s : Stats) : b.addTo (a.addTo s) = a.addTo (b.addTo s) := by
  cases a <;> cases b <;> simp only [NodeOp.addTo, addField_comm]

end Ops

/-- The goroutine of node `i` moves one operation on: the operations pending, all nodes
    together, lose that one. -/
theorem flatten_set_perm {op : NodeOp} {rest : List NodeOp} :
    ∀ {pending : List (List NodeOp)} {i : Nat}, pending[i]? = some (op :: rest) →
      pending.flatten.Perm (op :: (pending.set i rest).flatten)
  | [], _, h => by simp at h
  | p :: ps, 0, h => by simp at h; simp [h]
  | p :: ps, i + 1, h => by
    simp only [List.getElem?_cons_succ] at h
    simpa using ((flatten_set_perm h).append_left p).trans List.perm_middle

/-- What a run of a `ForEach*` call has done: some merge `done` of the operations of
    each node, the rest pending. -/
def ForEachInv (nodes : List (List NodeOp)) (sh₀ : Shared) (s : List (List NodeOp) × Shared) : Prop :=
  ∃ done : List NodeOp, (done ++ s.1.flatten).Perm nodes.flatten ∧
    s.2 = done.foldl (fun sh op => op.apply sh) sh₀

theorem ForEachInv.step {nodes : List (List NodeOp)} {sh₀ : Shared} {s s' : List (List NodeOp) × Shared}
    (hinv : ForEachInv nodes sh₀ s) (hs : ForEachStep s s') : ForEachInv nodes sh₀ s' := by
  obtain ⟨done, hperm, hsh⟩ := hinv
  cases hs with
  | step i op rest h =>
    dsimp only at hperm hsh
    refine ⟨done ++ [op], ?_, by simp [hsh]⟩
    simpa using ((flatten_set_perm h).symm.append_left done).trans hperm

theorem ForEachInv.run {nodes : List (List NodeOp)} {sh₀ : Shared} {s : List (List NodeOp) × Shared}
    (h : Relation.ReflTransGen ForEachStep (nodes, sh₀) s) : ForEachInv nodes sh₀ s := by
  induction h with
  | refl => exact ⟨[], by simp, rfl⟩
  | tail _ hs ih => exact ih.step hs

/-- **Every interleaving of a `ForEach*` call** adds up to the operations taken one node
    after another, and leaves in `errCh` what it held, or else the first error offered in
    some order of all the operations. -/
theorem ForEach.spec {nodes : List (List NodeOp)} {sh sh' : Shared} (h : ForEach nodes sh sh') :
    sh'.stats = nodes.flatten.foldl (fun s op => op.addTo s) sh.stats ∧
      ∃ done : List NodeOp, done.Perm nodes.flatten ∧ sh'.errCh = sh.errCh.or (done.findSome? NodeOp.failOf) := by
  obtain ⟨done, hperm, hsh⟩ := ForEachInv.run h
  dsimp only at hperm hsh
  have hperm : done.Perm nodes.flatten := by simpa using hperm
  refine ⟨?_, done, hperm, by rw [hsh, foldl_apply_errCh]⟩
  rw [hsh, foldl_apply_stats]
  exact hperm.foldl_eq' (fun a _ b _ s => addTo_comm a b s) _

/-- The goroutine at the head runs all its operations. -/
theorem ForEach.run_head (ops : List NodeOp) (ps : List (List NodeOp)) (sh : Shared) :
    Relation.ReflTransGen ForEachStep (ops :: ps, sh) ([] :: ps, ops.foldl (fun sh op => op.apply sh) sh) := by
  induction ops generalizing sh with
  | nil => exact .refl
  | cons op ops ih => exact .head (.step 0 op ops (by simp)) (ih _)

theorem ForEachStep.cons {s s' : List (List NodeOp) × Shared} (x : List NodeOp) (hs : ForEachStep s s') :
    ForEachStep (x :: s.1, s.2) (x :: s'.1, s'.2) := by
  cases hs with
  | step i op rest h => exact .step (i + 1) op rest (by simpa using h)

/-- **Every `ForEach*` call returns**: the goroutines run one after another are a run. -/
theorem ForEach.seq (nodes : List (List NodeOp)) (sh : Shared) :
    ForEach nodes sh (nodes.flatten.foldl (fun sh op => op.apply sh) sh) := by
  induction nodes generalizing sh with
  | nil => exact .refl
  | cons ops ps ih =>
    rw [List.flatten_cons, List.foldl_append]
    exact (ForEach.run_head ops ps sh).trans ((ih _).lift (fun s => ([] :: s.1, s.2)) fun _ _ hs => hs.cons [])

/-! ### `getClusterStats` -/

/-- A master's counters added to `s`, as `getClusterStats` adds them. -/
def Stats.addMaster (keyPrefixes : List String) (s : Stats) (info : Bytes) : Stats :=
  let m := parseInfoStats info keyPrefixes
  { s with memory := int64Add s.memory m.memory, maxMemory := int64Add s.maxMemory m.maxMemory,
           hits := int64Add s.hits m.hits, misses := int64Add s.misses m.misses,
           expired := int64Add s.expired m.expired, evicted := int64Add s.evicted m.evicted }

/-- A replica's hits and misses added to `s`. -/
def Stats.addReplica (s : Stats) (info : Bytes) : Stats :=
  let r := parseInfoStats info clusterReplicaKeyPrefixes
  { s with hits := int64Add s.hits r.hits, misses := int64Add s.misses r.misses }

/-- The counters of a cluster summed one node after another with `int64` additions:
    each master's memory, max memory, hits, misses, expired and evicted counts, then each
    replica's hits and misses. The keys count is not summed. -/
def clusterSum (keyPrefixes : List String) (masterInfos replicaInfos : List Bytes) : Stats :=
  replicaInfos.foldl Stats.addReplica (masterInfos.foldl (Stats.addMaster keyPrefixes) {})

/-- The results `getClusterStats` can return, with `keyPrefixes` the cache's
    `statsInfoKeyPrefixes`, given the masters' `INFO` replies and the replicas'
    `INFO stats` replies, over every interleaving of the node goroutines. -/
def ClusterStats (keyPrefixes : List String) (masters replicas : List (Except GoError Bytes))
    (r : Stats × Option GoError) : Prop :=
  ∃ sh₁, ForEach (masters.map (masterOps keyPrefixes)) ⟨{}, none⟩ sh₁ ∧
    match sh₁.errCh with
    | some err => r = ({}, some err)
    | none => ∃ sh₂, ForEach (replicas.map replicaOps) ⟨sh₁.stats, none⟩ sh₂ ∧
        match sh₂.errCh with
        | some err => r = ({}, some err)
        | none => r = (sh₂.stats, none)

section Cluster

variable {keyPrefixes : List String}

/-- A node callback offers its `INFO` error as it is, and a reply only adds. -/
theorem fail_mem_ops {ops : Except GoError Bytes → List NodeOp}
    (hops : ∀ x e, NodeOp.fail e ∈ ops x ↔ .error e = x) {xs : List (Except GoError Bytes)} {e : GoError} :
    NodeOp.fail e ∈ (xs.map ops).flatten ↔ .error e ∈ xs := by
  simp only [List.mem_flatten, List.mem_map]
  constructor
  · rintro ⟨_, ⟨x, hx, rfl⟩, hm⟩
    exact (hops x e).mp hm ▸ hx
  · exact fun h => ⟨_, ⟨_, h, rfl⟩, (hops _ e).mpr rfl⟩

theorem fail_mem_masterOps {masters : List (Except GoError Bytes)} {e : GoError} :
    NodeOp.fail e ∈ (masters.map (masterOps keyPrefixes)).flatten ↔ .error e ∈ masters :=
  fail_mem_ops fun x _ => by cases x <;> simp [masterOps]

theorem fail_mem_replicaOps {replicas : List (Except GoError Bytes)} {e : GoError} :
    NodeOp.fail e ∈ (replicas.map replicaOps).flatten ↔ .error e ∈ replicas :=
  fail_mem_ops fun x _ => by cases x <;> simp [replicaOps]

/-- The error a `ForEach*` call from an empty `errCh` ends with: none exactly when no
    node offers one, and otherwise one that some node offered. -/
theorem ForEach.errCh {nodes : List (List NodeOp)} {s : Stats} {sh' : Shared}
    (h : ForEach nodes ⟨s, none⟩ sh') :
    (sh'.errCh = none ↔ ∀ e, NodeOp.fail e ∉ nodes.flatten) ∧
      ∀ e, sh'.errCh = some e → NodeOp.fail e ∈ nodes.flatten := by
  obtain ⟨done, hperm, hch⟩ := (ForEach.spec h).2
  have hch : sh'.errCh = done.findSome? NodeOp.failOf := by simpa using hch
  refine ⟨?_, fun e he => ?_⟩
  · rw [hch, List.findSome?_eq_none_iff]
    constructor
    · exact fun hn e he => by simpa [NodeOp.failOf] using hn _ (hperm.mem_iff.mpr he)
    · rintro hn (_ | e) hop
      · rfl
      · exact absurd (hperm.mem_iff.mp hop) (hn e)
  · obtain ⟨op, hop, hf⟩ := List.exists_of_findSome?_eq_some (hch ▸ he)
    cases op with
    | add => cases hf
    | fail e' => cases hf; exact hperm.mem_iff.mp hop

theorem foldl_addTo_keys (l : List NodeOp) (s : Stats) : (l.foldl (fun s op => op.addTo s) s).keys = s.keys := by
  induction l generalizing s with
  | nil => rfl
  | cons op l ih =>
    rw [List.foldl_cons, ih]
    rcases op with ⟨_ | _ | _ | _ | _ | _, _⟩ | _ <;> rfl

/-- With every node answering, the additions of its callbacks are the node-by-node sum. -/
theorem foldl_ops {ops : Except GoError Bytes → List NodeOp} {g : Stats → Bytes → Stats}
    (hg : ∀ info s, (ops (.ok info)).foldl (fun s op => op.addTo s) s = g s info)
    {xs : List (Except GoError Bytes)} (hok : ∀ x ∈ xs, ∃ info, x = .ok info) (s : Stats) :
    (xs.map ops).flatten.foldl (fun s op => op.addTo s) s = (xs.filterMap Except.toOption).foldl g s := by
  induction xs generalizing s with
  | nil => rfl
  | cons x xs ih =>
    obtain ⟨info, rfl⟩ := hok x (List.mem_cons_self x xs)
    rw [List.map_cons, List.flatten_cons, List.foldl_append, hg]
    exact ih (fun y hy => hok y (List.mem_cons_of_mem _ hy)) _

/-- **Every `getClusterStats` call returns**: the goroutines run one after another. -/
theorem ClusterStats.exists_result (keyPrefixes : List String) (masters replicas : List (Except GoError Bytes)) :
    ∃ r, ClusterStats keyPrefixes masters replicas r := by
  obtain ⟨sh₁, h₁⟩ : ∃ sh₁, ForEach (masters.map (masterOps keyPrefixes)) ⟨{}, none⟩ sh₁ := ⟨_, ForEach.seq _ _⟩
  obtain ⟨sh₂, h₂⟩ : ∃ sh₂, ForEach (replicas.map replicaOps) ⟨sh₁.stats, none⟩ sh₂ := ⟨_, ForEach.seq _ _⟩
  cases hc₁ : sh₁.errCh with
  | some e => exact ⟨({}, some e), sh₁, h₁, by simp only [hc₁]⟩
  | none =>
    cases hc₂ : sh₂.errCh with
    | some e => exact ⟨({}, some e), sh₁, h₁, by simp only [hc₁]; exact ⟨sh₂, h₂, by simp only [hc₂]⟩⟩
    | none => exact ⟨(sh₂.stats, none), sh₁, h₁, by simp only [hc₁]; exact ⟨sh₂, h₂, by simp only [hc₂]⟩⟩

end Cluster

/-- **`getClusterStats` does not depend on the interleaving.** For all masters and
    replicas and their replies, the call returns; and in every interleaving of the node
    goroutines: when every node answers, it returns the counters summed node by node
    with `int64` additions and a nil error, whatever order the atomic additions ran in;
    when some node fails, it returns a zero `Stats` with the error of a failing node, a
    master's when a master fails; and the keys count is 0 in every result. -/
theorem clusterStats_order_independent (keyPrefixes : List String)
    (masters replicas : List (Except GoError Bytes)) :
    (∃ r, ClusterStats keyPrefixes masters replicas r) ∧
      ∀ r, ClusterStats keyPrefixes masters replicas r →
        r.1.keys = 0 ∧
        ((∀ x ∈ masters ++ replicas, ∃ info, x = .ok info) →
          r = (clusterSum keyPrefixes (masters.filterMap Except.toOption)
            (replicas.filterMap Except.toOption), none)) ∧
        ((∃ e, .error e ∈ masters ++ replicas) →
          r.1 = {} ∧ ∃ e, r.2 = some e ∧
            (.error e ∈ masters ∨ (∀ e', .error e' ∉ masters) ∧ .error e ∈ replicas)) := by
  refine ⟨ClusterStats.exists_result keyPrefixes masters replicas, fun r ⟨sh₁, h₁, hm⟩ => ?_⟩
  have herr₁ := ForEach.errCh h₁
  -- a node that fails is no node that answers
  have hne : ∀ {l : List (Except GoError Bytes)} {e}, .error e ∈ l → ¬ ∀ x ∈ l, ∃ info, x = .ok info :=
    fun he hok => by obtain ⟨_, h⟩ := hok _ he; cases h
  cases hc₁ : sh₁.errCh with
  | some e =>
    rw [hc₁] at hm; subst hm
    have he : .error e ∈ masters := fail_mem_masterOps.mp (herr₁.2 e hc₁)
    exact ⟨rfl, fun hok => absurd (fun x hx => hok x (List.mem_append_left _ hx)) (hne he),
      fun _ => ⟨rfl, e, rfl, .inl he⟩⟩
  | none =>
    rw [hc₁] at hm
    obtain ⟨sh₂, h₂, hm⟩ := hm
    have herr₂ := ForEach.errCh h₂
    have hm₁ : ∀ e, .error e ∉ masters := fun e he => herr₁.1.mp hc₁ e (fail_mem_masterOps.mpr he)
    cases hc₂ : sh₂.errCh with
    | some e =>
      rw [hc₂] at hm; subst hm
      have he : .error e ∈ replicas := fail_mem_replicaOps.mp (herr₂.2 e hc₂)
      exact ⟨rfl, fun hok => absurd (fun x hx => hok x (List.mem_append_right _ hx)) (hne he),
        fun _ => ⟨rfl, e, rfl, .inr ⟨hm₁, he⟩⟩⟩
    | none =>
      rw [hc₂] at hm; subst hm
      have hstats₁ := (ForEach.spec h₁).1
      have hstats₂ := (ForEach.spec h₂).1
      refine ⟨by simp only [hstats₂, hstats₁, foldl_addTo_keys], fun hok => ?_, ?_⟩
      · rw [hstats₂, hstats₁, foldl_ops (fun _ _ => rfl) fun x hx => hok x (List.mem_append_left _ hx),
          foldl_ops (fun _ _ => rfl) fun x hx => hok x (List.mem_append_right _ hx)]
        rfl
      · rintro ⟨e, he⟩
        rcases List.mem_append.mp he with he | he
        · exact absurd he (hm₁ e)
        · exact absurd (fail_mem_replicaOps.mpr he) (herr₂.1.mp hc₂ e)

/-- A cluster whose second master fails: whichever goroutine runs first, the call
    returns a zero `Stats` with that master's error. -/
theorem clusterStats_master_fails :
    ∃ r, ClusterStats [] [.ok [], .error (.other 1)] [.ok []] r ∧ r = ({}, some (.other 1)) := by
  obtain ⟨⟨r, hr⟩, hall⟩ := clusterStats_order_independent [] [.ok [], .error (.other 1)] [.ok []]
  obtain ⟨-, -, herr⟩ := hall r hr
  obtain ⟨h₁, e, h₂, he⟩ := herr ⟨.other 1, by simp⟩
  have he : e = .other 1 := by
    rcases he with he | ⟨-, he⟩
    · simpa using he
    · simp at he
  exact ⟨r, hr, Prod.ext h₁ (he ▸ h₂)⟩

end Xcache
