import Xcache.Multi
import Mathlib.Logic.Relation

namespace Xcache

/-!
# xcache — the tiers of a `Multi` stay coherent

`Multi` over key-value backends that change only through it, apart from keys they drop
on their own (expiry, eviction), and whose failed `Save` has either no effect or its full
effect. The backends are a relation: each call may end several ways.

* `ND`, `ND.Triple` — computations that may end several ways, and Hoare triples over
  them, with the rules for `bind`, `forM` and `foldlM`;
* `kvCache`, `kvMulti` — backend `i` as a `Cache`, and the `Multi` of backends `0 … n-1`;
* `Coherent` — every backend holding a key holds the value of the last `Save` of it;
* `save_coherent`, `load_coherent`, `ttl_coherent`, `stats_coherent` — each call of
  `Multi` keeps the tiers coherent, and a `Load` that hits returns that value;
* `tiers_coherent` — over every run whose `Save`s all return nil.
-/

/-- A computation that may end several ways: from a state, the results and states it can
    end with. -/
def ND (σ α : Type) : Type := σ → α → σ → Prop

namespace ND

variable {σ α β : Type}

instance : Monad (ND σ) where
  pure a := fun s b s' => b = a ∧ s' = s
  bind x f := fun s b s' => ∃ a s₁, x s a s₁ ∧ f a s₁ b s'

@[simp] theorem pure_apply (a : α) (s : σ) (b : α) (s' : σ) :
    (pure a : ND σ α) s b s' ↔ b = a ∧ s' = s := Iff.rfl

@[simp] theorem bind_apply (x : ND σ α) (f : α → ND σ β) (s : σ) (b : β) (s' : σ) :
    (x >>= f) s b s' ↔ ∃ a s₁, x s a s₁ ∧ f a s₁ b s' := Iff.rfl

/-- Every way `x` ends from a state satisfying `P` satisfies `Q`. -/
def Triple (P : σ → Prop) (x : ND σ α) (Q : α → σ → Prop) : Prop :=
  ∀ s a s', P s → x s a s' → Q a s'

theorem Triple.pure' {P : σ → Prop} {Q : α → σ → Prop} {a : α} (h : ∀ s, P s → Q a s) :
    Triple P (pure a) Q := by
  rintro s b s' hp ⟨rfl, rfl⟩; exact h _ hp

theorem Triple.bind {P : σ → Prop} {R : α → σ → Prop} {Q : β → σ → Prop} {x : ND σ α}
    {f : α → ND σ β} (hx : Triple P x R) (hf : ∀ a, Triple (R a) (f a) Q) : Triple P (x >>= f) Q := by
  rintro s b s' hp ⟨a, s₁, h₁, h₂⟩; exact hf a s₁ b s' (hx s a s₁ hp h₁) h₂

theorem Triple.mono {P P' : σ → Prop} {Q Q' : α → σ → Prop} {x : ND σ α} (h : Triple P x Q)
    (hp : ∀ s, P' s → P s) (hq : ∀ a s, Q a s → Q' a s) : Triple P' x Q' :=
  fun s a s' h₁ h₂ => hq a s' (h s a s' (hp s h₁) h₂)

/-- A loop whose body keeps `I` keeps it. -/
theorem Triple.forM {I : σ → Prop} {γ : Type} {f : γ → ND σ PUnit} :
    ∀ {l : List γ}, (∀ c ∈ l, Triple I (f c) fun _ => I) → Triple I (l.forM f) fun _ => I
  | [], _ => Triple.pure' fun _ h => h
  | c :: l, h => (h c (List.mem_cons_self c l)).bind fun _ =>
      Triple.forM fun c' hc' => h c' (List.mem_cons_of_mem c hc')

/-- A fold whose step keeps `I`, for every accumulator, keeps it. -/
theorem Triple.foldlM {I : σ → Prop} {γ δ : Type} {f : δ → γ → ND σ δ} :
    ∀ {l : List γ} {d : δ}, (∀ d, ∀ c ∈ l, Triple I (f d c) fun _ => I) →
      Triple I (l.foldlM f d) fun _ => I
  | [], _, _ => Triple.pure' fun _ h => h
  | c :: l, d, h => (h d c (List.mem_cons_self c l)).bind fun _ =>
      Triple.foldlM fun d' c' hc' => h d' c' (List.mem_cons_of_mem c hc')

end ND

open ND

/-- The contents of the backends: backend `i` holds `stores i key`, if anything. -/
abbrev Stores := Nat → String → Option Bytes

/-- `w'` is `w` after some backends dropped some keys. -/
def Drops (w w' : Stores) : Prop := ∀ i k v, w' i k = some v → w i k = some v

/-- The full effect of `Save(key, value, expire)` on backend `i`: a negative `expire`
    deletes the key. -/
def write (w : Stores) (i : Nat) (key : String) (value : Bytes) (expire : Duration) : Stores :=
  Function.update w i (Function.update (w i) key (if expire < 0 then none else some value))

/-- Backend `i`'s `Save`, after drops: a nil error means the full effect; an error,
    either none or the full effect. -/
def kvSave (i : Nat) (key : String) (value : Bytes) (expire : Duration) : ND Stores (Option GoError) :=
  fun w err w' => ∃ w₁, Drops w w₁ ∧
    (w' = write w₁ i key value expire ∨ (err.isSome ∧ w' = w₁))

/-- Backend `i`'s `Load`, after drops: a nil error means it holds the value returned. -/
def kvLoad (i : Nat) (key : String) : ND Stores (Bytes × Option GoError) :=
  fun w r w' => Drops w w' ∧ (r.2 = none → w' i key = some r.1)

/-- A call that only reads the backends, after drops: any result. -/
def kvRead {α : Type} : ND Stores α := fun w _ w' => Drops w w'

/-- Backend `i` as a `Cache`. -/
def kvCache (i : Nat) : Cache (ND Stores) where
  save := kvSave i
  load := kvLoad i
  ttl _ := kvRead
  stats := kvRead

/-- The `Multi` of backends `0 … n-1`. -/
def kvMulti (n : Nat) : Multi (ND Stores) := ⟨(List.range n).map kvCache⟩

section Coherence

variable (n : Nat)

/-- Every backend of the `Multi` holding a key holds `latest` of it. -/
def Coherent (latest : String → Option Bytes) (w : Stores) : Prop :=
  ∀ i < n, ∀ k v, w i k = some v → latest k = some v

/-- What the `Save` loop keeps: a backend of `ok`, whose `Save` returned nil, holds the
    key only with the new value (not at all after a delete); every other backend, and
    every other key, still holds `latest`. -/
def SaveInv (latest : String → Option Bytes) (key : String) (value : Bytes) (expire : Duration)
    (ok : List Nat) (w : Stores) : Prop :=
  ∀ i < n, ∀ k v, w i k = some v →
    (if i ∈ ok then Function.update latest key (if expire < 0 then none else some value) else latest) k =
      some v

variable {n}

theorem Coherent.drops {latest : String → Option Bytes} {w w' : Stores} (hc : Coherent n latest w)
    (hd : Drops w w') : Coherent n latest w' :=
  fun i hi k v h => hc i hi k v (hd i k v h)

/-- What backend `j` holds of key `k` after `write`: the value written, or what it held. -/
theorem write_eq_some {w : Stores} {i j : Nat} {key k : String} {value v : Bytes} {expire : Duration}
    (h : write w i key value expire j k = some v) :
    (j = i ∧ k = key ∧ (if expire < 0 then none else some value) = some v) ∨
      ((j ≠ i ∨ k ≠ key) ∧ w j k = some v) := by
  unfold write at h
  rcases eq_or_ne j i with rfl | hji
  · rcases eq_or_ne k key with rfl | hk
    · exact .inl ⟨rfl, rfl, by simpa using h⟩
    · exact .inr ⟨.inr hk, by simpa [hk] using h⟩
  · exact .inr ⟨.inl hji, by simpa [hji] using h⟩

/-- Writing `latest` of a key, or deleting it, keeps the tiers coherent. -/
theorem Coherent.write {latest : String → Option Bytes} {w : Stores} (hc : Coherent n latest w)
    {i : Nat} {key : String} {value : Bytes} {expire : Duration}
    (hv : expire < 0 ∨ latest key = some value) : Coherent n latest (write w i key value expire) := by
  intro j hj k v h
  rcases write_eq_some h with ⟨-, rfl, hx⟩ | ⟨-, h⟩
  · split_ifs at hx with hneg
    exact hx ▸ hv.resolve_left hneg
  · exact hc j hj k v h

theorem read_coherent {α : Type} {latest : String → Option Bytes} :
    Triple (Coherent n latest) (kvRead : ND Stores α) fun _ => Coherent n latest :=
  fun _ _ _ hc hd => hc.drops hd

/-- A backend `Save` of `latest`, or a delete, keeps the tiers coherent, whatever it returns. -/
theorem kvSave_coherent {latest : String → Option Bytes} {i : Nat} {key : String} {value : Bytes}
    {expire : Duration} (hv : expire < 0 ∨ latest key = some value) :
    Triple (Coherent n latest) (kvSave i key value expire) fun _ => Coherent n latest := by
  rintro w _ w' hc ⟨w₁, hd, rfl | ⟨-, rfl⟩⟩
  · exact (hc.drops hd).write hv
  · exact hc.drops hd

/-! ### Each call of `Multi` -/

/-- `TTL` only reads the backends. -/
theorem ttl_coherent {latest : String → Option Bytes} (key : String) :
    Triple (Coherent n latest) ((kvMulti n).ttl key) fun _ => Coherent n latest := by
  suffices ∀ (cs : List (Cache (ND Stores))) (mErr : MultiError), (∀ c ∈ cs, ∃ i, c = kvCache i) →
      Triple (Coherent n latest) (Multi.ttlFrom key cs mErr) fun _ => Coherent n latest from
    this _ _ fun c hc => by obtain ⟨i, -, rfl⟩ := List.mem_map.mp hc; exact ⟨i, rfl⟩
  intro cs
  induction cs with
  | nil => exact fun _ _ => Triple.pure' fun _ h => h
  | cons c cs ih =>
    intro mErr hcs
    obtain ⟨i, rfl⟩ := hcs c (List.mem_cons_self c cs)
    have ih' := fun mErr => ih mErr fun c' hc' => hcs c' (List.mem_cons_of_mem _ hc')
    refine read_coherent.bind fun ⟨ttl, err⟩ => ?_
    cases err with
    | some e => exact ih' _
    | none =>
      dsimp only
      split
      · exact Triple.pure' fun _ h => h
      · exact ih' _

/-- `Stats` only reads the backends. -/
theorem stats_coherent {latest : String → Option Bytes} :
    Triple (Coherent n latest) (kvMulti n).stats fun _ => Coherent n latest := by
  refine (Triple.foldlM fun acc c hc => ?_).bind fun ⟨mErr, mStats⟩ => ?_
  · obtain ⟨i, -, rfl⟩ := List.mem_map.mp hc
    refine read_coherent.bind fun ⟨stats, err⟩ => ?_
    cases err <;> exact Triple.pure' fun _ h => h
  · dsimp only; split <;> exact Triple.pure' fun _ h => h

/-- The errors the `Save` loop collects only grow. -/
theorem saveLoop_errors {key : String} {value : Bytes} {expire : Duration} :
    ∀ (cs : List (Cache (ND Stores))) (mErr : MultiError),
      Triple (fun _ => True) (cs.foldlM (Multi.saveStep key value expire) mErr)
        fun mErr' _ => ∃ extra, mErr'.errors = mErr.errors ++ extra
  | [], mErr => Triple.pure' fun _ _ => ⟨[], by simp⟩
  | c :: cs, mErr => by
    refine (show Triple _ (Multi.saveStep key value expire mErr c) fun mErr₁ _ =>
        ∃ extra, mErr₁.errors = mErr.errors ++ extra from ?_).bind fun mErr₁ => ?_
    · refine Triple.bind (fun _ _ _ _ _ => trivial) fun err => Triple.pure' fun _ _ => ?_
      cases err <;> simp
    · intro w mErr' w' ⟨extra, hx⟩ hrun
      obtain ⟨extra', hx'⟩ := saveLoop_errors cs mErr₁ w mErr' w' trivial hrun
      exact ⟨extra ++ extra', by simp [hx', hx]⟩

/-- The `Save` loop: when no backend fails, every backend it went through holds the new
    value of the key, if anything. -/
theorem saveLoop_coherent {latest : String → Option Bytes} {key : String} {value : Bytes}
    {expire : Duration} : ∀ (is ok : List Nat) (mErr : MultiError),
      Triple (SaveInv n latest key value expire ok)
        ((is.map kvCache).foldlM (Multi.saveStep key value expire) mErr)
        fun mErr' w' => mErr'.errors = mErr.errors → SaveInv n latest key value expire (ok ++ is) w'
  | [], ok, mErr => Triple.pure' fun _ h _ => by simpa using h
  | i :: is, ok, mErr => by
    rintro w mErr' w' hinv ⟨mErr₁, w₂, ⟨err, w₁, hsave, rfl, rfl⟩, hrest⟩ heq
    cases err with
    | some e =>
      obtain ⟨extra, hx⟩ := saveLoop_errors _ _ _ mErr' w' trivial hrest
      simp [heq] at hx
    | none =>
      obtain ⟨w₃, hd, hw | ⟨h, -⟩⟩ := hsave
      · subst hw
        have hinv' : SaveInv n latest key value expire (ok ++ [i]) (write w₃ i key value expire) := by
          intro j hj k v h
          rcases write_eq_some h with ⟨rfl, rfl, hx⟩ | ⟨hji | hk, h⟩
          · simpa using hx
          · simpa [hji] using hinv j hj k v (hd j k v h)
          · have := hinv j hj k v (hd j k v h)
            split_ifs at this ⊢ <;> simpa [hk] using this
        simpa using saveLoop_coherent is (ok ++ [i]) mErr _ mErr' w' hinv' hrest heq
      · simp at h

/-- **`Save` keeps the tiers coherent.** A `Multi.Save` that returns nil leaves every
    backend holding the key only with the saved value (not at all after a delete), and
    every other key as it was, so the tiers are coherent with `latest` updated. -/
theorem save_coherent {latest : String → Option Bytes} (key : String) (value : Bytes)
    (expire : Duration) :
    Triple (Coherent n latest) ((kvMulti n).save key value expire) fun err w' =>
      err = none → Coherent n (Function.update latest key (if expire < 0 then none else some value)) w' := by
  rintro w err w' hc ⟨mErr, w₁, hloop, rfl, rfl⟩ herr
  have hinv : SaveInv n latest key value expire [] w := fun i hi k v h => by simpa using hc i hi k v h
  have := saveLoop_coherent (List.range n) [] MultiError.nil w mErr _ hinv hloop
    ((MultiError.errOrNil_eq_none_iff mErr).mp herr)
  intro i hi k v h
  simpa [hi] using this i hi k v h

/-- A read-repair `Save` of `latest` keeps the tiers coherent. -/
theorem repair_coherent {latest : String → Option Bytes} {key : String} {val : Bytes}
    (hval : latest key = some val) (ttl : Duration) :
    ∀ cs : List (Cache (ND Stores)), (∀ c ∈ cs, ∃ i, c = kvCache i) →
      Triple (Coherent n latest) (cs.forM fun upfront => do let _ ← upfront.save key val ttl)
        fun _ => Coherent n latest := fun _ hcs => Triple.forM fun c hc => by
  obtain ⟨i, rfl⟩ := hcs c hc
  exact (kvSave_coherent (.inr hval)).bind fun _ => Triple.pure' fun _ h => h

/-- **`Load` keeps the tiers coherent and returns `latest`.** Read-repair included, a
    `Multi.Load` keeps the tiers coherent, and when it returns a value with a nil error,
    that value is `latest` of the key. -/
theorem load_coherent {latest : String → Option Bytes} (key : String) :
    Triple (Coherent n latest) ((kvMulti n).load key) fun r w' =>
      Coherent n latest w' ∧ (r.2 = none → latest key = some r.1) := by
  suffices ∀ (is : List Nat) (idx : Nat) (mErr : MultiError), (∀ i ∈ is, i < n) →
      Triple (Coherent n latest) ((kvMulti n).loadFrom key idx (is.map kvCache) mErr) fun r w' =>
        Coherent n latest w' ∧ (r.2 = none → latest key = some r.1) from
    this _ 0 _ fun i hi => List.mem_range.mp hi
  intro is
  induction is with
  | nil =>
    intro idx mErr _
    refine Triple.pure' fun _ h => ⟨h, ?_⟩
    cases mErr.errOrNil <;> simp
  | cons i is ih =>
    intro idx mErr hlt
    have hi := hlt i (List.mem_cons_self i is)
    have hpre : ∀ c ∈ (((List.range n).map kvCache).take idx).reverse, ∃ i, c = kvCache i :=
      fun c hc => by
        obtain ⟨i, -, rfl⟩ := List.mem_map.mp (List.mem_of_mem_take (List.mem_reverse.mp hc))
        exact ⟨i, rfl⟩
    have ih' := fun idx mErr => ih idx mErr fun j hj => hlt j (List.mem_cons_of_mem i hj)
    have hload : Triple (Coherent n latest) (kvLoad i key) fun r w₁ =>
        Coherent n latest w₁ ∧ (r.2 = none → latest key = some r.1) :=
      fun w r w₁ hc ⟨hd, hhit⟩ => ⟨hc.drops hd, fun h => hc.drops hd i hi key r.1 (hhit h)⟩
    refine hload.bind fun ⟨val, err⟩ => ?_
    cases err with
    | some e =>
      dsimp only
      split <;> exact (ih' _ _).mono (fun _ h => h.1) fun _ _ h => h
    | none =>
      by_cases hval : latest key = some val
      · refine Triple.mono (P := Coherent n latest) ?_ (fun _ h => h.1) fun _ _ h => h
        dsimp only
        have hend : ∀ _ : Unit, Triple (Coherent n latest)
            (pure ((val, none) : Bytes × Option GoError)) fun r w' =>
            Coherent n latest w' ∧ (r.2 = none → latest key = some r.1) :=
          fun _ => Triple.pure' fun _ h => ⟨h, fun _ => hval⟩
        split
        · refine read_coherent.bind fun ⟨ttl, errTTL⟩ => ?_
          dsimp only
          split
          · exact (repair_coherent hval ttl _ hpre).bind hend
          · exact (Triple.pure' fun _ h => h).bind hend
        · exact (Triple.pure' fun _ h => h).bind hend
      · exact fun _ _ _ h => absurd (h.2 rfl) hval

/-! ### Runs -/

variable (n)

/-- Backends `0 … n-1` agree on every key they hold. -/
def Agree (w : Stores) : Prop :=
  ∀ i < n, ∀ j < n, ∀ k v u, w i k = some v → w j k = some u → v = u

/-- The value the backends hold of each key at the start, counted as a `Save`. -/
def initialLatest (w : Stores) (k : String) : Option Bytes := (List.range n).findSome? fun i => w i k

/-- One call of `Multi` in a run whose `Save`s return nil, or drops between calls, with
    the ghost `latest`: the value of the last `Save` of each key, none after a delete. -/
inductive RunStep : (String → Option Bytes) × Stores → (String → Option Bytes) × Stores → Prop
  | save {latest : String → Option Bytes} {w w' : Stores} (key : String) (value : Bytes)
      (expire : Duration) (h : (kvMulti n).save key value expire w none w') :
      RunStep (latest, w) (Function.update latest key (if expire < 0 then none else some value), w')
  | load {latest : String → Option Bytes} {w w' : Stores} (key : String) (r : Bytes × Option GoError)
      (h : (kvMulti n).load key w r w') : RunStep (latest, w) (latest, w')
  | ttl {latest : String → Option Bytes} {w w' : Stores} (key : String) (r : Duration × Option GoError)
      (h : (kvMulti n).ttl key w r w') : RunStep (latest, w) (latest, w')
  | stats {latest : String → Option Bytes} {w w' : Stores} (r : Stats × Option GoError)
      (h : (kvMulti n).stats w r w') : RunStep (latest, w) (latest, w')
  | drop {latest : String → Option Bytes} {w w' : Stores} (h : Drops w w') : RunStep (latest, w) (latest, w')

variable {n}

theorem coherent_initial {w : Stores} (h : Agree n w) : Coherent n (initialLatest n w) w := by
  intro i hi k v hv
  have hsome : initialLatest n w k ≠ none := by
    simp only [initialLatest, ne_eq, List.findSome?_eq_none_iff, not_forall]
    exact ⟨i, List.mem_range.mpr hi, by simp [hv]⟩
  obtain ⟨u, hu⟩ := Option.ne_none_iff_exists'.mp hsome
  obtain ⟨j, hj, hju⟩ := List.exists_of_findSome?_eq_some hu
  rw [hu, h i hi j (List.mem_range.mp hj) k v u hv hju]

/-- A step of the run keeps the tiers coherent with `latest`. -/
theorem RunStep.coherent {s s' : (String → Option Bytes) × Stores} (hs : RunStep n s s')
    (hc : Coherent n s.1 s.2) : Coherent n s'.1 s'.2 := by
  cases hs with
  | save key value expire h => exact save_coherent key value expire _ _ _ hc h rfl
  | load key r h => exact (load_coherent key _ _ _ hc h).1
  | ttl key r h => exact ttl_coherent key _ _ _ hc h
  | stats r h => exact stats_coherent _ _ _ hc h
  | drop h => exact hc.drops h

/-- Every state of a run from backends that agree is coherent. -/
theorem run_coherent {w₀ : Stores} (hagree : Agree n w₀) {s : (String → Option Bytes) × Stores}
    (hrun : Relation.ReflTransGen (RunStep n) (initialLatest n w₀, w₀) s) : Coherent n s.1 s.2 := by
  induction hrun with
  | refl => exact coherent_initial hagree
  | tail _ hs ih => exact hs.coherent ih

/-- **The tiers stay coherent.** Take backends `0 … n-1` that agree on every key they
    hold, and any run of `Multi.Save`, `Multi.Load`, `Multi.TTL` and `Multi.Stats` calls,
    with drops anywhere, in which every `Multi.Save` returns nil. At every point, a backend
    holding a key holds the value of the last `Save` of it with a non-negative expiry
    after its last delete, the initial values counting as `Save`s, and none holds a key
    with no such `Save`; and a `Multi.Load` that returns a value with a nil error returns
    that value. -/
theorem tiers_coherent (n : Nat) (w₀ : Stores) (hagree : Agree n w₀) (latest : String → Option Bytes)
    (w : Stores) (hrun : Relation.ReflTransGen (RunStep n) (initialLatest n w₀, w₀) (latest, w)) :
    Coherent n latest w ∧
      ∀ key r w', (kvMulti n).load key w r w' → r.2 = none → latest key = some r.1 := by
  have hc : Coherent n latest w := run_coherent hagree hrun
  exact ⟨hc, fun key r w' h => (load_coherent key _ _ _ hc h).2⟩

/-- Two empty backends and one `Multi.Save` returning nil: both hold the value, and a
    `Load` that hits returns it. -/
theorem tiers_coherent_after_save :
    ∃ w : Stores,
      Relation.ReflTransGen (RunStep 2) (initialLatest 2 fun _ _ => none, fun _ _ => none)
        (Function.update (initialLatest 2 fun _ _ => none) "k" (some [1]), w) ∧
      w 0 "k" = some [1] ∧ w 1 "k" = some [1] ∧
      ∀ key r w', (kvMulti 2).load key w r w' → r.2 = none →
        Function.update (initialLatest 2 fun _ _ => none) "k" (some [1]) key = some r.1 := by
  have hsave : (kvMulti 2).save "k" [1] 0 (fun _ _ => none) none
      (write (write (fun _ _ => none) 0 "k" [1] 0) 1 "k" [1] 0) := by
    refine ⟨MultiError.nil, _, ⟨MultiError.nil, write (fun _ _ => none) 0 "k" [1] 0,
      ⟨none, _, ⟨_, fun _ _ _ h => h, .inl rfl⟩, rfl, rfl⟩, ?_⟩, rfl, rfl⟩
    exact ⟨MultiError.nil, _, ⟨none, _, ⟨_, fun _ _ _ h => h, .inl rfl⟩, rfl, rfl⟩, rfl, rfl⟩
  have hrun : Relation.ReflTransGen (RunStep 2) (initialLatest 2 fun _ _ => none, fun _ _ => none)
      (Function.update (initialLatest 2 fun _ _ => none) "k" (some [1]), _) :=
    .single (RunStep.save "k" [1] 0 hsave)
  exact ⟨_, hrun, by simp [write], by simp [write],
    (tiers_coherent 2 _ (fun _ _ _ _ _ _ _ h _ => Option.noConfusion h) _ _ hrun).2⟩

end Coherence

end Xcache
