import Xcache.Multi.Coherence
import Mathlib.Data.List.Forall2

namespace Xcache

/-!
# xcache — backends that simulate the abstract tiers

`Xcache.Multi.Coherence` proves the tiers coherent over abstract key-value backends. A
`Multi` over real backends is coherent when each call of each backend ends in a way the
abstract backend's call may end, read through what the backends hold (their view). The
simulation is stated once per backend and lifted here, through the code of `Multi`, to
its calls.

* `SaveEffect`, `LoadEffect` — what a backend's `Save` and `Load` may do to what it
  holds; `kvSave_of_effect`, `kvLoad_of_effect`, `kvRead_of_effect` — a call on backend
  `i` with that effect, and no other, is a call of abstract backend `i`;
* `Sim`, `CacheSim` — a call over the backends ends in a way the abstract call may end
  from their view;
* `Multi.save_sim`, `Multi.load_sim`, `Multi.ttl_sim`, `Multi.stats_sim` — each call of
  `Multi` over backends that simulate the abstract ones simulates the abstract call.
-/

open ND

/-! ### What each call of a backend does to what it holds -/

/-- What a backend's `Save` may do to what it holds: write the key (delete it for a
    negative `expire`), or, returning an error, nothing. -/
def SaveEffect (key : String) (value : Bytes) (expire : Duration) (v : String → Option Bytes)
    (err : Option GoError) (v' : String → Option Bytes) : Prop :=
  v' = Function.update v key (if expire < 0 then none else some value) ∨ (err.isSome ∧ v' = v)

/-- What a backend's `Load` may do: nothing, and a hit is the value it holds. -/
def LoadEffect (key : String) (v : String → Option Bytes) (r : Bytes × Option GoError)
    (v' : String → Option Bytes) : Prop :=
  v' = v ∧ (r.2 = none → v key = some r.1)

/-- A `Save` on backend `i` with the effect of a `Save`, and none elsewhere, is abstract
    backend `i`'s `Save`. -/
theorem kvSave_of_effect {i : Nat} {key : String} {value : Bytes} {expire : Duration}
    {w w' : Stores} {err : Option GoError}
    (h : ∃ v', SaveEffect key value expire (w i) err v' ∧ w' = Function.update w i v') :
    kvSave i key value expire w err w' := by
  obtain ⟨v', hv', rfl⟩ := h
  refine ⟨w, fun _ _ _ h => h, ?_⟩
  rcases hv' with rfl | ⟨herr, rfl⟩
  · exact .inl rfl
  · exact .inr ⟨herr, Function.update_eq_self i w⟩

/-- A `Load` on backend `i` with the effect of a `Load` is abstract backend `i`'s `Load`. -/
theorem kvLoad_of_effect {i : Nat} {key : String} {w w' : Stores} {r : Bytes × Option GoError}
    (h : ∃ v', LoadEffect key (w i) r v' ∧ w' = Function.update w i v') : kvLoad i key w r w' := by
  obtain ⟨v', ⟨rfl, hhit⟩, rfl⟩ := h
  rw [Function.update_eq_self]
  exact ⟨fun _ _ _ h => h, hhit⟩

/-- A call on backend `i` that leaves what it holds as it was only reads. -/
theorem kvRead_of_effect {α : Type} {i : Nat} {w w' : Stores} {a : α}
    (h : ∃ v', v' = w i ∧ w' = Function.update w i v') : (kvRead : ND Stores α) w a w' := by
  obtain ⟨v', rfl, rfl⟩ := h
  rw [Function.update_eq_self]
  exact fun _ _ _ h => h

/-! ### Simulation -/

section Sim

variable {σ : Type} (view : σ → Stores)

/-- A call over backends with states `σ` simulates an abstract call: every way it ends is
    a way the abstract call may end from the view. -/
def Sim {α : Type} (x : ND σ α) (y : ND Stores α) : Prop :=
  ∀ s a s', x s a s' → y (view s) a (view s')

/-- Each call of `c` simulates the same call of `c'`. -/
structure CacheSim (c : Cache (ND σ)) (c' : Cache (ND Stores)) : Prop where
  save : ∀ key value expire, Sim view (c.save key value expire) (c'.save key value expire)
  load : ∀ key, Sim view (c.load key) (c'.load key)
  ttl : ∀ key, Sim view (c.ttl key) (c'.ttl key)
  stats : Sim view c.stats c'.stats

variable {view}

namespace Sim

variable {α β : Type}

theorem pure (a : α) : Sim view (pure a) (pure a) := by
  rintro s b s' ⟨rfl, rfl⟩; exact ⟨rfl, rfl⟩

theorem bind {x : ND σ α} {y : ND Stores α} {f : α → ND σ β} {g : α → ND Stores β}
    (hx : Sim view x y) (hf : ∀ a, Sim view (f a) (g a)) : Sim view (x >>= f) (y >>= g) := by
  rintro s b s' ⟨a, s₁, h₁, h₂⟩; exact ⟨a, _, hx _ _ _ h₁, hf a _ _ _ h₂⟩

theorem foldlM {γ γ' δ : Type} {R : γ → γ' → Prop} {f : δ → γ → ND σ δ} {g : δ → γ' → ND Stores δ}
    (hfg : ∀ d c c', R c c' → Sim view (f d c) (g d c')) :
    ∀ {l l'}, List.Forall₂ R l l' → ∀ d, Sim view (l.foldlM f d) (l'.foldlM g d)
  | _, _, .nil, d => Sim.pure d
  | _, _, .cons h hl, d => (hfg d _ _ h).bind fun d' => foldlM hfg hl d'

theorem forM {γ γ' : Type} {R : γ → γ' → Prop} {f : γ → ND σ PUnit} {g : γ' → ND Stores PUnit}
    (hfg : ∀ c c', R c c' → Sim view (f c) (g c')) :
    ∀ {l l'}, List.Forall₂ R l l' → Sim view (l.forM f) (l'.forM g)
  | _, _, .nil => Sim.pure _
  | _, _, .cons h hl => (hfg _ _ h).bind fun _ => forM hfg hl

end Sim

namespace Multi

variable {M : Multi (ND σ)} {M' : Multi (ND Stores)}

theorem save_sim (hM : List.Forall₂ (CacheSim view) M.caches M'.caches) (key : String)
    (value : Bytes) (expire : Duration) : Sim view (M.save key value expire) (M'.save key value expire) :=
  (Sim.foldlM (fun _ _ _ hc => (hc.save key value expire).bind fun _ => Sim.pure _) hM _).bind
    fun _ => Sim.pure _

theorem loadFrom_sim (hM : List.Forall₂ (CacheSim view) M.caches M'.caches) (key : String) :
    ∀ {cs cs'}, List.Forall₂ (CacheSim view) cs cs' → ∀ idx mErr,
      Sim view (M.loadFrom key idx cs mErr) (M'.loadFrom key idx cs' mErr)
  | _, _, .nil, _, _ => Sim.pure _
  | _, _, .cons hc hcs, idx, mErr => (hc.load key).bind fun ⟨val, err⟩ => by
    cases err with
    | none =>
      dsimp only
      split_ifs
      · refine (hc.ttl key).bind fun ⟨ttl, errTTL⟩ => ?_
        dsimp only
        split_ifs
        · exact (Sim.forM (fun _ _ hu => (hu.save key val ttl).bind fun _ => Sim.pure _)
            (List.forall₂_reverse_iff.mpr (List.forall₂_take idx hM))).bind fun _ => Sim.pure _
        · exact (Sim.pure _).bind fun _ => Sim.pure _
      · exact (Sim.pure _).bind fun _ => Sim.pure _
    | some e =>
      dsimp only
      split_ifs <;> exact loadFrom_sim hM key hcs _ _

theorem load_sim (hM : List.Forall₂ (CacheSim view) M.caches M'.caches) (key : String) :
    Sim view (M.load key) (M'.load key) :=
  loadFrom_sim hM key hM 0 _

theorem ttlFrom_sim (key : String) :
    ∀ {cs cs'}, List.Forall₂ (CacheSim view) cs cs' → ∀ mErr,
      Sim view (ttlFrom key cs mErr : ND σ _) (ttlFrom key cs' mErr)
  | _, _, .nil, _ => Sim.pure _
  | _, _, .cons hc hcs, mErr => (hc.ttl key).bind fun ⟨ttl, err⟩ => by
    cases err with
    | some e => exact ttlFrom_sim key hcs _
    | none =>
      dsimp only
      split_ifs
      · exact Sim.pure _
      · exact ttlFrom_sim key hcs _

theorem ttl_sim (hM : List.Forall₂ (CacheSim view) M.caches M'.caches) (key : String) :
    Sim view (M.ttl key) (M'.ttl key) :=
  ttlFrom_sim key hM _

theorem stats_sim (hM : List.Forall₂ (CacheSim view) M.caches M'.caches) :
    Sim view M.stats M'.stats :=
  (Sim.foldlM (f := statsStep) (g := statsStep)
    (fun acc _ _ hc => hc.stats.bind fun ⟨_, err⟩ => by cases err <;> exact Sim.pure _) hM _).bind
    fun ⟨mErr, _⟩ => by
      dsimp only
      cases mErr.errOrNil <;> exact Sim.pure _

end Multi

end Sim

end Xcache
