import Xcache.Basic
import Mathlib.Algebra.Order.Field.Power
import Mathlib.Data.Rat.Floor
import Mathlib.Tactic.FieldSimp
import Mathlib.Tactic.Linarith
import Mathlib.Tactic.NormNum

namespace Xcache

/-!
# xcache — `time.Duration.Seconds` through `float64`

`Memory.Save` hands its store `int(expire.Seconds())`, and `Seconds` is
`float64(d/Second) + float64(d%Second)/1e9`: three roundings to `float64` and one
truncation. The model computes them on naturals, so that `decide` runs them, and states
what they round to as rationals.

* `Float64.round` — a nonnegative fraction `p / q` rounded to 53 significant bits, to
  nearest, ties to even; `Float64.ofInt`, `Float64.div`, `Float64.add` are Go's
  `float64(i)`, `/` and `+`, each the exact result rounded; `Float64.toInt` is `int(x)`;
* `durationSeconds` — `Duration.Seconds`;
* `RoundsFrom.abs_sub_le`, `RoundsFrom.le_val`, `RoundsFrom.val_eq` — a rounded value is
  within half a unit in the last place, never below an integer below the exact value,
  and exact on integers under `2^53`;
* `toInt_durationSeconds_of_lt` — `int(d.Seconds())` is `d / Second` for
  `0 ≤ d < 2^24 s`; at `2^24 s + 999999999 ns` it is one second more;
* `toInt_durationSeconds_mul_second` — it is `s` for `s` whole seconds, `s < 2^53`.
-/

/-! ### Binary digits -/

/-- The least `j` in `[lo, lo + 2^d]` with `n < 2^j`, by bisection. -/
def bitSearch (n : Nat) : Nat → Nat → Nat
  | 0, lo => if n < 2 ^ lo then lo else lo + 1
  | d + 1, lo => if n < 2 ^ (lo + 2 ^ d) then bitSearch n d lo else bitSearch n d (lo + 2 ^ d)

/-- The binary digits of `n ≤ fuel`, 64 at a time. -/
def bitLengthAux : Nat → Nat → Nat
  | 0, _ => 0
  | fuel + 1, n => if n < 2 ^ 64 then bitSearch n 6 0 else 64 + bitLengthAux fuel (n / 2 ^ 64)

/-- The number of binary digits of `n`: the least `j` with `n < 2^j`. -/
def bitLength (n : Nat) : Nat := bitLengthAux n n

/-- `j` is the bit length of `n`: `n < 2^j`, and `2^j ≤ 2n` unless `n = 0`. -/
def IsBitLength (n j : Nat) : Prop := n < 2 ^ j ∧ (0 < n → 2 ^ j ≤ 2 * n)

theorem bitSearch_spec (n : Nat) :
    ∀ {d lo : Nat}, n < 2 ^ (lo + 2 ^ d) → (lo = 0 ∨ 2 ^ lo ≤ 2 * n) →
      IsBitLength n (bitSearch n d lo)
  | 0, lo, h, hlo => by
    unfold bitSearch
    split_ifs with hn
    · refine ⟨hn, fun hpos => ?_⟩
      rcases hlo with rfl | hlo
      · simp; omega
      · exact hlo
    · exact ⟨h, fun _ => by rw [pow_succ]; omega⟩
  | d + 1, lo, h, hlo => by
    unfold bitSearch
    split_ifs with hn
    · exact bitSearch_spec n hn hlo
    · refine bitSearch_spec n ?_ (.inr (by omega))
      rwa [add_assoc, ← two_mul, ← pow_succ']

theorem bitLengthAux_spec : ∀ {fuel n : Nat}, n ≤ fuel → IsBitLength n (bitLengthAux fuel n)
  | 0, n, h => by obtain rfl : n = 0 := by omega
                  exact ⟨by decide, fun h => absurd h (lt_irrefl 0)⟩
  | fuel + 1, n, h => by
    unfold bitLengthAux
    split_ifs with h64
    · exact bitSearch_spec n (by simpa using h64) (.inl rfl)
    · have hpow : (0 : Nat) < 2 ^ 64 := by positivity
      have hq : n / 2 ^ 64 ≤ fuel := by
        have := Nat.div_lt_self (n := n) (by omega) (by norm_num : 1 < 2 ^ 64); omega
      obtain ⟨hlt, hle⟩ := bitLengthAux_spec hq
      have hpos : 0 < n / 2 ^ 64 := Nat.div_pos (by omega) hpow
      refine ⟨?_, fun _ => ?_⟩ <;> rw [pow_add]
      · rw [mul_comm]; exact (Nat.div_lt_iff_lt_mul hpow).mp hlt
      · calc 2 ^ 64 * 2 ^ bitLengthAux fuel (n / 2 ^ 64)
            ≤ 2 ^ 64 * (2 * (n / 2 ^ 64)) := Nat.mul_le_mul_left _ (hle hpos)
          _ = 2 * (n / 2 ^ 64 * 2 ^ 64) := by ring
          _ ≤ 2 * n := Nat.mul_le_mul_left _ (Nat.div_mul_le_self n _)

theorem bitLength_spec (n : Nat) : IsBitLength n (bitLength n) := bitLengthAux_spec le_rfl

/-! ### `float64` values and their rounding -/

/-- A `float64`: a sign, and a significand times a power of two. The values `Seconds`
    produces lie between `2^-30` and `2^34` in magnitude, or are zero: no overflow, no
    subnormal, so the exponent is not bounded. -/
structure Float64 where
  neg : Bool
  mant : Nat
  exp : Int
  deriving DecidableEq, Repr

namespace Float64

/-- The rational number the value stands for. -/
def val (x : Float64) : ℚ := (if x.neg then -1 else 1) * x.mant * 2 ^ x.exp

/-- `p / q · 2^k`, as a fraction of naturals. -/
def scaleFrac (p q : Nat) (k : Int) : Nat × Nat :=
  if 0 ≤ k then (p * 2 ^ k.toNat, q) else (p, q * 2 ^ (-k).toNat)

/-- The binary exponent of `p / q > 0`: `e` with `2^e ≤ p / q < 2^(e+1)`. -/
def binExp (p q : Nat) : Int :=
  let e : Int := bitLength p - bitLength q
  let s := scaleFrac p q (-e)
  if s.2 ≤ s.1 then e else e - 1

/-- `a / b` rounded to the nearest natural number, ties to the even one. -/
def roundHalfEven (a b : Nat) : Nat :=
  let f := a / b
  let r := a % b
  if 2 * r < b then f else if b < 2 * r then f + 1 else if f % 2 = 0 then f else f + 1

/-- `±p / q` (`q > 0`) rounded to a `float64`: to 53 significant bits, ties to even. -/
def round (neg : Bool) (p q : Nat) : Float64 :=
  let e := binExp p q
  let s := scaleFrac p q (52 - e)
  ⟨neg, roundHalfEven s.1 s.2, e - 52⟩

/-- `float64(i)`. -/
def ofInt (i : Int) : Float64 := round (i < 0) i.natAbs 1

/-- The significand with the sign. -/
def signedMant (x : Float64) : Int := if x.neg then -(x.mant : Int) else x.mant

/-- `x + y`: the sum, exact over the lower of the two exponents, rounded. -/
def add (x y : Float64) : Float64 :=
  let k := min x.exp y.exp
  let n := x.signedMant * (2 ^ (x.exp - k).toNat : Nat) + y.signedMant * (2 ^ (y.exp - k).toNat : Nat)
  let s := scaleFrac n.natAbs 1 k
  round (n < 0) s.1 s.2

/-- `x / y` for `y ≠ 0`: the quotient of the significands, scaled, rounded. -/
def div (x y : Float64) : Float64 :=
  let s := scaleFrac x.mant y.mant (x.exp - y.exp)
  round (x.neg != y.neg) s.1 s.2

/-- `int(x)`: the value truncated toward zero. -/
def toInt (x : Float64) : Int :=
  let m : Nat := if 0 ≤ x.exp then x.mant * 2 ^ x.exp.toNat else x.mant / 2 ^ (-x.exp).toNat
  if x.neg then -(m : Int) else m

end Float64

/-- `Duration.Seconds`: `float64(d/Second) + float64(d%Second)/1e9`, with Go's `/` and
    `%` truncating toward zero. -/
def durationSeconds (d : Duration) : Float64 :=
  (Float64.ofInt (d.tdiv second)).add
    ((Float64.ofInt (d.tmod second)).div (Float64.ofInt 1000000000))

namespace Float64

/-! ### Rounding, as rationals -/

@[simp] theorem round_neg (neg : Bool) (p q : Nat) : (round neg p q).neg = neg := rfl

theorem val_of_neg_false {x : Float64} (h : x.neg = false) : x.val = x.mant * 2 ^ x.exp := by
  simp [val, h]

theorem val_nonneg {x : Float64} (h : x.neg = false) : 0 ≤ x.val := by
  rw [val_of_neg_false h]; positivity

theorem scaleFrac_snd_pos {p q : Nat} (k : Int) (hq : 0 < q) : 0 < (scaleFrac p q k).2 := by
  unfold scaleFrac; split_ifs <;> positivity

theorem scaleFrac_div {p q : Nat} (k : Int) (hq : 0 < q) :
    ((scaleFrac p q k).1 : ℚ) / (scaleFrac p q k).2 = p / q * 2 ^ k := by
  unfold scaleFrac
  split_ifs with hk
  · obtain ⟨n, rfl⟩ := Int.eq_ofNat_of_zero_le hk
    simp only [Int.toNat_ofNat, Nat.cast_mul, Nat.cast_pow, Nat.cast_ofNat, zpow_natCast]
    ring
  · obtain ⟨n, rfl⟩ : ∃ n : Nat, k = -n := ⟨(-k).toNat, by omega⟩
    simp only [neg_neg, Int.toNat_ofNat, Nat.cast_mul, Nat.cast_pow, Nat.cast_ofNat, zpow_neg,
      zpow_natCast]
    field_simp

/-- Rounding to nearest is within a half, and never below the quotient. -/
theorem roundHalfEven_spec (a : Nat) {b : Nat} (hb : 0 < b) :
    a / b ≤ roundHalfEven a b ∧
      2 * ((a : ℤ) - roundHalfEven a b * b) ≤ b ∧ 2 * ((roundHalfEven a b * b : ℤ) - a) ≤ b := by
  -- with `f * b` an atom, every case is linear
  have hdm : ((a / b : Nat) : ℤ) * b + (a % b : Nat) = a := by exact_mod_cast Nat.div_add_mod' a b
  have hr := Nat.mod_lt a hb
  have hsucc : ((a / b + 1 : Nat) : ℤ) * b = ((a / b : Nat) : ℤ) * b + b := by push_cast; ring
  unfold roundHalfEven
  dsimp only
  split_ifs <;> refine ⟨by omega, ?_, ?_⟩ <;> omega

theorem abs_roundHalfEven_sub_le (a : Nat) {b : Nat} (hb : 0 < b) :
    |(roundHalfEven a b : ℚ) - a / b| ≤ 1 / 2 := by
  obtain ⟨-, h₁, h₂⟩ := roundHalfEven_spec a hb
  have hb' : (0 : ℚ) < b := by exact_mod_cast hb
  have h₁' : 2 * ((a : ℚ) - roundHalfEven a b * b) ≤ b := by exact_mod_cast h₁
  have h₂' : 2 * ((roundHalfEven a b * b : ℚ) - a) ≤ b := by exact_mod_cast h₂
  rw [abs_le, show (roundHalfEven a b : ℚ) - a / b = (roundHalfEven a b * b - a) / b by
    field_simp]
  constructor
  · rw [le_div_iff₀ hb']; linarith
  · rw [div_le_iff₀ hb']; linarith

theorem roundHalfEven_of_dvd {a b : Nat} (hb : 0 < b) (h : b ∣ a) : roundHalfEven a b = a / b := by
  simp [roundHalfEven, Nat.mod_eq_zero_of_dvd h, hb]

/-- `2^e ≤ p / q` is a comparison of naturals. -/
theorem two_zpow_le_iff {p q : Nat} (e : Int) (hq : 0 < q) :
    (2 : ℚ) ^ e ≤ p / q ↔ (scaleFrac p q (-e)).2 ≤ (scaleFrac p q (-e)).1 := by
  have hs : (0 : ℚ) < (scaleFrac p q (-e)).2 := by exact_mod_cast scaleFrac_snd_pos (-e) hq
  have h := scaleFrac_div (p := p) (-e) hq
  rw [zpow_neg, ← div_eq_mul_inv] at h
  rw [← Nat.cast_le (α := ℚ), ← one_le_div hs, h, one_le_div (by positivity)]

/-- The exponent `binExp` picks is never above the fraction's. -/
theorem two_zpow_binExp_le {p q : Nat} (hp : 0 < p) (hq : 0 < q) :
    (2 : ℚ) ^ binExp p q ≤ p / q := by
  unfold binExp
  dsimp only
  split_ifs with hs
  · exact (two_zpow_le_iff _ hq).mpr hs
  · obtain ⟨-, hple⟩ := bitLength_spec p
    obtain ⟨hqlt, -⟩ := bitLength_spec q
    have hple' : (2 : ℚ) ^ bitLength p ≤ 2 * p := by exact_mod_cast hple hp
    have hqle' : (q : ℚ) ≤ 2 ^ bitLength q := by exact_mod_cast hqlt.le
    rw [zpow_sub₀ two_ne_zero, zpow_sub₀ two_ne_zero, zpow_natCast, zpow_natCast, zpow_one,
      div_div, div_le_div_iff₀ (by positivity) (by exact_mod_cast hq)]
    calc (2 : ℚ) ^ bitLength p * q ≤ 2 * p * 2 ^ bitLength q :=
          mul_le_mul hple' hqle' (by positivity) (by positivity)
      _ = p * (2 ^ bitLength q * 2) := by ring

theorem val_round (p q : Nat) : (round false p q).val =
    roundHalfEven (scaleFrac p q (52 - binExp p q)).1 (scaleFrac p q (52 - binExp p q)).2 *
      (2 : ℚ) ^ (binExp p q - 52) := by
  simp [val, round]

theorem val_round_zero (q : Nat) : (round false 0 q).val = 0 := by
  have h0 : (scaleFrac 0 q (52 - binExp 0 q)).1 = 0 := by unfold scaleFrac; split_ifs <;> simp
  rw [val_round, h0]
  simp [roundHalfEven]

/-- Rounding is within half a unit in the last place: within `2^(t-54)` below `2^t`. -/
theorem abs_val_round_sub_le {p q : Nat} (hq : 0 < q) {t : Int} (ht : (p : ℚ) / q < 2 ^ t) :
    |(round false p q).val - p / q| ≤ 2 ^ (t - 54) := by
  rcases Nat.eq_zero_or_pos p with rfl | hp
  · rw [val_round_zero]; simp only [Nat.cast_zero, zero_div, sub_zero, abs_zero]; positivity
  set e := binExp p q
  have het : e ≤ t - 1 := by
    have := (two_zpow_binExp_le hp hq).trans_lt ht
    rw [zpow_lt_zpow_iff_right₀ one_lt_two] at this; omega
  have h := abs_roundHalfEven_sub_le (scaleFrac p q (52 - e)).1 (scaleFrac_snd_pos (p := p) (52 - e) hq)
  rw [scaleFrac_div _ hq] at h
  have hval : (round false p q).val - p / q =
      ((roundHalfEven (scaleFrac p q (52 - e)).1 (scaleFrac p q (52 - e)).2 : ℚ) -
        p / q * 2 ^ (52 - e)) * 2 ^ (e - 52) := by
    rw [val_round, sub_mul, mul_assoc, ← zpow_add₀ two_ne_zero, show 52 - e + (e - 52) = 0 by ring,
      zpow_zero, mul_one]
  calc |(round false p q).val - p / q|
      ≤ 1 / 2 * 2 ^ (e - 52) := by
        rw [hval, abs_mul, abs_of_pos (by positivity : (0 : ℚ) < 2 ^ (e - 52))]
        exact mul_le_mul_of_nonneg_right h (by positivity)
    _ = 2 ^ (e - 53) := by
        rw [show e - 52 = e - 53 + 1 by ring, zpow_add_one₀ two_ne_zero]; ring
    _ ≤ 2 ^ (t - 54) := zpow_le_zpow_right₀ one_le_two (by omega)

/-- Below `2^53` the fraction is scaled up by some `2^K` and the value is the rounded
    quotient over `2^K`. -/
theorem val_round_of_lt {p q : Nat} (hp : 0 < p) (hq : 0 < q) (hx : (p : ℚ) / q < 2 ^ (53 : Int)) :
    ∃ K : Nat, (round false p q).val = roundHalfEven (p * 2 ^ K) q / 2 ^ K := by
  have he : binExp p q ≤ 52 := by
    have := (two_zpow_binExp_le hp hq).trans_lt hx
    rw [zpow_lt_zpow_iff_right₀ one_lt_two] at this; omega
  refine ⟨(52 - binExp p q).toNat, ?_⟩
  rw [val_round, show binExp p q - 52 = -((52 - binExp p q).toNat : Int) by omega, zpow_neg,
    zpow_natCast, ← div_eq_mul_inv]
  simp [scaleFrac, he]

/-- Rounding below `2^53` never goes under an integer under the exact value. -/
theorem le_val_round {p q : Nat} (hq : 0 < q) (hx : (p : ℚ) / q < 2 ^ (53 : Int)) {c : Nat}
    (hc : (c : ℚ) ≤ p / q) : (c : ℚ) ≤ (round false p q).val := by
  rcases Nat.eq_zero_or_pos c with rfl | hc0
  · simpa using val_nonneg (round_neg false p q)
  have hq' : (0 : ℚ) < q := by exact_mod_cast hq
  have hcq : c * q ≤ p := by exact_mod_cast (le_div_iff₀ hq').mp hc
  obtain ⟨K, hK⟩ := val_round_of_lt ((Nat.mul_pos hc0 hq).trans_le hcq) hq hx
  have hn : c * 2 ^ K ≤ roundHalfEven (p * 2 ^ K) q :=
    le_trans ((Nat.le_div_iff_mul_le hq).mpr (by rw [mul_right_comm]; gcongr))
      (roundHalfEven_spec _ hq).1
  rw [hK, le_div_iff₀ (by positivity)]
  exact_mod_cast hn

/-- Rounding is exact on integers under `2^53`. -/
theorem val_round_of_eq {p q : Nat} (hq : 0 < q) {c : Nat} (hc : (p : ℚ) / q = c)
    (hlt : c < 2 ^ 53) : (round false p q).val = c := by
  have hq' : (0 : ℚ) < q := by exact_mod_cast hq
  have hpc : p = c * q := by exact_mod_cast (div_eq_iff hq'.ne').mp hc
  rcases Nat.eq_zero_or_pos c with rfl | hc0
  · rw [hpc, Nat.zero_mul, val_round_zero, Nat.cast_zero]
  obtain ⟨K, hK⟩ := val_round_of_lt (p := p) (by rw [hpc]; positivity) hq
    (by rw [hc]; exact_mod_cast hlt)
  rw [hK, hpc, roundHalfEven_of_dvd hq ⟨c * 2 ^ K, by ring⟩,
    show c * q * 2 ^ K / q = c * 2 ^ K by rw [mul_right_comm, Nat.mul_div_cancel _ hq]]
  push_cast
  field_simp

/-! ### Go's operations round the exact result -/

/-- `r` is `x` rounded: `round false p q` for a fraction `p / q = x`. -/
def RoundsFrom (r : Float64) (x : ℚ) : Prop :=
  ∃ p q : Nat, 0 < q ∧ (p : ℚ) / q = x ∧ r = round false p q

namespace RoundsFrom

variable {r : Float64} {x : ℚ}

theorem neg (h : RoundsFrom r x) : r.neg = false := by
  obtain ⟨p, q, -, -, rfl⟩ := h; rfl

theorem abs_sub_le (h : RoundsFrom r x) {t : Int} (ht : x < 2 ^ t) : |r.val - x| ≤ 2 ^ (t - 54) := by
  obtain ⟨p, q, hq, rfl, rfl⟩ := h; exact abs_val_round_sub_le hq ht

theorem le_val (h : RoundsFrom r x) (hx : x < 2 ^ (53 : Int)) {c : Nat} (hc : (c : ℚ) ≤ x) :
    (c : ℚ) ≤ r.val := by
  obtain ⟨p, q, hq, rfl, rfl⟩ := h; exact le_val_round hq hx hc

theorem val_eq (h : RoundsFrom r x) {c : Nat} (hc : x = c) (hlt : c < 2 ^ 53) : r.val = c := by
  obtain ⟨p, q, hq, rfl, rfl⟩ := h; exact val_round_of_eq hq hc hlt

end RoundsFrom

theorem ofInt_neg {i : Int} (h : 0 ≤ i) : (ofInt i).neg = false := by simp [ofInt, h]

@[simp] theorem div_neg (x y : Float64) : (x.div y).neg = (x.neg != y.neg) := rfl

theorem ofInt_roundsFrom (n : Nat) : RoundsFrom (ofInt n) n :=
  ⟨n, 1, one_pos, by simp, by simp [ofInt, decide_eq_false (not_lt.mpr (Int.natCast_nonneg n))]⟩

theorem div_roundsFrom {x y : Float64} (hx : x.neg = false) (hy : y.neg = false) (hy0 : 0 < y.mant) :
    RoundsFrom (x.div y) (x.val / y.val) := by
  refine ⟨(scaleFrac x.mant y.mant (x.exp - y.exp)).1, (scaleFrac x.mant y.mant (x.exp - y.exp)).2,
    scaleFrac_snd_pos _ hy0, ?_, by simp [div, hx, hy]⟩
  rw [scaleFrac_div _ hy0, val_of_neg_false hx, val_of_neg_false hy, zpow_sub₀ two_ne_zero]
  field_simp

theorem add_roundsFrom {x y : Float64} (hx : x.neg = false) (hy : y.neg = false) :
    RoundsFrom (x.add y) (x.val + y.val) := by
  set k := min x.exp y.exp
  have hxk : ((x.exp - k).toNat : Int) = x.exp - k := Int.toNat_of_nonneg (by omega)
  have hyk : ((y.exp - k).toNat : Int) = y.exp - k := Int.toNat_of_nonneg (by omega)
  have hn : x.signedMant * ((2 ^ (x.exp - k).toNat : Nat) : Int) +
      y.signedMant * ((2 ^ (y.exp - k).toNat : Nat) : Int) =
      ((x.mant * 2 ^ (x.exp - k).toNat + y.mant * 2 ^ (y.exp - k).toNat : Nat) : Int) := by
    simp [signedMant, hx, hy]
  refine ⟨(scaleFrac (x.mant * 2 ^ (x.exp - k).toNat + y.mant * 2 ^ (y.exp - k).toNat) 1 k).1,
    (scaleFrac (x.mant * 2 ^ (x.exp - k).toNat + y.mant * 2 ^ (y.exp - k).toNat) 1 k).2,
    scaleFrac_snd_pos k one_pos, ?_, ?_⟩
  · rw [scaleFrac_div _ one_pos, val_of_neg_false hx, val_of_neg_false hy]
    push_cast
    rw [← zpow_natCast, ← zpow_natCast, hxk, hyk, div_one, add_mul, mul_assoc, mul_assoc,
      ← zpow_add₀ two_ne_zero, ← zpow_add₀ two_ne_zero, sub_add_cancel, sub_add_cancel]
  · simp only [add, hn, Int.natAbs_ofNat, Int.ofNat_nonneg, not_lt.mpr, decide_False]

/-- `int(x)` of a nonnegative value is its floor. -/
theorem toInt_nonneg {x : Float64} (h : x.neg = false) : 0 ≤ x.toInt := by
  simp [toInt, h]
  split_ifs <;> positivity

theorem toInt_eq_floor {x : Float64} (h : x.neg = false) : x.toInt = ⌊x.val⌋ := by
  rw [val_of_neg_false h]
  simp only [toInt, h, Bool.false_eq_true, if_false]
  split_ifs with he
  · obtain ⟨n, hn⟩ := Int.eq_ofNat_of_zero_le he
    rw [hn, zpow_natCast, Int.toNat_ofNat]
    exact_mod_cast (Int.floor_intCast (α := ℚ) (x.mant * 2 ^ n)).symm
  · obtain ⟨n, hn⟩ : ∃ n : Nat, x.exp = -n := ⟨(-x.exp).toNat, by omega⟩
    rw [hn, zpow_neg, zpow_natCast, neg_neg, Int.toNat_ofNat, ← div_eq_mul_inv]
    have := Rat.floor_intCast_div_natCast x.mant (2 ^ n)
    push_cast at this ⊢
    exact this.symm

end Float64

open Float64

/-! ### `int(d.Seconds())` -/

/-- `Seconds` of `d ≥ 0` rounds `(d % Second) / 1e9` to some `f`, then `d / Second + f`. -/
theorem durationSeconds_roundsFrom {d : Nat} (hd : d / 1000000000 < 2 ^ 53) :
    ∃ f : Float64, RoundsFrom f ((d % 1000000000 : Nat) / 1000000000) ∧
      RoundsFrom (durationSeconds d) ((d / 1000000000 : Nat) + f.val) := by
  have hN := (ofInt_roundsFrom (d % 1000000000)).val_eq rfl
    (lt_trans (Nat.mod_lt _ (by norm_num)) (by norm_num))
  have hB := (ofInt_roundsFrom 1000000000).val_eq rfl (by norm_num)
  have hB0 : 0 < (ofInt 1000000000).mant := by
    rw [val_of_neg_false (ofInt_roundsFrom _).neg] at hB
    exact Nat.pos_of_ne_zero fun h => by simp [h] at hB
  have hf := div_roundsFrom (ofInt_roundsFrom (d % 1000000000)).neg (ofInt_roundsFrom 1000000000).neg hB0
  rw [hN, hB] at hf
  refine ⟨_, by exact_mod_cast hf, ?_⟩
  have hS := add_roundsFrom (ofInt_roundsFrom (d / 1000000000)).neg hf.neg
  rw [(ofInt_roundsFrom _).val_eq rfl hd] at hS
  rwa [durationSeconds, show second = ((1000000000 : Nat) : Int) from rfl, ← Int.ofNat_tdiv,
    ← Int.ofNat_tmod]

theorem durationSeconds_neg {d : Duration} (hd : 0 ≤ d) : (durationSeconds d).neg = false := by
  obtain ⟨D, rfl⟩ := Int.eq_ofNat_of_zero_le hd
  rw [durationSeconds, show second = ((1000000000 : Nat) : Int) from rfl, ← Int.ofNat_tdiv,
    ← Int.ofNat_tmod]
  exact (add_roundsFrom (ofInt_roundsFrom _).neg
    (by rw [div_neg, ofInt_neg (by positivity), ofInt_neg (by norm_num)]; rfl)).neg

/-- **`int(d.Seconds())` is the whole seconds of `d` below `2^24` seconds.** For
    `0 ≤ d < 2^24 s` the rounded sum `sec + f` stays under `sec + 1`: the two roundings
    add at most `2^-54 + 2^-30`, less than the `10^-9` between `nsec / 10^9` and 1. -/
theorem toInt_durationSeconds_of_lt {d : Duration} (hd : 0 ≤ d) (hlt : d < 2 ^ 24 * second) :
    (durationSeconds d).toInt = d / second := by
  obtain ⟨D, rfl⟩ := Int.eq_ofNat_of_zero_le hd
  have hD : D < 2 ^ 24 * 1000000000 := by
    have : (D : Int) < 2 ^ 24 * 1000000000 := hlt
    omega
  obtain ⟨f, hf, hS⟩ := durationSeconds_roundsFrom (d := D) (by omega)
  have hn' : ((D % 1000000000 : Nat) : ℚ) ≤ 999999999 := by
    exact_mod_cast Nat.le_of_lt_succ (Nat.mod_lt _ (by norm_num))
  have hsec' : ((D / 1000000000 : Nat) : ℚ) + 1 ≤ 2 ^ 24 := by
    exact_mod_cast (by omega : D / 1000000000 + 1 ≤ 2 ^ 24)
  have hf1 : f.val ≤ (D % 1000000000 : Nat) / 1000000000 + 2 ^ (-54 : Int) := by
    have := hf.abs_sub_le (t := 0) (by rw [zpow_zero, div_lt_one (by norm_num)]; linarith)
    linarith [(abs_le.mp this).2]
  have hfrac : ((D % 1000000000 : Nat) : ℚ) / 1000000000 + 2 ^ (-54 : Int) + 2 ^ (-30 : Int) < 1 := by
    have := div_le_div_of_nonneg_right hn' (by norm_num : (0 : ℚ) ≤ 1000000000)
    norm_num at this ⊢; linarith
  have hx : ((D / 1000000000 : Nat) : ℚ) + f.val < 2 ^ (24 : Int) := by
    norm_num at hsec' ⊢; linarith
  have hlow := hS.le_val (hx.trans (by norm_num)) (c := D / 1000000000)
    (by linarith [val_nonneg hf.neg])
  have hup := (abs_le.mp (hS.abs_sub_le hx)).2
  rw [toInt_eq_floor hS.neg, Int.floor_eq_iff, show second = ((1000000000 : Nat) : Int) from rfl,
    ← Int.natCast_div, Int.cast_natCast]
  norm_num at hup
  exact ⟨hlow, by linarith⟩

example : (durationSeconds (2 ^ 24 * second + 999999999)).toInt = 2 ^ 24 + 1 := by decide

/-- **`int(d.Seconds())` of whole seconds is exact** below `2^53` seconds. -/
theorem toInt_durationSeconds_mul_second {s : Int} (hs : 0 ≤ s) (hlt : s < 2 ^ 53) :
    (durationSeconds (s * second)).toInt = s := by
  obtain ⟨sec, rfl⟩ := Int.eq_ofNat_of_zero_le hs
  have hd : (sec : Int) * second = ((sec * 1000000000 : Nat) : Int) := by rw [second]; push_cast; ring
  have hdiv : sec * 1000000000 / 1000000000 = sec := Nat.mul_div_cancel _ (by norm_num)
  obtain ⟨f, hf, hS⟩ := durationSeconds_roundsFrom (d := sec * 1000000000) (by omega)
  rw [Nat.mul_mod_left] at hf
  rw [hf.val_eq (c := 0) (by simp) (by norm_num), hdiv] at hS
  rw [hd, toInt_eq_floor hS.neg, hS.val_eq (c := sec) (by simp) (by omega)]
  simp

end Xcache
