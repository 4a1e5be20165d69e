import Xcache.Basic
import Mathlib.Data.Nat.Log
import Mathlib.Algebra.Order.Ring.Int

namespace Xcache

/-!
# xcache — `Stats.String` and `bytesHumanFriendly`

`Stats.String` (`stats.go`) prints the memory and the max memory of a `Stats` with
`bytesHumanFriendly`, which divides a size by 1024 until it is below 1024 and then
appends the unit letter `measure[exp]` of `"BKMGTPE"`. That index is the only step of
`Stats.String` that can panic; the rest is `strconv` output and literals.

* `int64Mul` — Go's `*` on a 64-bit `int`;
* `bytesScale` — the scaling loop, with its two step equations;
* `bytesScale_eq_log` — the loop runs `Nat.log 1024 n` times and `div *= unit` never
  wraps;
* `bytesHumanFriendly_in_range` — for every `int64` size the unit index stays within
  `"BKMGTPE"` and the loop brackets the size between two powers of 1024, so
  `Stats.String` never panics.

The digits printed (`strconv.FormatFloat` of `float64(bytes) / float64(div)`, with a
precision chosen from its fraction) are left out: the model keeps `div` and the unit.
-/

/-- Go's `*` on a 64-bit `int`: the product modulo `2^64`, in `[-2^63, 2^63)`. -/
def int64Mul (a b : Int) : Int := Int.bmod (a * b) 18446744073709551616

/-- The loop of `bytesHumanFriendly`,
    `for n := bytes; n >= unit; n /= unit { div *= unit; exp++ }` with `unit = 1024`,
    from the loop variables `n`, `div` and `exp`; it returns `div` and `exp` at exit.
    `n /= unit` is Go's truncated division. -/
def bytesScale (n div : Int) (exp : Nat) : Int × Nat :=
  if h : 1024 ≤ n then bytesScale (n.tdiv 1024) (int64Mul div 1024) (exp + 1) else (div, exp)
termination_by n.toNat
decreasing_by rw [Int.tdiv_eq_ediv (by omega) (by omega)]; omega

/-- `measure = "BKMGTPE"`, the unit letters. -/
def measure : List Char := ['B', 'K', 'M', 'G', 'T', 'P', 'E']

/-- `bytesHumanFriendly(bytes)` up to the digits it prints: the divisor `div` of
    `float64(bytes) / float64(div)` and the unit `measure[exp]`, or `none` where that
    index panics. -/
def bytesHumanFriendly (bytes : Int) : Option (Int × Char) :=
  let (div, exp) := bytesScale bytes 1 0
  measure[exp]?.map (div, ·)

/-- `Stats.String` up to the digits it prints: its two `bytesHumanFriendly` calls, on the
    memory and on the max memory, or `none` where either panics. -/
def Stats.string (s : Stats) : Option ((Int × Char) × (Int × Char)) := do
  let mem ← bytesHumanFriendly s.memory
  let maxMem ← bytesHumanFriendly s.maxMemory
  pure (mem, maxMem)

/-! ### The scaling loop -/

/-- Reduction modulo `2^64` fixes every value of the `int64` range. -/
theorem bmod_int64 {x : Int} (hlo : -2 ^ 63 ≤ x) (hhi : x < 2 ^ 63) :
    x.bmod 18446744073709551616 = x := by
  simp only [Int.bmod]; split <;> omega

theorem bytesScale_loop {n : Int} (h : 1024 ≤ n) (div : Int) (exp : Nat) :
    bytesScale n div exp = bytesScale (n / 1024) (int64Mul div 1024) (exp + 1) := by
  rw [bytesScale, dif_pos h, Int.tdiv_eq_ediv (by omega) (by omega)]

theorem bytesScale_exit {n : Int} (h : n < 1024) (div : Int) (exp : Nat) :
    bytesScale n div exp = (div, exp) := by
  rw [bytesScale, dif_neg (by omega)]

/-- One iteration takes one off the base-1024 logarithm of `n`. -/
theorem log_toNat_div {n : Int} (h : 1024 ≤ n) :
    Nat.log 1024 n.toNat = Nat.log 1024 (n / 1024).toNat + 1 := by
  have hpos : 0 < Nat.log 1024 n.toNat := Nat.log_pos (by decide) (by omega)
  have hdiv : (n / 1024).toNat = n.toNat / 1024 := by omega
  rw [hdiv, Nat.log_div_base]
  omega

/-- **The loop computes `Nat.log 1024 n`.** From `div = 1024^exp`, while the power it
    ends at is below `2^63`, the loop exits after `Nat.log 1024 n` more iterations, with
    `div` that power: no `div *= unit` wraps. -/
theorem bytesScale_eq_log (n div : Int) (exp : Nat) (hdiv : div = 1024 ^ exp)
    (hlt : (1024 : Int) ^ (exp + Nat.log 1024 n.toNat) < 2 ^ 63) :
    bytesScale n div exp = (1024 ^ (exp + Nat.log 1024 n.toNat), exp + Nat.log 1024 n.toNat) := by
  induction n, div, exp using bytesScale.induct with
  | case1 n div exp h ih =>
    rw [Int.tdiv_eq_ediv (by omega) (by omega)] at ih
    rw [log_toNat_div h] at hlt ⊢
    have hexp : exp + (Nat.log 1024 (n / 1024).toNat + 1) = exp + 1 + Nat.log 1024 (n / 1024).toNat := by
      omega
    rw [hexp] at hlt ⊢
    have hle : (1024 : Int) ^ (exp + 1) ≤ 1024 ^ (exp + 1 + Nat.log 1024 (n / 1024).toNat) :=
      pow_le_pow_right₀ (by decide) (by omega)
    have hpos : (0 : Int) < 1024 ^ (exp + 1) := pow_pos (by decide) _
    have hmul : int64Mul div 1024 = 1024 ^ (exp + 1) := by
      rw [int64Mul, hdiv, ← pow_succ, bmod_int64 (by omega) (by omega)]
    rw [bytesScale_loop h, ih hmul hlt]
  | case2 n div exp h =>
    rw [bytesScale_exit (by omega), Nat.log_of_lt (by omega), hdiv, Nat.add_zero]

/-- For an `int64` size the loop exits with `exp = Nat.log 1024 bytes`, at most 6, and
    `div = 1024^exp`. -/
theorem bytesScale_int64 {bytes : Int} (h : bytes < 2 ^ 63) :
    bytesScale bytes 1 0 = (1024 ^ Nat.log 1024 bytes.toNat, Nat.log 1024 bytes.toNat) ∧
      Nat.log 1024 bytes.toNat ≤ 6 := by
  have h6 : Nat.log 1024 bytes.toNat < 7 := by
    rcases Nat.eq_zero_or_pos bytes.toNat with h0 | h0
    · simp [h0]
    · exact Nat.log_lt_of_lt_pow h0.ne' (Nat.lt_of_lt_of_le (by omega : bytes.toNat < 2 ^ 63) (by decide))
  have hlt : (1024 : Int) ^ (0 + Nat.log 1024 bytes.toNat) < 2 ^ 63 :=
    Int.lt_of_le_of_lt (pow_le_pow_right₀ (by decide) (by omega : 0 + _ ≤ 6)) (by decide)
  have := bytesScale_eq_log bytes 1 0 (pow_zero _).symm hlt
  rw [Nat.zero_add] at this
  exact ⟨this, by omega⟩

theorem bytesHumanFriendly_isSome {bytes : Int} (h : bytes < 2 ^ 63) :
    (bytesHumanFriendly bytes).isSome := by
  obtain ⟨hscale, h6⟩ := bytesScale_int64 h
  have hlen : Nat.log 1024 bytes.toNat < measure.length := Nat.lt_succ_of_le h6
  simp only [bytesHumanFriendly, hscale, List.getElem?_eq_getElem hlen, Option.map_some',
    Option.isSome_some]

/-- **`bytesHumanFriendly` stays within `"BKMGTPE"`.** For every `int64` size, the loop
    exits with `exp ≤ 6` and `div = 1024^exp`, no multiplication wrapping, and the unit
    index is within `measure`; a positive size lies in `[1024^exp, 1024^(exp+1))`, and a
    size below 1024, negative ones included, leaves `exp = 0` and `div = 1`. So
    `Stats.String` never panics on a `Stats` of `int64` sizes. -/
theorem bytesHumanFriendly_in_range :
    (∀ bytes : Int, bytes < 2 ^ 63 →
      let r := bytesScale bytes 1 0
      r.2 ≤ 6 ∧ r.1 = 1024 ^ r.2 ∧ (bytesHumanFriendly bytes).isSome ∧
        (1 ≤ bytes → 1024 ^ r.2 ≤ bytes ∧ bytes < 1024 ^ (r.2 + 1)) ∧
        (bytes < 1024 → r = (1, 0))) ∧
    ∀ s : Stats, s.memory < 2 ^ 63 → s.maxMemory < 2 ^ 63 → (Stats.string s).isSome := by
  refine ⟨fun bytes h => ?_, fun s hmem hmax => ?_⟩
  · obtain ⟨hscale, h6⟩ := bytesScale_int64 h
    rw [hscale]
    dsimp only
    refine ⟨h6, rfl, bytesHumanFriendly_isSome h, fun hpos => ?_, fun hsmall => ?_⟩
    · have hlo : (1024 : Int) ^ Nat.log 1024 bytes.toNat ≤ bytes.toNat := by
        exact_mod_cast Nat.pow_log_le_self 1024 (by omega : bytes.toNat ≠ 0)
      have hhi : (bytes.toNat : Int) < 1024 ^ (Nat.log 1024 bytes.toNat + 1) := by
        exact_mod_cast Nat.lt_pow_succ_log_self (by decide : 1 < 1024) bytes.toNat
      omega
    · rw [Nat.log_of_lt (by omega), pow_zero]
  · obtain ⟨mem, hm⟩ := Option.isSome_iff_exists.mp (bytesHumanFriendly_isSome hmem)
    obtain ⟨maxMem, hmx⟩ := Option.isSome_iff_exists.mp (bytesHumanFriendly_isSome hmax)
    simp [Stats.string, hm, hmx]

/-- `MaxInt64` bytes are shown in exbibytes: the loop runs six times, and the unit is
    the last letter of `"BKMGTPE"`. -/
theorem bytesHumanFriendly_maxInt64 :
    bytesScale (2 ^ 63 - 1) 1 0 = (1024 ^ 6, 6) ∧ bytesHumanFriendly (2 ^ 63 - 1) = some (1024 ^ 6, 'E') := by
  obtain ⟨h6, hdiv, -, hbr, -⟩ := bytesHumanFriendly_in_range.1 (2 ^ 63 - 1) (by decide)
  obtain ⟨hlo, hhi⟩ := hbr (by decide)
  have hexp : (bytesScale (2 ^ 63 - 1) 1 0).2 = 6 := by
    by_contra hne
    have := pow_le_pow_right₀ (by decide : (1 : Int) ≤ 1024) (by omega : (bytesScale (2 ^ 63 - 1) 1 0).2 + 1 ≤ 6)
    omega
  have hscale : bytesScale (2 ^ 63 - 1) 1 0 = (1024 ^ 6, 6) := by
    rw [Prod.ext_iff, hdiv, hexp]; exact ⟨rfl, rfl⟩
  exact ⟨hscale, by rw [bytesHumanFriendly, hscale]; rfl⟩

end Xcache
