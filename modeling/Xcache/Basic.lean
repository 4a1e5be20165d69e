import Mathlib.Data.List.Basic
import Mathlib.Tactic.Common

namespace Xcache

/-!
# xcache — the Go values the caches exchange

The data every cache of the package reads and returns, as the Go code has it:

* `Duration` — `time.Duration`, a count of nanoseconds; `second` and `noExpire`;
* `Bytes` — a `[]byte` (the nil slice is the empty list);
* `GoError` — the `error` values the package produces and inspects, with `errorsIs`
  following `errors.Is` through wrapped errors and `*xerr.MultiError`;
* `MultiError` — `*xerr.MultiError`, with `add` and `errOrNil`;
* `Stats` — the seven counters of `Stats` (`stats.go`);
* `update_eq_cases` — where a goroutine stands after one goroutine moved, for the models
  that keep one place per goroutine.
-/

/-- `time.Duration`: a signed number of nanoseconds. -/
abbrev Duration := Int

/-- `time.Second`. -/
def second : Duration := 1000000000

/-- `NoExpire` (`cache.go`): the expiration meaning "never expires". -/
def noExpire : Duration := 0

/-- A comparison of durations is one of integers; `omega` reads only the latter. -/
theorem duration_lt_iff (a b : Int) : @LT.lt Duration _ a b ↔ a < b := Iff.rfl

theorem duration_eq_iff (a b : Int) : @Eq Duration a b ↔ a = b := Iff.rfl

/-- A Go `[]byte`; the nil slice is the empty list. -/
abbrev Bytes := List UInt8

/-! ### Errors -/

/-- The Go `error` values of the package. `errNotFound` is `ErrNotFound`; `sentinel` is
    an error variable of a library, by its name (`freecache.ErrNotFound`); every other
    error is a leaf with an identity (`errors.New` values compare by pointer), an error
    wrapping another one (`fmt.Errorf` with `%w`), or a `*xerr.MultiError`. -/
inductive GoError where
  | errNotFound
  | sentinel (name : String)
  | other (id : Nat)
  | wrap (id : Nat) (inner : GoError)
  | multi (errs : List GoError)
  deriving Repr

namespace GoError

mutual
/-- `==` on error values. -/
def beq : GoError → GoError → Bool
  | .errNotFound, .errNotFound => true
  | .sentinel a, .sentinel b => a == b
  | .other a, .other b => a == b
  | .wrap a e, .wrap b f => a == b && beq e f
  | .multi es, .multi fs => beqList es fs
  | _, _ => false
/-- `==` on lists of error values, element by element. -/
def beqList : List GoError → List GoError → Bool
  | [], [] => true
  | e :: es, f :: fs => beq e f && beqList es fs
  | _, _ => false
end

mutual
theorem beq_refl : (e : GoError) → e.beq e = true
  | .errNotFound => rfl
  | .sentinel a => beq_self_eq_true a
  | .other a => beq_self_eq_true a
  | .wrap a e => show (a == a && e.beq e) = true by rw [beq_self_eq_true, beq_refl e]; rfl
  | .multi es => beqList_refl es
theorem beqList_refl : (es : List GoError) → beqList es es = true
  | [] => rfl
  | e :: es => show (e.beq e && beqList es es) = true by rw [beq_refl e, beqList_refl es]; rfl
end

end GoError

mutual
/-- `errors.Is(err, target)`: `err` is `target`, or one of the errors it wraps is.
    A `*xerr.MultiError` matches a target any of its errors matches. -/
def errorsIs : GoError → GoError → Bool
  | .wrap id inner, t => GoError.beq (.wrap id inner) t || errorsIs inner t
  | .multi errs, t => GoError.beq (.multi errs) t || errorsIsAny errs t
  | e, t => e.beq t
/-- Some error of the list matches `target` under `errors.Is`. -/
def errorsIsAny : List GoError → GoError → Bool
  | [], _ => false
  | e :: es, t => errorsIs e t || errorsIsAny es t
end

theorem errorsIsAny_eq_any (errs : List GoError) (t : GoError) :
    errorsIsAny errs t = errs.any (errorsIs · t) := by
  induction errs with
  | nil => rfl
  | cons e es ih => show (errorsIs e t || errorsIsAny es t) = _; rw [ih]; rfl

/-- Every error is itself under `errors.Is`. -/
@[simp] theorem errorsIs_self (e : GoError) : errorsIs e e = true := by
  cases e with
  | wrap id inner => show (GoError.beq _ _ || _) = true; rw [GoError.beq_refl]; rfl
  | multi errs => show (GoError.beq _ _ || _) = true; rw [GoError.beq_refl]; rfl
  | _ => exact GoError.beq_refl _

/-- Unfolding lemma: a `*xerr.MultiError` is never `ErrNotFound` itself, so it matches
    `ErrNotFound` exactly when one of its errors does. -/
@[simp] theorem errorsIs_multi_errNotFound (errs : List GoError) :
    errorsIs (.multi errs) .errNotFound = errs.any (errorsIs · .errNotFound) :=
  errorsIsAny_eq_any errs .errNotFound

/-- Every error a `*xerr.MultiError` holds is matched by it. -/
theorem errorsIs_multi_of_mem {errs : List GoError} {x : GoError} (hx : x ∈ errs) :
    errorsIs (.multi errs) x = true := by
  show (GoError.beq _ _ || errorsIsAny errs x) = true
  rw [errorsIsAny_eq_any, Bool.or_eq_true, List.any_eq_true]
  exact .inr ⟨x, hx, errorsIs_self x⟩

/-! ### `*xerr.MultiError` -/

/-- `*xerr.MultiError`: the errors added so far, in order. The nil pointer every loop
    of the package starts from is the empty one. -/
structure MultiError where
  errors : List GoError
  deriving Repr

namespace MultiError

/-- The nil `*xerr.MultiError` a loop starts from. -/
def nil : MultiError := ⟨[]⟩

/-- `mErr.Add(err)`: appends a non-nil error; a nil error is ignored. -/
def add (mErr : MultiError) : Option GoError → MultiError
  | none => mErr
  | some err => ⟨mErr.errors ++ [err]⟩

/-- `mErr.ErrOrNil()`: nil when no error was added, the `MultiError` itself otherwise. -/
def errOrNil (mErr : MultiError) : Option GoError :=
  if mErr.errors.isEmpty then none else some (.multi mErr.errors)

@[simp] theorem nil_errors : nil.errors = [] := rfl
@[simp] theorem add_none (mErr : MultiError) : mErr.add none = mErr := rfl
@[simp] theorem add_some_errors (mErr : MultiError) (err : GoError) :
    (mErr.add (some err)).errors = mErr.errors ++ [err] := rfl

/-- `ErrOrNil` is nil exactly when no error was added. -/
theorem errOrNil_eq_none_iff (mErr : MultiError) : mErr.errOrNil = none ↔ mErr.errors = [] := by
  simp [errOrNil]

end MultiError

/-! ### Stats -/

/-- `Stats` (`stats.go`): the memory and key counters of a cache. Each field is a Go
    `int64`. -/
structure Stats where
  memory : Int := 0
  maxMemory : Int := 0
  hits : Int := 0
  misses : Int := 0
  keys : Int := 0
  expired : Int := 0
  evicted : Int := 0
  deriving DecidableEq, Repr

/-! ### Goroutines -/

section Goroutines

variable {ι β : Type} [DecidableEq ι] {f : ι → β} {t u : ι} {p q : β}

/-- After goroutine `t` moved to `p`, a goroutine at `q` is `t` itself, with `p = q`, or
    another one, which stood there before. -/
theorem update_eq_cases (hu : Function.update f t p u = q) : (u = t ∧ p = q) ∨ (u ≠ t ∧ f u = q) := by
  rcases eq_or_ne u t with rfl | hne
  · exact .inl ⟨rfl, by simpa using hu⟩
  · exact .inr ⟨hne, by rwa [Function.update_noteq hne] at hu⟩

theorem update_eq_of_ne (hp : p ≠ q) (hu : Function.update f t p u = q) : u ≠ t ∧ f u = q :=
  (update_eq_cases hu).resolve_left fun h => hp h.2

/-- A place that goroutine `t` neither left nor took is held by the same goroutines. -/
theorem update_eq_iff_of_ne (hp : p ≠ q) (ht : f t ≠ q) : Function.update f t p u = q ↔ f u = q := by
  rcases eq_or_ne u t with rfl | hu
  · simp [hp, ht]
  · rw [Function.update_noteq hu]

end Goroutines

end Xcache
