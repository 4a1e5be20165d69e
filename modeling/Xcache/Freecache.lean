import Xcache.Basic
import Mathlib.Data.UInt

namespace Xcache

/-!
# xcache — the store behind `Memory`

`Memory` keeps its entries in a `*freecache.Cache`. The store is modelled by what
`Memory` reads of it: one entry per key, with its value and `expireAt`, the `uint32`
second of the store's clock at which it expires (0: never). Every operation takes the
clock's reading `now`.

* `Freecache.set` — `Set(key, value, expireSeconds)`, with its size checks;
* `Freecache.get`, `Freecache.ttl`, `Freecache.del` — `Get`, `TTL` (the whole seconds
  left) and `Del`;
* `Freecache.iterate` — the entries `NewIterator().Next()` returns: the live ones;
* `Freecache.evict` — the store dropping an entry to make room. Freecache does this
  inside `Set` when a segment is full; it is a step of its own here, so `set` itself
  never drops another entry.

The segments, slots and ring buffers, and the hit and miss counters, are not modelled.
-/

/-- An entry of the store: `[]byte(key)` (the conversion is injective, so the store is
    keyed by the string), the value, and `expireAt`. -/
structure Entry where
  key : String
  value : Bytes
  expireAt : UInt32
  deriving DecidableEq, Repr

/-- `isExpired(keyExpireAt, now)`. -/
def isExpired (expireAt now : UInt32) : Bool := expireAt != 0 && expireAt ≤ now

/-- A `*freecache.Cache`: its size in bytes and its entries, one per key, in iteration
    order. -/
structure Freecache where
  size : Nat
  entries : List Entry
  nodup : (entries.map Entry.key).Nodup

/-- `freecache.ErrNotFound`. -/
def freecacheErrNotFound : GoError := .sentinel "freecache.ErrNotFound"
/-- `freecache.ErrLargeKey`. -/
def freecacheErrLargeKey : GoError := .sentinel "freecache.ErrLargeKey"
/-- `freecache.ErrLargeEntry`. -/
def freecacheErrLargeEntry : GoError := .sentinel "freecache.ErrLargeEntry"

/-! ### `uint32` arithmetic of the clock -/

theorem uint32_toNat_add (a b : UInt32) (h : a.toNat + b.toNat < 2 ^ 32) :
    (a + b).toNat = a.toNat + b.toNat := by
  show (a.toBitVec + b.toBitVec).toNat = _
  rw [BitVec.toNat_add]; exact Nat.mod_eq_of_lt h

theorem uint32_lt_iff (a b : UInt32) : a < b ↔ a.toNat < b.toNat := by
  rw [UInt32.lt_def, BitVec.lt_def]; rfl

theorem uint32_le_iff (a b : UInt32) : a ≤ b ↔ a.toNat ≤ b.toNat := by
  rw [UInt32.le_def, BitVec.le_def]; rfl

theorem uint32_eq_zero_iff (a : UInt32) : a = 0 ↔ a.toNat = 0 := by
  refine ⟨fun h => h ▸ rfl, fun h => UInt32.eq_of_toBitVec_eq (BitVec.eq_of_toNat_eq ?_)⟩
  simpa [UInt32.toNat] using h

theorem uint32_ofNat_toNat (a : UInt32) : UInt32.ofNat a.toNat = a :=
  UInt32.eq_of_toBitVec_eq (BitVec.eq_of_toNat_eq (UInt32.toNat_ofNat_of_lt a.val.isLt))

namespace Freecache

/-- `minBufSize`: 512 KiB. -/
def minBufSize : Nat := 512 * 1024

/-- `freecache.NewCache(size)`: an empty store, its size raised to `minBufSize`. -/
def newCache (size : Nat) : Freecache := ⟨max size minBufSize, [], List.nodup_nil⟩

/-- The entry stored for `key`, live or not. -/
def find (c : Freecache) (key : String) : Option Entry := c.entries.find? (·.key == key)

/-- The entry for `key` a reader sees at `now`: stored and not expired. -/
def lookup (c : Freecache) (now : UInt32) (key : String) : Option Entry :=
  (c.find key).filter fun e => !isExpired e.expireAt now

/-- Stores `e`, replacing the entry of its key. -/
def insert (c : Freecache) (e : Entry) : Freecache where
  size := c.size
  entries := e :: c.entries.filter (·.key != e.key)
  nodup := by
    refine List.nodup_cons.mpr ⟨?_, (List.Sublist.map _ (List.filter_sublist _)).nodup c.nodup⟩
    simp [List.mem_filter]

/-- `maxKeyValLen`: a quarter of a segment's ring buffer (`size / 256`) less the entry
    header. -/
def maxKeyValLen (c : Freecache) : Nat := c.size / 256 / 4 - 24

/-- `Cache.Set(key, value, expireSeconds)`: refuses a key over 65535 bytes or an entry
    over `maxKeyValLen`; otherwise stores it to expire `uint32(expireSeconds)` seconds
    from `now` when `expireSeconds > 0`, never otherwise. -/
def set (c : Freecache) (now : UInt32) (key : String) (value : Bytes) (expireSeconds : Int) :
    Option GoError × Freecache :=
  if key.utf8ByteSize > 65535 then (some freecacheErrLargeKey, c)
  else if key.utf8ByteSize + value.length > c.maxKeyValLen then (some freecacheErrLargeEntry, c)
  else
    let expireAt := if expireSeconds > 0 then now + UInt32.ofNat expireSeconds.toNat else 0
    (none, c.insert ⟨key, value, expireAt⟩)

/-- `Cache.Get(key)`. -/
def get (c : Freecache) (now : UInt32) (key : String) : Bytes × Option GoError :=
  match c.lookup now key with
  | some e => (e.value, none)
  | none => ([], some freecacheErrNotFound)

/-- `Cache.TTL(key)`: the whole seconds left, 0 for an entry that never expires. Its test
    is `hdr.expireAt >= now`, not `isExpired`: at the second an entry expires, `Get`
    misses it while `TTL` returns `(0, nil)`. -/
def ttl (c : Freecache) (now : UInt32) (key : String) : UInt32 × Option GoError :=
  match c.find key with
  | none => (0, some freecacheErrNotFound)
  | some e =>
    if e.expireAt = 0 then (0, none)
    else if e.expireAt ≥ now then (e.expireAt - now, none)
    else (0, some freecacheErrNotFound)

/-- `Cache.Del(key)`. -/
def del (c : Freecache) (key : String) : Freecache where
  size := c.size
  entries := c.entries.filter (·.key != key)
  nodup := (List.Sublist.map _ (List.filter_sublist _)).nodup c.nodup

/-- The entries the iterator returns at `now`: `hdr.expireAt == 0 || hdr.expireAt > now`. -/
def iterate (c : Freecache) (now : UInt32) : List Entry :=
  c.entries.filter fun e => e.expireAt == 0 || e.expireAt > now

/-- The store dropping the entry of `key` to make room. -/
def evict (c : Freecache) (key : String) : Freecache := c.del key

/-! ### Lemmas -/

@[simp] theorem insert_size (c : Freecache) (e : Entry) : (c.insert e).size = c.size := rfl

@[simp] theorem set_size (c : Freecache) (now : UInt32) (key : String) (value : Bytes)
    (expireSeconds : Int) : (c.set now key value expireSeconds).2.size = c.size := by
  unfold set; split_ifs <;> rfl

/-- A `Set` stores the entry, or fails and leaves the store as it was. -/
theorem set_cases (c : Freecache) (now : UInt32) (key : String) (value : Bytes) (expireSeconds : Int) :
    (∃ expireAt, c.set now key value expireSeconds = (none, c.insert ⟨key, value, expireAt⟩)) ∨
      ((c.set now key value expireSeconds).1.isSome ∧ (c.set now key value expireSeconds).2 = c) := by
  unfold set
  split_ifs <;> first | exact .inl ⟨_, rfl⟩ | exact .inr ⟨rfl, rfl⟩

theorem find_insert (c : Freecache) (e : Entry) (key : String) :
    (c.insert e).find key = if e.key = key then some e else c.find key := by
  by_cases h : e.key = key
  · simp [find, insert, h]
  · have hb : (e.key == key) = false := by simpa using h
    simp only [find, insert, List.find?_cons, hb, List.find?_filter, h, if_false]
    congr 1; funext x
    by_cases hx : x.key = key <;> simp [hx, Ne.symm h]

/-- A `Set` of `key` leaves the entry of every other key as it was. -/
theorem find_set_of_ne (c : Freecache) (now : UInt32) {key k : String} (value : Bytes)
    (expireSeconds : Int) (hk : key ≠ k) : (c.set now key value expireSeconds).2.find k = c.find k := by
  rcases set_cases c now key value expireSeconds with ⟨x, hx⟩ | ⟨-, hx⟩ <;> rw [hx]
  exact (find_insert _ _ _).trans (if_neg hk)

theorem find_del (c : Freecache) (key k : String) :
    (c.del key).find k = if key = k then none else c.find k := by
  by_cases h : key = k
  · subst h; simp [find, del, List.find?_filter, List.find?_eq_none]
  · simp only [find, del, h, if_false, List.find?_filter]
    congr 1; funext x
    by_cases hx : x.key = k <;> simp [hx, Ne.symm h]

/-- The iterator's test is `isExpired` negated. -/
theorem iterate_test (e : Entry) (now : UInt32) :
    (e.expireAt == 0 || e.expireAt > now) = !isExpired e.expireAt now := by
  by_cases h0 : e.expireAt = 0
  · simp [isExpired, h0]
  · have h0' : (e.expireAt == 0) = false := by simpa using h0
    by_cases hl : now < e.expireAt
    · simp [isExpired, h0', hl, UInt32.not_le.mpr hl]
    · simp [isExpired, h0', h0, hl, UInt32.not_lt.mp hl]

/-- Iteration order aside, the iterator returns exactly the live entries. -/
theorem mem_iterate {c : Freecache} {now : UInt32} {e : Entry} :
    e ∈ c.iterate now ↔ e ∈ c.entries ∧ isExpired e.expireAt now = false := by
  simp [iterate, iterate_test]

theorem find_of_lookup {c : Freecache} {now : UInt32} {key : String} {e : Entry}
    (h : c.lookup now key = some e) : c.find key = some e :=
  (Option.filter_eq_some.mp h).1

theorem live_of_lookup {c : Freecache} {now : UInt32} {key : String} {e : Entry}
    (h : c.lookup now key = some e) : isExpired e.expireAt now = false := by
  simpa using (Option.filter_eq_some.mp h).2

theorem mem_of_find {c : Freecache} {key : String} {e : Entry} (h : c.find key = some e) : e ∈ c.entries :=
  List.mem_of_find?_eq_some h

/-- An entry of the store is the one `find` returns for its key. -/
theorem find_of_mem {c : Freecache} {e : Entry} (h : e ∈ c.entries) : c.find e.key = some e := by
  obtain ⟨l₁, l₂, hl⟩ := List.append_of_mem h
  have hnd := c.nodup
  simp only [hl, List.map_append, List.map_cons] at hnd
  have hl₁ : ∀ x ∈ l₁, x.key ≠ e.key := fun x hx hk =>
    (List.nodup_append.mp hnd).2.2 (List.mem_map_of_mem _ hx) (by simp [hk])
  simp only [find, hl, List.find?_append, List.find?_cons, beq_self_eq_true]
  rw [List.find?_eq_none.mpr (by simpa using hl₁)]
  rfl

end Freecache

end Xcache
