import Xcache.Basic

namespace Xcache

/-!
# xcache — parsing the Redis `INFO` reply

`parseInfoStats` (`redis_config.go`) reads each field of `Stats` from the reply of the
`INFO` command: for each key prefix, the digits right after its first occurrence, at
most 20 of them, as an `int64`.

* `bytesIndex`, `extractDigits`, `parseInt` — `bytes.Index`, the digit loop and
  `strconv.ParseInt` on what that loop can produce;
* `setStatsKeyPrefixes` — the prefixes a single-node or cluster cache asks for;
* `extractDigits_prefix`, `extractDigits_length_le` — the digit loop reads only bytes
  of the reply after the prefix, and at most 20 of them;
* `parseInfoStats_fields` — for the prefixes of any cache, every field but `MaxMemory`
  is the value after its prefix, and `MaxMemory` is the `total_system_memory:` value
  whatever `maxmemory:` says (`parseInfoStats_ignores_maxmemory`).
-/

/-- The bytes of an ASCII string: `[]byte(s)` for every string this file converts. -/
def asciiBytes (s : String) : Bytes := s.toList.map fun c => c.toNat.toUInt8

@[simp] theorem asciiBytes_length (s : String) : (asciiBytes s).length = s.length := by
  simp only [asciiBytes, List.length_map]; rfl

/-! ### The library calls -/

/-- `bytes.Index(s, sep)`: the first index at which `sep` occurs in `s`; `none` is `-1`. -/
def bytesIndex (s sep : Bytes) : Option Nat :=
  if sep.isPrefixOf s then some 0 else
    match s with
    | [] => none
    | _ :: t => (bytesIndex t sep).map (· + 1)

/-- `'0' <= b && b <= '9'`. -/
def isDigitByte (b : UInt8) : Bool := 48 ≤ b && b ≤ 57

/-- The digit loop of `parseInfoStats`: copies the bytes from the one after the prefix
    into `extractedDigits` while they are digits, the reply has more, and fewer than
    `cap` have been copied. -/
def extractDigits : Nat → Bytes → Bytes
  | 0, _ => []
  | _ + 1, [] => []
  | cap + 1, b :: rest => if isDigitByte b then b :: extractDigits cap rest else []

/-- `math.MaxInt64`. -/
def maxInt64 : Int := 9223372036854775807

/-- The number the decimal digits `ds` spell. -/
def digitsValue (ds : Bytes) : Nat := ds.foldl (fun n d => 10 * n + (d.toNat - 48)) 0

/-- `strconv.ParseInt(s, 10, 64)` with its error dropped, on a string of decimal
    digits (all the digit loop produces): the value, saturated at `MaxInt64`; 0 for the
    empty string. -/
def parseInt (digits : Bytes) : Int := min (digitsValue digits : Int) maxInt64

/-- `bytes.Index` finds an occurrence, and none before it. -/
theorem bytesIndex_some {s sep : Bytes} {i : Nat} (h : bytesIndex s sep = some i) :
    sep <+: s.drop i ∧ ∀ j < i, ¬ sep <+: s.drop j := by
  induction s generalizing i with
  | nil =>
    unfold bytesIndex at h
    split at h
    · cases h; exact ⟨List.isPrefixOf_iff_prefix.mp ‹_›, fun j hj => absurd hj (Nat.not_lt_zero j)⟩
    · cases h
  | cons b t ih =>
    unfold bytesIndex at h
    split at h
    · cases h; exact ⟨List.isPrefixOf_iff_prefix.mp ‹_›, fun j hj => absurd hj (Nat.not_lt_zero j)⟩
    · rename_i hne
      obtain ⟨k, hk, rfl⟩ := Option.map_eq_some'.mp h
      obtain ⟨hpre, hfirst⟩ := ih hk
      refine ⟨by simpa using hpre, fun j hj => ?_⟩
      cases j with
      | zero => simpa [List.isPrefixOf_iff_prefix] using hne
      | succ j => simpa using hfirst j (by omega)

/-- `bytes.Index` returns `-1` only when `sep` occurs nowhere. -/
theorem bytesIndex_none {s sep : Bytes} (h : bytesIndex s sep = none) : ∀ j, ¬ sep <+: s.drop j := by
  induction s with
  | nil =>
    unfold bytesIndex at h
    split at h
    · cases h
    · rename_i hne; intro j; simpa [List.isPrefixOf_iff_prefix] using hne
  | cons b t ih =>
    unfold bytesIndex at h
    split at h
    · cases h
    · rename_i hne
      intro j
      cases j with
      | zero => simpa [List.isPrefixOf_iff_prefix] using hne
      | succ j => simpa using ih (Option.map_eq_none'.mp h) j

/-- The digit loop reads a prefix of what follows the key prefix. -/
theorem extractDigits_prefix (cap : Nat) (s : Bytes) : extractDigits cap s <+: s := by
  induction cap generalizing s with
  | zero => exact List.nil_prefix
  | succ cap ih =>
    cases s with
    | nil => exact List.nil_prefix
    | cons b rest =>
      simp only [extractDigits]
      split
      · exact (List.prefix_cons_inj b).mpr (ih rest)
      · exact List.nil_prefix

/-- The digit loop fills at most `cap` bytes of the digit buffer. -/
theorem extractDigits_length_le (cap : Nat) (s : Bytes) : (extractDigits cap s).length ≤ cap := by
  induction cap generalizing s with
  | zero => simp [extractDigits]
  | succ cap ih =>
    cases s with
    | nil => simp [extractDigits]
    | cons b rest =>
      simp only [extractDigits]
      split
      · simpa using ih rest
      · simp

/-- The digit loop is the run of digits after the prefix, cut at `cap`. -/
theorem extractDigits_eq (cap : Nat) (s : Bytes) :
    extractDigits cap s = (s.takeWhile isDigitByte).take cap := by
  induction cap generalizing s with
  | zero => simp [extractDigits]
  | succ cap ih =>
    cases s with
    | nil => rfl
    | cons b rest =>
      simp only [extractDigits, List.takeWhile_cons]
      split <;> simp [ih]

/-! ### The key prefixes -/

/-- `redisInfoPrefixMem`. -/
def redisInfoPrefixMem : String := "used_memory:"
/-- `redisInfoPrefixMaxMem`. -/
def redisInfoPrefixMaxMem : String := "maxmemory:"
/-- `redisInfoPrefixTotalSystemMem`. -/
def redisInfoPrefixTotalSystemMem : String := "total_system_memory:"
/-- `redisInfoPrefixHits`. -/
def redisInfoPrefixHits : String := "keyspace_hits:"
/-- `redisInfoPrefixMisses`. -/
def redisInfoPrefixMisses : String := "keyspace_misses:"
/-- `redisInfoPrefixEvictedKeys`. -/
def redisInfoPrefixEvictedKeys : String := "evicted_keys:"
/-- `redisInfoPrefixExpiredKeys`. -/
def redisInfoPrefixExpiredKeys : String := "expired_keys:"

/-- `clusterReplicaKeyPrefixes`. -/
def clusterReplicaKeyPrefixes : List String := [redisInfoPrefixHits, redisInfoPrefixMisses]

/-- `clusterMasterKeyPrefixes`. -/
def clusterMasterKeyPrefixes : List String :=
  [redisInfoPrefixMem, redisInfoPrefixMaxMem, redisInfoPrefixTotalSystemMem,
    redisInfoPrefixEvictedKeys, redisInfoPrefixExpiredKeys, redisInfoPrefixHits,
    redisInfoPrefixMisses]

/-- The keys count prefix of database `db`, as in `db0:keys=59,expires=1,avg_ttl=98929`. -/
def keysCountPrefix (db : Int) : String := "db" ++ toString db ++ ":keys="

/-- `setStatsKeyPrefixes`: the prefixes `statsInfoKeyPrefixes` is set to; a cluster
    cache does not ask for the keys count. -/
def setStatsKeyPrefixes (isCluster : Bool) (db : Int) : List String :=
  if isCluster then clusterMasterKeyPrefixes
  else clusterMasterKeyPrefixes ++ [keysCountPrefix db]

/-! ### `parseInfoStats` -/

/-- The value `parseInfoStats` reads for `keyPrefix`: none when the prefix does not
    occur in `info`. -/
def infoValue (info : Bytes) (keyPrefix : String) : Option Int :=
  (bytesIndex info (asciiBytes keyPrefix)).map fun idx =>
    parseInt (extractDigits 20 (info.drop (idx + (asciiBytes keyPrefix).length)))

/-- `parseInfoStats` reads, after the first occurrence of the prefix, the run of digits
    there cut at 20, saturated at `MaxInt64`. -/
theorem infoValue_eq (info : Bytes) (keyPrefix : String) :
    infoValue info keyPrefix = (bytesIndex info (asciiBytes keyPrefix)).map fun idx =>
      min (digitsValue (((info.drop (idx + keyPrefix.length)).takeWhile isDigitByte).take 20) : Int)
        maxInt64 := by
  simp [infoValue, parseInt, extractDigits_eq]

/-- The `switch keyPrefix` of `parseInfoStats`: stores `value` in the field of
    `keyPrefix`. -/
def setInfoField (stats : Stats) (keyPrefix : String) (value : Int) : Stats :=
  if keyPrefix = redisInfoPrefixMem then { stats with memory := value }
  else if keyPrefix = redisInfoPrefixMaxMem then
    if stats.maxMemory > 0 then { stats with maxMemory := value } else stats
  else if keyPrefix = redisInfoPrefixTotalSystemMem then
    if stats.maxMemory = 0 then { stats with maxMemory := value } else stats
  else if keyPrefix = redisInfoPrefixEvictedKeys then { stats with evicted := value }
  else if keyPrefix = redisInfoPrefixExpiredKeys then { stats with expired := value }
  else if keyPrefix = redisInfoPrefixHits then { stats with hits := value }
  else if keyPrefix = redisInfoPrefixMisses then { stats with misses := value }
  else { stats with keys := value }

/-- One iteration of the loop of `parseInfoStats`. -/
def readInfoField (info : Bytes) (stats : Stats) (keyPrefix : String) : Stats :=
  match infoValue info keyPrefix with
  | none => stats
  | some value => setInfoField stats keyPrefix value

/-- `parseInfoStats`. -/
def parseInfoStats (info : Bytes) (keyPrefixes : List String) : Stats :=
  keyPrefixes.foldl (readInfoField info) {}

/-! ### What `parseInfoStats` computes -/

theorem keysCountPrefix_ne {db : Int} {p : String} (hp : p.data.head? ≠ some 'd') :
    keysCountPrefix db ≠ p := by
  rintro rfl; simp [keysCountPrefix] at hp

section Steps

variable (info : Bytes) (s : Stats)

theorem readInfoField_mem : readInfoField info s redisInfoPrefixMem =
    { s with memory := (infoValue info redisInfoPrefixMem).getD s.memory } := by
  unfold readInfoField; cases infoValue info _ <;> simp [setInfoField]

/-- `maxmemory:` is stored only over a `MaxMemory` already positive. -/
theorem readInfoField_maxMem : readInfoField info s redisInfoPrefixMaxMem =
    if s.maxMemory > 0 then
      { s with maxMemory := (infoValue info redisInfoPrefixMaxMem).getD s.maxMemory }
    else s := by
  unfold readInfoField
  cases infoValue info _ <;> simp [setInfoField, redisInfoPrefixMem, redisInfoPrefixMaxMem]

/-- `total_system_memory:` is stored only over a zero `MaxMemory`. -/
theorem readInfoField_totalSystemMem : readInfoField info s redisInfoPrefixTotalSystemMem =
    if s.maxMemory = 0 then
      { s with maxMemory := (infoValue info redisInfoPrefixTotalSystemMem).getD s.maxMemory }
    else s := by
  unfold readInfoField
  cases infoValue info _ <;>
    simp [setInfoField, redisInfoPrefixMem, redisInfoPrefixMaxMem, redisInfoPrefixTotalSystemMem]

theorem readInfoField_evicted : readInfoField info s redisInfoPrefixEvictedKeys =
    { s with evicted := (infoValue info redisInfoPrefixEvictedKeys).getD s.evicted } := by
  unfold readInfoField
  cases infoValue info _ <;> simp [setInfoField, redisInfoPrefixMem, redisInfoPrefixMaxMem,
    redisInfoPrefixTotalSystemMem, redisInfoPrefixEvictedKeys]

theorem readInfoField_expired : readInfoField info s redisInfoPrefixExpiredKeys =
    { s with expired := (infoValue info redisInfoPrefixExpiredKeys).getD s.expired } := by
  unfold readInfoField
  cases infoValue info _ <;> simp [setInfoField, redisInfoPrefixMem, redisInfoPrefixMaxMem,
    redisInfoPrefixTotalSystemMem, redisInfoPrefixEvictedKeys, redisInfoPrefixExpiredKeys]

theorem readInfoField_hits : readInfoField info s redisInfoPrefixHits =
    { s with hits := (infoValue info redisInfoPrefixHits).getD s.hits } := by
  unfold readInfoField
  cases infoValue info _ <;> simp [setInfoField, redisInfoPrefixMem, redisInfoPrefixMaxMem,
    redisInfoPrefixTotalSystemMem, redisInfoPrefixEvictedKeys, redisInfoPrefixExpiredKeys,
    redisInfoPrefixHits]

theorem readInfoField_misses : readInfoField info s redisInfoPrefixMisses =
    { s with misses := (infoValue info redisInfoPrefixMisses).getD s.misses } := by
  unfold readInfoField
  cases infoValue info _ <;> simp [setInfoField, redisInfoPrefixMem, redisInfoPrefixMaxMem,
    redisInfoPrefixTotalSystemMem, redisInfoPrefixEvictedKeys, redisInfoPrefixExpiredKeys,
    redisInfoPrefixHits, redisInfoPrefixMisses]

/-- The keys count prefix falls to the `default` branch of the switch. -/
theorem readInfoField_keys (db : Int) : readInfoField info s (keysCountPrefix db) =
    { s with keys := (infoValue info (keysCountPrefix db)).getD s.keys } := by
  unfold readInfoField
  cases infoValue info _ <;> simp [setInfoField, keysCountPrefix_ne, redisInfoPrefixMem,
    redisInfoPrefixMaxMem, redisInfoPrefixTotalSystemMem, redisInfoPrefixEvictedKeys,
    redisInfoPrefixExpiredKeys, redisInfoPrefixHits, redisInfoPrefixMisses]

end Steps

/-- **What `parseInfoStats` returns, for every reply.** With the prefixes of any cache,
    each counter is the value after its prefix (0 when the prefix is absent), the keys
    count is read only on a single node, and `MaxMemory` is the `total_system_memory:`
    value: `maxmemory:` is tested against the `MaxMemory` read so far, which is still 0
    when it is read, so it is never stored. -/
theorem parseInfoStats_fields (info : Bytes) (isCluster : Bool) (db : Int) :
    parseInfoStats info (setStatsKeyPrefixes isCluster db) =
      { memory := (infoValue info redisInfoPrefixMem).getD 0
        maxMemory := (infoValue info redisInfoPrefixTotalSystemMem).getD 0
        hits := (infoValue info redisInfoPrefixHits).getD 0
        misses := (infoValue info redisInfoPrefixMisses).getD 0
        keys := if isCluster then 0 else (infoValue info (keysCountPrefix db)).getD 0
        expired := (infoValue info redisInfoPrefixExpiredKeys).getD 0
        evicted := (infoValue info redisInfoPrefixEvictedKeys).getD 0 } := by
  cases isCluster <;>
    simp [parseInfoStats, setStatsKeyPrefixes, clusterMasterKeyPrefixes, readInfoField_mem,
      readInfoField_maxMem, readInfoField_totalSystemMem, readInfoField_evicted,
      readInfoField_expired, readInfoField_hits, readInfoField_misses, readInfoField_keys]

/-- A reply with a positive `maxmemory:` on a single node of database 0: `MaxMemory` is
    the `total_system_memory:` value, not the configured maximum. -/
theorem parseInfoStats_ignores_maxmemory :
    infoValue (asciiBytes "maxmemory:5\r\ntotal_system_memory:7\r\n") redisInfoPrefixMaxMem = some 5 ∧
      (parseInfoStats (asciiBytes "maxmemory:5\r\ntotal_system_memory:7\r\n")
        (setStatsKeyPrefixes false 0)).maxMemory = 7 := by
  decide

end Xcache
