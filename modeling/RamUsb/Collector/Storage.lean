import RamUsb.Metrics.Metric

/-!
# The collector's time-series storage

`TimescaleDBStorage` (`storage/timescaledb.go`) keeps the rows its transactions committed
and two counters, `metricsStored` and `metricsFailures`. Its `StoreMetric` converts the
metric to a row and tries `executeInsert` up to `maxRetries` times: a committed insert
counts one stored metric and returns `nil`; an error that `isRetryableError` does not
recognise, or the last retryable one, counts one failure and returns an error. What the
database does is an argument: `insert n` is what the `n`-th `executeInsert` returns, and a
successful one has committed the row.

`isRetryableError` reads the error's text with the file's own recursive `contains`, which is
`strings.Contains` (`contains_eq_strings_contains`).

`StoreBatch` inserts a list of metrics in one transaction: the rows are committed, and the
stored count grows by their number, only when every insert and the commit succeed.

The package function `storage.StoreMetric` (`unnamed/part_000`) calls the global instance,
and fails without touching any counter when there is none.

* `storeMetric_cases`: every call either commits one row, counts one stored metric and
  returns `nil`, or commits nothing, counts one failure and returns an error.
* `storeMetric_attempts`: a call stops at the first committed insert, the first error
  `isRetryableError` rejects, or the `maxRetries`-th attempt, and reads no outcome after it.
* `Reachable.countsCommitted`: over any run of `StoreMetric` and `StoreBatch` calls the
  stored count is the number of rows committed since the start.
-/

namespace RamUsb.Collector.Storage

open Go

/-- `types.StoredMetric`: one row of the `metrics` hypertable. Times are Unix seconds. -/
structure StoredMetric where
  time : Int
  service : Str
  metricName : Str
  metricType : Str
  value : ℚ
  labels : Labels
  insertedAt : Int
  deriving DecidableEq

/-- The state of a `TimescaleDBStorage`: the rows it committed and its two counters. -/
structure TimescaleDBStorage where
  rows : List StoredMetric
  metricsStored : Nat
  metricsFailures : Nat

/-- `contains(s, substr)` of `timescaledb.go`: the recursive substring test. -/
def contains : Str → Str → Bool
  | [], substr => decide (substr.length ≤ 0) && [] == substr
  | b :: t, substr =>
    decide (substr.length ≤ t.length + 1) &&
      (b :: t == substr ||
        decide (substr.length < t.length + 1) &&
          (contains t substr || (b :: t).take substr.length == substr))

/-- The error texts `isRetryableError` takes for transient failures. -/
def retryablePatterns : List Str :=
  [lit "connection refused", lit "connection reset", lit "broken pipe", lit "deadlock",
    lit "timeout", lit "too many connections"]

/-- `isRetryableError(err)`, `none` standing for `nil`. -/
def isRetryableError : Option Str → Bool
  | none => false
  | some errStr => retryablePatterns.any (contains errStr)

theorem contains_eq_true_iff (s sub : Str) : contains s sub = true ↔ sub <:+: s := by
  induction s with
  | nil => simp [contains]
  | cons b t ih =>
    rw [List.infix_cons_iff, List.prefix_iff_eq_take]
    simp only [contains, Bool.and_eq_true, Bool.or_eq_true, decide_eq_true_eq, beq_iff_eq, ih,
      List.length_cons]
    rcases Nat.lt_trichotomy sub.length (t.length + 1) with hlt | heq | hgt
    · -- `sub` is shorter: a match at the head, or one in the tail
      constructor
      · rintro ⟨-, h | ⟨-, h | h⟩⟩
        · exact absurd (congrArg List.length h) (by simp; omega)
        · exact .inr h
        · exact .inl h.symm
      · rintro (h | h)
        · exact ⟨hlt.le, .inr ⟨hlt, .inr h.symm⟩⟩
        · exact ⟨hlt.le, .inr ⟨hlt, .inl h⟩⟩
    · -- as long as `s`: only `s` itself
      have htake : (b :: t).take sub.length = b :: t := List.take_of_length_le (by simp [heq])
      rw [htake]
      constructor
      · rintro ⟨-, h | ⟨h, -⟩⟩
        · exact .inl h.symm
        · omega
      · rintro (h | h)
        · exact ⟨heq.le, .inl h.symm⟩
        · have := h.length_le; omega
    · -- longer than `s`: never
      constructor
      · rintro ⟨h, -⟩; omega
      · rintro (h | h)
        · have := congrArg List.length h; simp at this; omega
        · have := h.length_le; omega

theorem infix_iff_offset (s sub : Str) :
    sub <:+: s ↔ ∃ i, i + sub.length ≤ s.length ∧ (s.drop i).take sub.length = sub := by
  constructor
  · rintro ⟨a, b, rfl⟩
    refine ⟨a.length, by simp, ?_⟩
    rw [List.append_assoc, List.drop_left, List.take_left]
  · rintro ⟨i, -, h⟩
    refine ⟨s.take i, (s.drop i).drop sub.length, ?_⟩
    conv_rhs => rw [← List.take_append_drop i s, ← List.take_append_drop sub.length (s.drop i), h]
    rw [List.append_assoc]

/-- **The retry classifier's substring test is `strings.Contains`.** `contains` recurses on
a shorter string each time, so every call returns; it is true exactly when `sub` occurs in
`s` at an offset `i` with `i + len(sub) ≤ len(s)`, which is `strings.Contains(s, sub)` and
tells upper from lower case; so `isRetryableError` is true exactly when the error's text
holds one of its six patterns verbatim. -/
theorem contains_eq_strings_contains :
    (∀ s sub : Str, contains s sub = true ↔
      ∃ i, i + sub.length ≤ s.length ∧ (s.drop i).take sub.length = sub) ∧
    (∀ s sub : Str, contains s sub = Go.contains s sub) ∧
    (∀ errStr : Str, isRetryableError (some errStr) = true ↔
      ∃ pattern ∈ retryablePatterns, pattern <:+: errStr) :=
  ⟨fun s sub => (contains_eq_true_iff s sub).trans (infix_iff_offset s sub),
    fun s sub => Bool.eq_iff_iff.mpr ((contains_eq_true_iff s sub).trans (Go.contains_iff s sub).symm),
    fun errStr => by simp [isRetryableError, contains_eq_true_iff]⟩

example : contains (lit "Connection refused") (lit "connection refused") = false := by decide

/-- `maxRetries`. -/
def maxRetries : Nat := 3

/-- The row `StoreMetric` builds from a metric, received at `now`. -/
def toStored (metric : Metric) (now : Int) : StoredMetric where
  time := metric.timestamp
  service := metric.service
  metricName := metric.name
  metricType := metric.type
  value := metric.value
  labels := metric.labels
  insertedAt := now

namespace TimescaleDBStorage

/-- `incrementStoredCount`. -/
def incrementStoredCount (s : TimescaleDBStorage) : TimescaleDBStorage :=
  { s with metricsStored := s.metricsStored + 1 }

/-- `incrementFailureCount`. -/
def incrementFailureCount (s : TimescaleDBStorage) : TimescaleDBStorage :=
  { s with metricsFailures := s.metricsFailures + 1 }

/-- A committed `executeInsert` transaction. -/
def commit (s : TimescaleDBStorage) (row : StoredMetric) : TimescaleDBStorage :=
  { s with rows := s.rows ++ [row] }

@[simp] theorem commit_rows (s : TimescaleDBStorage) (row : StoredMetric) :
    (s.commit row).rows = s.rows ++ [row] := rfl
@[simp] theorem commit_metricsStored (s : TimescaleDBStorage) (row : StoredMetric) :
    (s.commit row).metricsStored = s.metricsStored := rfl
@[simp] theorem commit_metricsFailures (s : TimescaleDBStorage) (row : StoredMetric) :
    (s.commit row).metricsFailures = s.metricsFailures := rfl
@[simp] theorem incrementStoredCount_rows (s : TimescaleDBStorage) :
    s.incrementStoredCount.rows = s.rows := rfl
@[simp] theorem incrementStoredCount_metricsStored (s : TimescaleDBStorage) :
    s.incrementStoredCount.metricsStored = s.metricsStored + 1 := rfl
@[simp] theorem incrementStoredCount_metricsFailures (s : TimescaleDBStorage) :
    s.incrementStoredCount.metricsFailures = s.metricsFailures := rfl
@[simp] theorem incrementFailureCount_rows (s : TimescaleDBStorage) :
    s.incrementFailureCount.rows = s.rows := rfl
@[simp] theorem incrementFailureCount_metricsStored (s : TimescaleDBStorage) :
    s.incrementFailureCount.metricsStored = s.metricsStored := rfl
@[simp] theorem incrementFailureCount_metricsFailures (s : TimescaleDBStorage) :
    s.incrementFailureCount.metricsFailures = s.metricsFailures + 1 := rfl

/-- The retry loop of `StoreMetric` from attempt `attempt` on, `left` attempts left. -/
def storeLoop (insert : Nat → Except Str Unit) (row : StoredMetric) :
    Nat → Nat → TimescaleDBStorage → Except Str Unit × TimescaleDBStorage
  | _, 0, s =>
    (.error (lit "failed to store metric after " ++ itoa maxRetries ++ lit " attempts"),
      s.incrementFailureCount)
  | attempt, left + 1, s =>
    match insert attempt with
    | .ok () => (.ok (), (s.commit row).incrementStoredCount)
    | .error err =>
      if isRetryableError (some err) then storeLoop insert row (attempt + 1) left s
      else (.error (lit "non-retryable error storing metric: " ++ err), s.incrementFailureCount)

/-- `(*TimescaleDBStorage).StoreMetric(metric)` at time `now`. -/
def storeMetric (insert : Nat → Except Str Unit) (now : Int) (metric : Metric)
    (s : TimescaleDBStorage) : Except Str Unit × TimescaleDBStorage :=
  storeLoop insert (toStored metric now) 0 maxRetries s

/-- What one call of `StoreMetric` can do to the storage: return `nil` with the row committed
and the stored count one higher, or return an error with no row committed and the failure
count one higher; the other count stays as it was. -/
def StoreOutcome (s : TimescaleDBStorage) (row : StoredMetric)
    (p : Except Str Unit × TimescaleDBStorage) : Prop :=
  (p.1 = .ok () ∧ p.2.rows = s.rows ++ [row] ∧ p.2.metricsStored = s.metricsStored + 1 ∧
      p.2.metricsFailures = s.metricsFailures) ∨
    (p.1 ≠ .ok () ∧ p.2.rows = s.rows ∧ p.2.metricsStored = s.metricsStored ∧
      p.2.metricsFailures = s.metricsFailures + 1)

theorem storeLoop_cases (insert : Nat → Except Str Unit) (row : StoredMetric) :
    ∀ attempt left s, StoreOutcome s row (storeLoop insert row attempt left s)
  | _, 0, s => .inr ⟨nofun, rfl, rfl, rfl⟩
  | attempt, left + 1, s => by
    unfold storeLoop
    rcases insert attempt with err | u
    · dsimp only
      split
      · exact storeLoop_cases insert row (attempt + 1) left s
      · exact .inr ⟨nofun, rfl, rfl, rfl⟩
    · exact .inl ⟨rfl, rfl, rfl, rfl⟩

/-- **One call, one count.** `StoreMetric` either commits its row, counts one stored metric
and returns `nil`, or commits nothing, counts one failure and returns an error. -/
theorem storeMetric_cases (insert : Nat → Except Str Unit) (now : Int) (metric : Metric)
    (s : TimescaleDBStorage) :
    StoreOutcome s (toStored metric now) (storeMetric insert now metric s) :=
  storeLoop_cases insert _ 0 maxRetries s

/-! ### Bounded retry -/

section
variable {insert : Nat → Except Str Unit} {row : StoredMetric} {attempt left : Nat}
  {s : TimescaleDBStorage}

theorem storeLoop_succ_ok (h : insert attempt = .ok ()) :
    storeLoop insert row attempt (left + 1) s = (.ok (), (s.commit row).incrementStoredCount) := by
  simp [storeLoop, h]

theorem storeLoop_succ_retry {err : Str} (h : insert attempt = .error err)
    (hr : isRetryableError (some err) = true) :
    storeLoop insert row attempt (left + 1) s = storeLoop insert row (attempt + 1) left s := by
  simp [storeLoop, h, hr]

theorem storeLoop_succ_fail {err : Str} (h : insert attempt = .error err)
    (hr : isRetryableError (some err) = false) :
    storeLoop insert row attempt (left + 1) s =
      (.error (lit "non-retryable error storing metric: " ++ err), s.incrementFailureCount) := by
  simp [storeLoop, h, hr]

end

/-- The retry loop from attempt `attempt`, with `left > 0` attempts left, makes `k ≤ left`
attempts: each but the last failed with an error `isRetryableError` retries, no outcome past
the `k`-th is read, and the loop returns `nil` exactly when the `k`-th committed. -/
theorem storeLoop_attempts (insert : Nat → Except Str Unit) (row : StoredMetric) :
    ∀ left attempt s, 0 < left → ∃ k, 1 ≤ k ∧ k ≤ left ∧
      (∀ j, j + 1 < k → ∃ err, insert (attempt + j) = .error err ∧ isRetryableError (some err)) ∧
      (∀ insert' : Nat → Except Str Unit, (∀ j < k, insert' (attempt + j) = insert (attempt + j)) →
        storeLoop insert' row attempt left s = storeLoop insert row attempt left s) ∧
      ((storeLoop insert row attempt left s).1 = .ok () ↔ insert (attempt + (k - 1)) = .ok ())
  | 0, _, _, h => absurd h (Nat.lt_irrefl 0)
  | left + 1, attempt, s, _ => by
    have h₀ : ∀ {n} (insert' : Nat → Except Str Unit), 0 < n →
        (∀ j < n, insert' (attempt + j) = insert (attempt + j)) → insert' attempt = insert attempt :=
      fun insert' hn h' => h' 0 hn
    rcases hi : insert attempt with err | u
    · cases hr : isRetryableError (some err)
      · -- a permanent error ends the loop at its first attempt
        refine ⟨1, le_rfl, by omega, fun j hj => absurd hj (by omega), fun insert' h' => ?_, ?_⟩
        · rw [storeLoop_succ_fail ((h₀ insert' Nat.one_pos h').trans hi) hr, storeLoop_succ_fail hi hr]
        · simp [storeLoop_succ_fail hi hr, hi]
      rcases Nat.eq_zero_or_pos left with rfl | hleft
      · -- a retryable error on the last attempt: the loop gives up
        refine ⟨1, le_rfl, le_rfl, fun j hj => absurd hj (by omega), fun insert' h' => ?_, ?_⟩
        · rw [storeLoop_succ_retry ((h₀ insert' Nat.one_pos h').trans hi) hr,
            storeLoop_succ_retry hi hr]; rfl
        · rw [storeLoop_succ_retry hi hr]; simp [storeLoop, hi]
      -- a retryable error with attempts left: the rest of the run is the loop one attempt on
      obtain ⟨k, hk₁, hk₂, hret, hagree, hres⟩ := storeLoop_attempts insert row left (attempt + 1) s hleft
      have hidx : ∀ j, attempt + (j + 1) = attempt + 1 + j := fun j => by omega
      refine ⟨k + 1, by omega, by omega, fun j hj => ?_, fun insert' h' => ?_, ?_⟩
      · rcases j with _ | j
        · exact ⟨err, hi, hr⟩
        · rw [hidx]; exact hret j (by omega)
      · rw [storeLoop_succ_retry ((h₀ insert' (by omega) h').trans hi) hr, storeLoop_succ_retry hi hr]
        exact hagree insert' fun j hj => by rw [← hidx]; exact h' (j + 1) (by omega)
      · rw [storeLoop_succ_retry hi hr, hres, show attempt + 1 + (k - 1) = attempt + (k + 1 - 1) by omega]
    · -- the first attempt commits
      refine ⟨1, le_rfl, by omega, fun j hj => absurd hj (by omega), fun insert' h' => ?_, ?_⟩
      · rw [storeLoop_succ_ok ((h₀ insert' Nat.one_pos h').trans hi), storeLoop_succ_ok hi]
      · simp [storeLoop_succ_ok hi, hi]

/-- **Bounded retry.** A call of `StoreMetric` makes between one and `maxRetries` insert
attempts, the next one only after an error `isRetryableError` retries; it reads no outcome
past its last attempt, and it returns `nil` exactly when one of its attempts committed. -/
theorem storeMetric_attempts (insert : Nat → Except Str Unit) (now : Int) (metric : Metric)
    (s : TimescaleDBStorage) :
    ∃ k, 1 ≤ k ∧ k ≤ maxRetries ∧
      (∀ j, j + 1 < k → ∃ err, insert j = .error err ∧ isRetryableError (some err)) ∧
      (∀ insert' : Nat → Except Str Unit, (∀ j < k, insert' j = insert j) →
        s.storeMetric insert' now metric = s.storeMetric insert now metric) ∧
      ((s.storeMetric insert now metric).1 = .ok () ↔ ∃ j < k, insert j = .ok ()) := by
  obtain ⟨k, hk₁, hk₂, hret, hagree, hres⟩ :=
    storeLoop_attempts insert (toStored metric now) maxRetries 0 s (by decide)
  simp only [Nat.zero_add] at hret hagree hres
  refine ⟨k, hk₁, hk₂, hret, hagree, ?_⟩
  rw [storeMetric, hres]
  constructor
  · exact fun h => ⟨k - 1, by omega, h⟩
  · rintro ⟨j, hj, hok⟩
    rcases Nat.lt_or_ge (j + 1) k with hlt | hge
    · obtain ⟨err, herr, -⟩ := hret j hlt
      exact absurd (herr.symm.trans hok) nofun
    · rwa [show k - 1 = j by omega]

/-! ### Batches -/

/-- `incrementStoredCountBy(count)`. -/
def incrementStoredCountBy (s : TimescaleDBStorage) (count : Nat) : TimescaleDBStorage :=
  { s with metricsStored := s.metricsStored + count }

/-- A committed `StoreBatch` transaction. -/
def commitAll (s : TimescaleDBStorage) (rows : List StoredMetric) : TimescaleDBStorage :=
  { s with rows := s.rows ++ rows }

/-- The rows `StoreBatch` queues, one per metric, each stamped when it is queued. -/
def batchRows (now : Nat → Int) (metrics : List Metric) : List StoredMetric :=
  metrics.enum.map fun (i, m) => toStored m (now i)

/-- The loop over `results.Exec()`: the first queued insert that failed, with its error. -/
def firstFailure (exec : Nat → Option Str) (n : Nat) : Option (Nat × Str) :=
  (List.range n).findSome? fun i => (exec i).map (i, ·)

/-- `(*TimescaleDBStorage).StoreBatch(metrics)`, given the result of `Begin`, the error of
each queued insert by its index, the result of `Commit`, and the clock as each row is queued.
`json.Marshal` of a `map[string]string` cannot fail, so its branch is left out. -/
def storeBatch (begin : Option Str) (exec : Nat → Option Str) (commitErr : Option Str)
    (now : Nat → Int) (metrics : List Metric) (s : TimescaleDBStorage) :
    Except Str Unit × TimescaleDBStorage :=
  if metrics.length = 0 then (.ok (), s)
  else match begin with
  | some err => (.error (lit "failed to begin transaction: " ++ err), s)
  | none =>
    match firstFailure exec metrics.length with
    | some (i, err) => (.error (lit "batch insert failed at index " ++ itoa i ++ lit ": " ++ err), s)
    | none =>
      match commitErr with
      | some err => (.error (lit "failed to commit transaction: " ++ err), s)
      | none => (.ok (), (s.commitAll (batchRows now metrics)).incrementStoredCountBy metrics.length)

theorem length_batchRows (now : Nat → Int) (metrics : List Metric) :
    (batchRows now metrics).length = metrics.length := by
  simp [batchRows]

/-- What one call of `StoreBatch` can do to the storage: leave it as it was, or return `nil`
with one row committed per metric and the stored count higher by their number, the failure
count unchanged. -/
def BatchOutcome (s : TimescaleDBStorage) (rows : List StoredMetric)
    (p : Except Str Unit × TimescaleDBStorage) : Prop :=
  p.2 = s ∨
    (p.1 = .ok () ∧ p.2.rows = s.rows ++ rows ∧ p.2.metricsStored = s.metricsStored + rows.length ∧
      p.2.metricsFailures = s.metricsFailures)

/-- **A batch is all or nothing.** `StoreBatch` either commits one row per metric and adds
their number to the stored count, or commits nothing and leaves the storage as it was. -/
theorem storeBatch_cases (begin : Option Str) (exec : Nat → Option Str) (commitErr : Option Str)
    (now : Nat → Int) (metrics : List Metric) (s : TimescaleDBStorage) :
    BatchOutcome s (batchRows now metrics) (s.storeBatch begin exec commitErr now metrics) := by
  unfold storeBatch
  -- every early return hands back the storage it was given
  split
  · exact .inl rfl
  split
  · exact .inl rfl
  split
  · exact .inl rfl
  split
  · exact .inl rfl
  exact .inr ⟨rfl, rfl, by simp [incrementStoredCountBy, commitAll, length_batchRows], rfl⟩

/-! ### Runs of calls -/

/-- One call on a storage instance, with any outcomes of its statements. -/
inductive Call : TimescaleDBStorage → TimescaleDBStorage → Prop
  | storeMetric (insert : Nat → Except Str Unit) (now : Int) (metric : Metric)
      (s : TimescaleDBStorage) : Call s (s.storeMetric insert now metric).2
  | storeBatch (begin : Option Str) (exec : Nat → Option Str) (commitErr : Option Str)
      (now : Nat → Int) (metrics : List Metric) (s : TimescaleDBStorage) :
      Call s (s.storeBatch begin exec commitErr now metrics).2

/-- The states of the instance `NewTimescaleDBStorage` connects to a database holding
`rows₀`, with both counters at zero, after any sequence of calls. -/
inductive Reachable (rows₀ : List StoredMetric) : TimescaleDBStorage → Prop
  | init : Reachable rows₀ ⟨rows₀, 0, 0⟩
  | step {s s' : TimescaleDBStorage} : Reachable rows₀ s → Call s s' → Reachable rows₀ s'

/-- The stored count is the number of rows the instance committed since it connected. -/
def CountsCommitted (rows₀ : List StoredMetric) (s : TimescaleDBStorage) : Prop :=
  ∃ added, s.rows = rows₀ ++ added ∧ s.metricsStored = added.length

theorem Call.countsCommitted {rows₀ : List StoredMetric} {s s' : TimescaleDBStorage}
    (h : Call s s') (hi : CountsCommitted rows₀ s) : CountsCommitted rows₀ s' := by
  obtain ⟨added, hrows, hstored⟩ := hi
  cases h with
  | storeMetric insert now metric =>
    rcases storeMetric_cases insert now metric s with ⟨-, hr, hs, -⟩ | ⟨-, hr, hs, -⟩
    · exact ⟨added ++ [toStored metric now], by simp [hr, hrows], by simp [hs, hstored]⟩
    · exact ⟨added, hr.trans hrows, hs.trans hstored⟩
  | storeBatch begin exec commitErr now metrics =>
    rcases storeBatch_cases begin exec commitErr now metrics s with h | ⟨-, hr, hs, -⟩
    · rw [h]; exact ⟨added, hrows, hstored⟩
    · exact ⟨added ++ batchRows now metrics, by simp [hr, hrows], by simp [hs, hstored]⟩

theorem Reachable.countsCommitted {rows₀ : List StoredMetric} {s : TimescaleDBStorage}
    (h : Reachable rows₀ s) : CountsCommitted rows₀ s := by
  induction h with
  | init => exact ⟨[], by simp, rfl⟩
  | step _ hcall ih => exact hcall.countsCommitted ih

/-- **Metric storage accounting.** For every sequence of insert outcomes, a call of
`StoreMetric` makes at most `maxRetries` attempts, another one only after an error
`isRetryableError` retries, returns `nil` exactly when one of them committed, and then
commits that row and adds one to `metricsStored`, or else commits nothing and adds one to
`metricsFailures`, the other count unchanged. `StoreBatch` commits one row per metric and
adds their number to `metricsStored`, or commits nothing and changes nothing. So in every
reachable state the stored count is the number of rows the instance committed. -/
theorem storage_accounting :
    (∀ (insert : Nat → Except Str Unit) (now : Int) (metric : Metric) (s : TimescaleDBStorage),
      (∃ k, 1 ≤ k ∧ k ≤ maxRetries ∧
        (∀ j, j + 1 < k → ∃ err, insert j = .error err ∧ isRetryableError (some err)) ∧
        (∀ insert' : Nat → Except Str Unit, (∀ j < k, insert' j = insert j) →
          s.storeMetric insert' now metric = s.storeMetric insert now metric) ∧
        ((s.storeMetric insert now metric).1 = .ok () ↔ ∃ j < k, insert j = .ok ())) ∧
      ((s.storeMetric insert now metric).1 = .ok () ∧
          (s.storeMetric insert now metric).2.rows = s.rows ++ [toStored metric now] ∧
          (s.storeMetric insert now metric).2.metricsStored = s.metricsStored + 1 ∧
          (s.storeMetric insert now metric).2.metricsFailures = s.metricsFailures ∨
        (s.storeMetric insert now metric).1 ≠ .ok () ∧
          (s.storeMetric insert now metric).2.rows = s.rows ∧
          (s.storeMetric insert now metric).2.metricsStored = s.metricsStored ∧
          (s.storeMetric insert now metric).2.metricsFailures = s.metricsFailures + 1)) ∧
    (∀ (begin : Option Str) (exec : Nat → Option Str) (commitErr : Option Str) (now : Nat → Int)
        (metrics : List Metric) (s : TimescaleDBStorage),
      (s.storeBatch begin exec commitErr now metrics).2 = s ∨
        ((s.storeBatch begin exec commitErr now metrics).1 = .ok () ∧
          (s.storeBatch begin exec commitErr now metrics).2.rows = s.rows ++ batchRows now metrics ∧
          (s.storeBatch begin exec commitErr now metrics).2.metricsStored =
            s.metricsStored + metrics.length ∧
          (s.storeBatch begin exec commitErr now metrics).2.metricsFailures = s.metricsFailures)) ∧
    (∀ (rows₀ : List StoredMetric) (s : TimescaleDBStorage),
      Reachable rows₀ s → CountsCommitted rows₀ s) :=
  ⟨fun insert now metric s =>
      ⟨storeMetric_attempts insert now metric s, storeMetric_cases insert now metric s⟩,
    fun begin exec commitErr now metrics s =>
      (storeBatch_cases begin exec commitErr now metrics s).imp_right fun ⟨hok, hr, hs, hf⟩ =>
        ⟨hok, hr, hs.trans (by rw [length_batchRows]), hf⟩,
    fun _ _ h => h.countsCommitted⟩

end TimescaleDBStorage

/-- `storage.StoreMetric(metric)` on the global `storageInstance`. -/
def storeMetric (insert : Nat → Except Str Unit) (now : Int) (metric : Metric) :
    Option TimescaleDBStorage → Except Str Unit × Option TimescaleDBStorage
  | none => (.error (lit "storage not initialized"), none)
  | some s => (s.storeMetric insert now metric).map id some

/-- The stored count `GetStatistics` reads: the instance's, `0` without one. -/
def storedCount : Option TimescaleDBStorage → Nat
  | none => 0
  | some s => s.metricsStored

/-- `1` for a call that returned an error, `0` for one that returned `nil`. -/
def errorCount : Except Str Unit → Nat
  | .ok _ => 0
  | .error _ => 1

/-- Every call of `storage.StoreMetric` adds one to the stored count or returns an error,
never both. -/
theorem storedCount_storeMetric (insert : Nat → Except Str Unit) (now : Int) (metric : Metric)
    (inst : Option TimescaleDBStorage) :
    storedCount (storeMetric insert now metric inst).2 +
        errorCount (storeMetric insert now metric inst).1 = storedCount inst + 1 := by
  cases inst with
  | none => rfl
  | some s =>
    obtain ⟨h1, -, h2, -⟩ | ⟨h1, -, h2, -⟩ :=
      TimescaleDBStorage.storeMetric_cases insert now metric s
    · simp [storeMetric, storedCount, errorCount, h1, h2]
    · rcases hr : (s.storeMetric insert now metric).1 with e | u
      · simp [storeMetric, storedCount, errorCount, hr, h2]
      · exact absurd hr h1

end RamUsb.Collector.Storage
