import RamUsb.Collector.Storage

/-!
# Retention of the collector's time series

`RunRetentionPolicy(retentionDays)` (`unnamed/part_000`) computes the cutoff
`time.Now().AddDate(0, 0, -retentionDays)` and calls `DeleteOldMetrics(cutoff)` on the global
instance; without an instance it returns `(0, nil)`. `DeleteOldMetrics`
(`storage/timescaledb.go`) runs `DELETE FROM metrics WHERE time < $1` and returns the number
of rows the statement deleted, or `(0, err)`. The cutoff is an argument here, the value the
clock yields.

Together with `StoreMetric` and `StoreBatch` this is the whole life of a row: over every run
of the three calls, the rows in the table are a sublist of the rows the instance found
followed by those it committed, the stored count is the number it committed, and every
committed row that is gone was reported by a retention run (`retention_accounting`).
-/

namespace RamUsb.Collector.Storage

open Go

namespace TimescaleDBStorage

/-- `DeleteOldMetrics(olderThan)`, given the error the `DELETE` meets, if any: the number of
rows deleted and the error, and the storage after. -/
def deleteOldMetrics (execErr : Option Str) (olderThan : Int) (s : TimescaleDBStorage) :
    (Nat × Option Str) × TimescaleDBStorage :=
  match execErr with
  | some err => ((0, some (lit "failed to delete old metrics: " ++ err)), s)
  | none =>
    ((s.rows.countP fun r => r.time < olderThan, none),
      { s with rows := s.rows.filter fun r => ¬ r.time < olderThan })

/-- What a retention run leaves: a sublist of the rows, short by the number it reports, with
the stored count unchanged; on `nil` no row before the cutoff is left. -/
theorem deleteOldMetrics_spec (execErr : Option Str) (olderThan : Int) (s : TimescaleDBStorage) :
    (s.deleteOldMetrics execErr olderThan).2.metricsStored = s.metricsStored ∧
      List.Sublist (s.deleteOldMetrics execErr olderThan).2.rows s.rows ∧
      (s.deleteOldMetrics execErr olderThan).2.rows.length +
        (s.deleteOldMetrics execErr olderThan).1.1 = s.rows.length ∧
      ((s.deleteOldMetrics execErr olderThan).1.2 = none →
        ∀ row ∈ (s.deleteOldMetrics execErr olderThan).2.rows, olderThan ≤ row.time) := by
  unfold deleteOldMetrics
  cases execErr with
  | some err => exact ⟨rfl, List.Sublist.refl _, by simp, nofun⟩
  | none =>
    refine ⟨rfl, List.filter_sublist _, ?_, fun _ row hrow => ?_⟩
    · have := List.length_eq_countP_add_countP (fun r : StoredMetric => decide (r.time < olderThan)) s.rows
      simp only [List.countP_eq_length_filter, decide_eq_true_eq] at this
      simp only [List.countP_eq_length_filter]
      omega
    · simpa using (List.mem_filter.mp hrow).2

end TimescaleDBStorage

/-- `storage.RunRetentionPolicy(retentionDays)` on the global instance, `cutoff` being
`time.Now().AddDate(0, 0, -retentionDays)`. -/
def runRetentionPolicy (execErr : Option Str) (cutoff : Int) :
    Option TimescaleDBStorage → (Nat × Option Str) × Option TimescaleDBStorage
  | none => ((0, none), none)
  | some s => ((s.deleteOldMetrics execErr cutoff).1, some (s.deleteOldMetrics execErr cutoff).2)

/-! ### Runs with retention -/

namespace TimescaleDBStorage

/-- One call on a storage instance, with the number of rows it reports deleted. -/
inductive RetentionCall : TimescaleDBStorage → Nat → TimescaleDBStorage → Prop
  | storeMetric (insert : Nat → Except Str Unit) (now : Int) (metric : Metric)
      (s : TimescaleDBStorage) : RetentionCall s 0 (s.storeMetric insert now metric).2
  | storeBatch (begin : Option Str) (exec : Nat → Option Str) (commitErr : Option Str)
      (now : Nat → Int) (metrics : List Metric) (s : TimescaleDBStorage) :
      RetentionCall s 0 (s.storeBatch begin exec commitErr now metrics).2
  | deleteOldMetrics (execErr : Option Str) (olderThan : Int) (s : TimescaleDBStorage) :
      RetentionCall s (s.deleteOldMetrics execErr olderThan).1.1 (s.deleteOldMetrics execErr olderThan).2

/-- The states of the instance `NewTimescaleDBStorage` connects to a database holding `rows₀`
after any sequence of calls, with the total the retention runs reported deleted. -/
inductive RetentionReachable (rows₀ : List StoredMetric) : TimescaleDBStorage → Nat → Prop
  | init : RetentionReachable rows₀ ⟨rows₀, 0, 0⟩ 0
  | step {s s' : TimescaleDBStorage} {deleted n : Nat} : RetentionReachable rows₀ s deleted →
      RetentionCall s n s' → RetentionReachable rows₀ s' (deleted + n)

/-- The table is what the instance found and committed, less the rows retention reported. -/
def Accounted (rows₀ : List StoredMetric) (s : TimescaleDBStorage) (deleted : Nat) : Prop :=
  ∃ added, List.Sublist s.rows (rows₀ ++ added) ∧ s.metricsStored = added.length ∧
    s.rows.length + deleted = rows₀.length + added.length

theorem RetentionCall.accounted {rows₀ : List StoredMetric} {s s' : TimescaleDBStorage}
    {deleted n : Nat} (h : RetentionCall s n s') (hi : Accounted rows₀ s deleted) :
    Accounted rows₀ s' (deleted + n) := by
  obtain ⟨added, hsub, hstored, hlen⟩ := hi
  cases h with
  | storeMetric insert now metric =>
    rcases storeMetric_cases insert now metric s with ⟨-, hr, hs, -⟩ | ⟨-, hr, hs, -⟩
    · refine ⟨added ++ [toStored metric now], ?_, by simp [hs, hstored], by simp [hr]; omega⟩
      rw [hr]
      simpa [← List.append_assoc] using hsub.append (List.Sublist.refl [toStored metric now])
    · exact ⟨added, hr ▸ hsub, hs.trans hstored, by rw [hr]; exact hlen⟩
  | storeBatch begin exec commitErr now metrics =>
    rcases storeBatch_cases begin exec commitErr now metrics s with h | ⟨-, hr, hs, -⟩
    · rw [h]; exact ⟨added, hsub, hstored, hlen⟩
    · refine ⟨added ++ batchRows now metrics, ?_, by simp [hs, hstored, length_batchRows], ?_⟩
      · rw [hr]
        simpa [← List.append_assoc] using hsub.append (List.Sublist.refl (batchRows now metrics))
      · simp only [hr, List.length_append, length_batchRows]; omega
  | deleteOldMetrics execErr olderThan =>
    obtain ⟨hst, hsub', hlen', -⟩ := deleteOldMetrics_spec execErr olderThan s
    exact ⟨added, hsub'.trans hsub, hst.trans hstored, by omega⟩

theorem RetentionReachable.accounted {rows₀ : List StoredMetric} {s : TimescaleDBStorage}
    {deleted : Nat} (h : RetentionReachable rows₀ s deleted) : Accounted rows₀ s deleted := by
  induction h with
  | init => exact ⟨[], by simp, rfl, rfl⟩
  | step _ hcall ih => exact hcall.accounted ih

/-- **No row is lost unreported.** Whatever its statement meets, a `DeleteOldMetrics` call
keeps the stored count, leaves a sublist of the rows shorter by exactly the number it
returns, and, when it returns `nil`, no row before the cutoff; and over every run of
`StoreMetric`, `StoreBatch` and `DeleteOldMetrics` calls the table is a sublist of the rows
the instance found followed by the rows it committed, the stored count is the number it
committed, and the rows in the table plus the rows the retention runs reported deleted are
the rows it found plus the rows it committed. -/
theorem retention_accounting :
    (∀ (execErr : Option Str) (olderThan : Int) (s : TimescaleDBStorage),
      (s.deleteOldMetrics execErr olderThan).2.metricsStored = s.metricsStored ∧
        List.Sublist (s.deleteOldMetrics execErr olderThan).2.rows s.rows ∧
        (s.deleteOldMetrics execErr olderThan).2.rows.length +
          (s.deleteOldMetrics execErr olderThan).1.1 = s.rows.length ∧
        ((s.deleteOldMetrics execErr olderThan).1.2 = none →
          ∀ row ∈ (s.deleteOldMetrics execErr olderThan).2.rows, olderThan ≤ row.time)) ∧
    ∀ (rows₀ : List StoredMetric) (s : TimescaleDBStorage) (deleted : Nat),
      RetentionReachable rows₀ s deleted → Accounted rows₀ s deleted :=
  ⟨deleteOldMetrics_spec, fun _ _ _ h => h.accounted⟩

end TimescaleDBStorage

end RamUsb.Collector.Storage
