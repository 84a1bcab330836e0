import RamUsb.EntryHub.Aggregator
import Mathlib.Data.List.Sort
import Mathlib.Algebra.Order.Ring.Unbundled.Rat

/-!
# Latency quantiles

`GetMetrics` exports three `request_duration_milliseconds` gauges, for the quantiles `0.5`,
`0.95` and `0.99` of the current sample of request durations (`durationValues_getMetrics`),
each computed by `calculatePercentile`. The spec and the project's documentation describe
them as order statistics: sort the sample and take the element at `⌊N·q⌋`
(`orderStatistic`), which orders them `p50 ≤ p95 ≤ p99` for every sample
(`orderStatistic_mono`).

`calculatePercentile` takes that index of the slice as it is. It agrees with the order
statistic on every sample recorded in non-decreasing order (`durationValues_of_sorted`), and
not on the others: on the sample `[3, 2, 1]` the exported `p50` is `2` and `p99` is `1`
(`getMetrics_quantiles_unsorted`).
-/

namespace RamUsb.EntryHub

open Go Collector

/-- The values of the `request_duration_milliseconds` gauges of a snapshot, in order. -/
def durationValues (ms : List Metric) : List ℚ :=
  (ms.filter fun m => m.name = lit "request_duration_milliseconds").map Metric.value

/-- The quantile the spec describes: the element at `min(⌊N·p/100⌋, N-1)` of the sample
sorted in non-decreasing order. -/
def orderStatistic (values : List ℚ) (percentile : Nat) : ℚ :=
  (values.insertionSort (· ≤ ·)).getD (min (values.length * percentile / 100) (values.length - 1)) 0

/-- The three quantile gauges of a snapshot: `calculatePercentile` at 50, 95 and 99 of the
sample, when there is one. -/
theorem durationValues_getMetrics (timestamp : Int) (c : MetricsCollector) :
    durationValues (getMetrics timestamp (some c)) =
      if 0 < c.requestDurations.length then
        [calculatePercentile c.requestDurations 50, calculatePercentile c.requestDurations 95,
          calculatePercentile c.requestDurations 99]
      else [] := by
  have hreq : (c.requestsTotal.entries.filterMap (requestMetric timestamp)).filter
      (fun m => m.name = lit "request_duration_milliseconds") = [] := by
    refine List.filter_eq_nil_iff.mpr fun m hm => ?_
    obtain ⟨kv, -, hkv⟩ := List.mem_filterMap.mp hm
    obtain ⟨a, b, s, -, rfl⟩ := requestMetric_eq_some hkv
    simpa using (by decide : lit "requests_total" ≠ lit "request_duration_milliseconds")
  have h1 : lit "registrations_total" ≠ lit "request_duration_milliseconds" := by decide
  have h2 : lit "validation_failures_total" ≠ lit "request_duration_milliseconds" := by decide
  have h3 : lit "connections_active" ≠ lit "request_duration_milliseconds" := by decide
  have h4 : lit "errors_total" ≠ lit "request_duration_milliseconds" := by decide
  simp only [durationValues, getMetrics, List.filter_append, hreq]
  split <;> simp [durationMetric, connectionsMetric, counterMetric, List.filter_map,
    Function.comp_def, h1, h2, h3, h4]

/-! ### Order statistics -/

theorem getD_le_getD_of_sorted {l : List ℚ} (hl : l.Sorted (· ≤ ·)) {i j : Nat} (hij : i ≤ j)
    (hj : j < l.length) : l.getD i 0 ≤ l.getD j 0 := by
  have hi : i < l.length := by omega
  have := hl.rel_get_of_le (a := ⟨i, hi⟩) (b := ⟨j, hj⟩) hij
  simpa [List.getD_eq_getElem?_getD, hi, hj] using this

/-- The index `calculatePercentile` reads grows with the percentile. -/
theorem percentileIndex_mono (n : Nat) {p q : Nat} (hpq : p ≤ q) :
    min (n * p / 100) (n - 1) ≤ min (n * q / 100) (n - 1) :=
  min_le_min_right _ (Nat.div_le_div_right (Nat.mul_le_mul_left n hpq))

/-- **The spec's quantiles are ordered.** For every non-empty sample the order statistic
grows with the percentile. -/
theorem orderStatistic_mono (values : List ℚ) (hne : values ≠ []) {p q : Nat} (hpq : p ≤ q) :
    orderStatistic values p ≤ orderStatistic values q := by
  have hpos : 0 < values.length := List.length_pos.mpr hne
  have hlen := List.length_insertionSort (· ≤ ·) values
  apply getD_le_getD_of_sorted (List.sorted_insertionSort _ _) (percentileIndex_mono _ hpq)
  omega

/-- On a sample in non-decreasing order `calculatePercentile` is the order statistic. -/
theorem calculatePercentile_of_sorted {values : List ℚ} (hs : values.Sorted (· ≤ ·))
    (percentile : Nat) : calculatePercentile values percentile = orderStatistic values percentile := by
  rw [orderStatistic, hs.insertionSort_eq, calculatePercentile]
  split
  · subst values; rfl
  · rfl

/-- **Quantiles of a sorted sample.** When the durations were recorded in non-decreasing
order, the three gauges of the snapshot are the order statistics at 50, 95 and 99, in
non-decreasing order. -/
theorem durationValues_of_sorted (timestamp : Int) (c : MetricsCollector)
    (hne : c.requestDurations ≠ []) (hs : c.requestDurations.Sorted (· ≤ ·)) :
    durationValues (getMetrics timestamp (some c)) =
        [orderStatistic c.requestDurations 50, orderStatistic c.requestDurations 95,
          orderStatistic c.requestDurations 99] ∧
      orderStatistic c.requestDurations 50 ≤ orderStatistic c.requestDurations 95 ∧
      orderStatistic c.requestDurations 95 ≤ orderStatistic c.requestDurations 99 := by
  refine ⟨?_, orderStatistic_mono _ hne (by decide), orderStatistic_mono _ hne (by decide)⟩
  rw [durationValues_getMetrics, if_pos (List.length_pos.mpr hne)]
  simp only [calculatePercentile_of_sorted hs]

/-- **Quantiles of an unsorted sample.** With the durations `[3, 2, 1]`, whatever the rest of
the collector holds, the snapshot exports `p50 = 2`, `p95 = 1` and `p99 = 1`, where the order
statistics are `2`, `3` and `3`. -/
theorem getMetrics_quantiles_unsorted (timestamp : Int) (c : MetricsCollector) :
    durationValues (getMetrics timestamp (some { c with requestDurations := [3, 2, 1] })) =
        [2, 1, 1] ∧
      [orderStatistic [3, 2, 1] 50, orderStatistic [3, 2, 1] 95, orderStatistic [3, 2, 1] 99] =
        [2, 3, 3] := by
  rw [durationValues_getMetrics]
  dsimp only
  decide

/-- Three durations recorded in non-decreasing order. -/
def ascendingDurations : MetricsCollector :=
  { MetricsCollector.empty with requestDurations := [12, 40, 95] }

theorem durationValues_of_sorted_ascending :
    ascendingDurations.requestDurations ≠ [] ∧ ascendingDurations.requestDurations.Sorted (· ≤ ·) ∧
      durationValues (getMetrics 0 (some ascendingDurations)) =
          [orderStatistic ascendingDurations.requestDurations 50,
            orderStatistic ascendingDurations.requestDurations 95,
            orderStatistic ascendingDurations.requestDurations 99] ∧
        orderStatistic ascendingDurations.requestDurations 50 ≤
          orderStatistic ascendingDurations.requestDurations 95 ∧
        orderStatistic ascendingDurations.requestDurations 95 ≤
          orderStatistic ascendingDurations.requestDurations 99 :=
  have hne : ascendingDurations.requestDurations ≠ [] := List.cons_ne_nil _ _
  have hs : ascendingDurations.requestDurations.Sorted (· ≤ ·) := by decide
  ⟨hne, hs, durationValues_of_sorted 0 ascendingDurations hne hs⟩

end RamUsb.EntryHub
