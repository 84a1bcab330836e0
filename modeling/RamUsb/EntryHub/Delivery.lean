import RamUsb.EntryHub.Counters
import RamUsb.EntryHub.Publisher
import RamUsb.Collector.Subscriber

/-!
# What the collector keeps of the Entry-Hub's metrics

The Entry-Hub publishes each metric of a `GetMetrics()` snapshot on `metrics/entry-hub`
(`publishMetrics`), and the collector's `messageHandler` decides which of them reach
`storage.StoreMetric`. The two versions of the handler ask different things of a metric:
the live one (`V2`) only its topic, its service and its timestamp; the validating one (`V1`)
also `validateMetric`.

Every label a snapshot carries comes either from a fixed word (the quantiles, and the keys of
the three sanitised maps, by `counter_labels_bounded`'s invariant) or from the request line
(the method and the path of a request counter, and its status class). So what the validating
collector drops is decided by the request counters alone:

* `snapshot_admissible_iff`: over every run from `Initialize`, a snapshot metric is
  `Admissible` exactly when it is not a request counter whose method, path or status label
  `checkLabel` would refuse;
* `collector_keeps_entryHub_metrics`: so for every published metric whose payload decodes,
  the validating handler stores it exactly when its timestamp is in range and its request
  labels pass, and the live handler exactly when its timestamp is in range.
-/

namespace RamUsb.EntryHub

open Go Collector

/-- A label value `checkLabel` lets through: at most 256 bytes, and neither an e-mail address
nor an SSH key to its pattern tests. -/
def ValueAdmissible (value : Str) : Prop :=
  value.length ≤ maxLabelValueLength ∧ ¬ SensitiveValue value

/-- What `validateMetric` asks of a request counter's labels; nothing of other labels. -/
def RequestLabelsAdmissible (labels : Labels) : Prop :=
  ∀ method path status, labels = requestLabels method path status →
    ValueAdmissible method ∧ ValueAdmissible path ∧ ValueAdmissible status

/-! ### One lemma per kind of snapshot metric -/

/-- `validateMetric` decides on a metric with its clock and value cleared. -/
theorem admissible_iff_cleared (m : Metric) :
    Admissible m ↔ validateMetric { m with timestamp := 0, value := 0 } = .ok () := by
  rw [validateMetric_clock_value, validateMetric_eq_ok_iff]

/-- A request counter is admissible exactly when its three label values are. -/
theorem admissible_requestMetric (timestamp : Int) (value : ℚ) (method path status : Str) :
    Admissible ⟨entryHub, timestamp, lit "requests_total", value,
        requestLabels method path status, metricTypeCounter⟩ ↔
      ValueAdmissible method ∧ ValueAdmissible path ∧ ValueAdmissible status := by
  have hentries : (requestLabels method path status).entries =
      [(lit "method", method), (lit "path", path), (lit "status", status)] := rfl
  have hkeys : ∀ key ∈ [lit "method", lit "path", lit "status"], ¬ ForbiddenKey key := by
    unfold ForbiddenKey; decide
  constructor
  · intro h
    have hl := h.value_length
    have hs := h.no_sensitive_value
    simp only [hentries, List.mem_cons, List.mem_singleton, List.not_mem_nil, or_false,
      forall_eq_or_imp, forall_eq] at hl hs
    exact ⟨⟨hl.1, hs.1⟩, ⟨hl.2.1, hs.2.1⟩, ⟨hl.2.2, hs.2.2⟩⟩
  · rintro ⟨⟨hm, hm'⟩, ⟨hp, hp'⟩, ⟨hs, hs'⟩⟩
    refine ⟨by dsimp only; decide, fun key hk => hkeys key hk,
      by simp [GoMap.size, hentries, maxLabelsPerMetric], ?_, ?_, ?_, by dsimp only; decide⟩ <;>
      simp only [hentries, List.mem_cons, List.mem_singleton, List.not_mem_nil, or_false,
        forall_eq_or_imp, forall_eq]
    · decide
    · exact ⟨hm, hp, hs⟩
    · exact ⟨hm', hp', hs'⟩

theorem requestLabelsAdmissible_requestLabels (method path status : Str) :
    RequestLabelsAdmissible (requestLabels method path status) ↔
      ValueAdmissible method ∧ ValueAdmissible path ∧ ValueAdmissible status := by
  constructor
  · exact fun h => h method path status rfl
  · intro h a b c habc
    obtain ⟨rfl, rfl, rfl⟩ := requestLabels_inj.mp habc
    exact h

/-- A map of at most one entry is no request counter's labels. -/
theorem requestLabelsAdmissible_of_length {labels : Labels} (h : labels.entries.length ≤ 1) :
    RequestLabelsAdmissible labels := fun method path status hl => by
  simp [hl, requestLabels] at h

theorem admissible_durationMetric (timestamp : Int) (values : List ℚ) (percentile : Nat)
    {quantile : Str} (hq : quantile ∈ [lit "0.5", lit "0.95", lit "0.99"]) :
    Admissible (durationMetric timestamp values percentile quantile) := by
  rw [admissible_iff_cleared]
  simp only [List.mem_cons, List.mem_singleton, List.not_mem_nil, or_false] at hq
  rcases hq with rfl | rfl | rfl <;> rfl

theorem admissible_connectionsMetric (timestamp active : Int) :
    Admissible (connectionsMetric timestamp active) := by
  rw [admissible_iff_cleared]; rfl

/-- The counters of the three sanitised maps are admissible for every key their maps can
hold. -/
theorem admissible_counterMetric (timestamp : Int) (n : Int) {name labelKey value : Str}
    (h : (name = lit "registrations_total" ∧ labelKey = lit "result" ∧ value ∈ registrationLabels) ∨
      (name = lit "validation_failures_total" ∧ labelKey = lit "reason" ∧ value ∈ failureLabels) ∨
      (name = lit "errors_total" ∧ labelKey = lit "type" ∧ value ∈ errorLabels)) :
    Admissible (counterMetric timestamp name labelKey (value, n)) := by
  rw [admissible_iff_cleared]
  rcases h with ⟨rfl, rfl, hv⟩ | ⟨rfl, rfl, hv⟩ | ⟨rfl, rfl, hv⟩ <;>
    simp only [registrationLabels, failureLabels, errorLabels, List.mem_cons, List.mem_singleton,
      List.not_mem_nil, or_false] at hv
  · rcases hv with rfl | rfl <;> rfl
  · rcases hv with rfl | rfl | rfl | rfl <;> rfl
  · rcases hv with rfl | rfl | rfl | rfl | rfl <;> rfl

/-! ### Snapshots -/

/-- **What `validateMetric` keeps of a snapshot.** Over every run of operations from
`Initialize`, every metric of a snapshot belongs to the Entry-Hub, and it is admissible
exactly when it is not a request counter with a method, path or status label that
`checkLabel` refuses: the quantile gauges, the connection gauge and the counters of the
three sanitised maps always pass. -/
theorem snapshot_admissible_iff (ops : List Op) (timestamp : Int) :
    ∃ c, run (init none) ops = some c ∧ ∀ m ∈ getMetrics timestamp (some c),
      m.service = entryHub ∧ (Admissible m ↔ RequestLabelsAdmissible m.labels) := by
  obtain ⟨c, hc⟩ := run_some ops .empty
  have hkey (m : CounterMap) (labels : List Str)
      (hl : ∀ key ∈ countedSinceReset m ops, key ∈ labels) :
      ∀ kv ∈ (m.get c).entries, kv.1 ∈ labels := fun kv hkv =>
    hl _ ((counts_of_run_init hc m).mem_keys (List.mem_map_of_mem Prod.fst hkv))
  have hcounter (name labelKey value : Str) (n : Int)
      (h : Admissible (counterMetric timestamp name labelKey (value, n))) :
      (counterMetric timestamp name labelKey (value, n)).service = entryHub ∧
        (Admissible (counterMetric timestamp name labelKey (value, n)) ↔
          RequestLabelsAdmissible (counterMetric timestamp name labelKey (value, n)).labels) :=
    ⟨rfl, iff_of_true h (requestLabelsAdmissible_of_length (le_refl 1))⟩
  refine ⟨c, hc, fun m hm => ?_⟩
  simp only [getMetrics, List.mem_append, List.mem_filterMap, List.mem_map,
    List.mem_singleton] at hm
  rcases hm with ((((⟨kv, -, hreq⟩ | hd) | ⟨kv, hkv, rfl⟩) | ⟨kv, hkv, rfl⟩) | rfl) | ⟨kv, hkv, rfl⟩
  · -- a request counter
    obtain ⟨method, path, status, -, rfl⟩ := requestMetric_eq_some hreq
    exact ⟨rfl, (admissible_requestMetric _ _ _ _ _).trans
      (requestLabelsAdmissible_requestLabels _ _ _).symm⟩
  · -- a quantile gauge
    split at hd
    · simp only [List.mem_cons, List.mem_singleton, List.not_mem_nil, or_false] at hd
      rcases hd with rfl | rfl | rfl <;>
        exact ⟨rfl, iff_of_true (admissible_durationMetric _ _ _ (by simp))
          (requestLabelsAdmissible_of_length (le_refl 1))⟩
    · cases hd
  · exact hcounter _ _ _ _ (admissible_counterMetric _ _
      (.inl ⟨rfl, rfl, hkey .registrations _ (registrations_counted_mem ops) kv hkv⟩))
  · exact hcounter _ _ _ _ (admissible_counterMetric _ _
      (.inr (.inl ⟨rfl, rfl, hkey .failures _ (failures_counted_mem ops) kv hkv⟩)))
  · exact ⟨rfl, iff_of_true (admissible_connectionsMetric _ _)
      (requestLabelsAdmissible_of_length (Nat.zero_le 1))⟩
  · exact hcounter _ _ _ _ (admissible_counterMetric _ _
      (.inr (.inr ⟨rfl, rfl, hkey .errors _ (errors_counted_mem ops) kv hkv⟩)))

/-- **What the collector keeps of the Entry-Hub's metrics.** Over every run of operations
from `Initialize`, for every metric the publisher sends with the next snapshot and every
payload that decodes to it: the validating `messageHandler` calls `StoreMetric` with it
exactly when its timestamp is in range and, if it is a request counter, its method, path and
status labels pass `checkLabel`; the live `messageHandler` does so exactly when its
timestamp is in range. -/
theorem collector_keeps_entryHub_metrics (ops : List Op) (timestamp : Int) :
    ∃ c, run (init none) ops = some c ∧
      ∀ topic m, (topic, m) ∈ publishMetrics true timestamp (some c) →
        ∀ (env : Env) (payload : Str), env.unmarshal payload = .ok m →
          (.storeMetric m ∈ V1.messageHandler env ⟨topic, payload⟩ ↔
              timestampOk env.now m ∧ RequestLabelsAdmissible m.labels) ∧
            (.storeMetric m ∈ V2.messageHandler env ⟨topic, payload⟩ ↔ timestampOk env.now m) := by
  obtain ⟨c, hc, hsnap⟩ := snapshot_admissible_iff ops timestamp
  refine ⟨c, hc, fun topic m hpub env payload hdec => ?_⟩
  obtain ⟨hm, rfl⟩ : m ∈ getMetrics timestamp (some c) ∧ metricsTopic = topic := by
    simpa [publishMetrics] using hpub
  obtain ⟨hservice, hadm⟩ := hsnap m hm
  have htopic : split metricsTopic slash = [lit "metrics", m.service] := by
    rw [hservice]; decide
  rw [V1.storeMetric_mem_iff, V2.storeMetric_mem_iff, hadm]
  simp [htopic, hdec, and_comm]

end RamUsb.EntryHub
