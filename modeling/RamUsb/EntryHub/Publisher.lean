import RamUsb.EntryHub.Aggregator

/-!
# What the Entry-Hub publishes

`publishMetrics` (`entry-hub/mqtt/publisher.go`) runs at start-up and then every two
minutes: it takes one `GetMetrics()` snapshot and publishes each metric, serialised with
`json.Marshal`, on the topic `metrics/entry-hub`. The collector decodes the payload back
into the same record, so a publication is modelled as the pair (topic, metric). Marshalling
cannot fail on these records (every value is a finite number), and whether the broker
acknowledges a message changes only the publisher's log line.

The aggregator's labels reach the collector's `validateMetric` unchanged. The labels of
registrations, validation failures and errors pass through sanitisers that map every input
to a fixed word; the path label of a request counter does not: `sanitizePath` only
collapses `/api/register` and `/api/health`, and returns every other path verbatim, so a
path holding an e-mail address is published as it is (`publishes_email_path_label`).
-/

namespace RamUsb.EntryHub

open Go Collector

/-- `"metrics/entry-hub"`, the one topic `publishMetrics` publishes on. -/
def metricsTopic : Str := lit "metrics/entry-hub"

/-- `publishMetrics()`: one message per metric of the snapshot, on the service's topic;
nothing when the client is absent or disconnected. -/
def publishMetrics (connected : Bool) (timestamp : Int) (agg : Aggregator) : List (Str × Metric) :=
  if connected then (getMetrics timestamp agg).map fun m => (metricsTopic, m) else []

/-- The request counter an entry under a key with three parts publishes. -/
theorem requestMetric_of_split {timestamp : Int} {key method path status : Str} (v : Int)
    (h : split key colon = [method, path, status]) :
    requestMetric timestamp (key, v) = some ⟨entryHub, timestamp, lit "requests_total", v,
      requestLabels method path status, metricTypeCounter⟩ := by
  simp only [requestMetric, h]

/-- A counted request appears in the next snapshot when its key splits into three parts. -/
theorem requestMetric_mem_getMetrics (timestamp : Int) (c : MetricsCollector)
    (method path : Str) (status : Int) (a b s : Str)
    (h : split (requestKey method (sanitizePath path) (statusClass status)) colon = [a, b, s]) :
    ∃ v : ℚ, ⟨entryHub, timestamp, lit "requests_total", v, requestLabels a b s,
      metricTypeCounter⟩ ∈ getMetrics timestamp (incrementRequest method path status (some c)) := by
  refine ⟨(((c.requestsTotal.get? (requestKey method (sanitizePath path)
    (statusClass status))).getD 0 + 1 : Int) : ℚ), ?_⟩
  simp only [getMetrics, incrementRequest, Option.map_some', List.mem_append]
  exact Or.inl (Or.inl (Or.inl (Or.inl (Or.inl (List.mem_filterMap.mpr
    ⟨_, GoMap.mem_entries_of_get? (GoMap.get?_incr_self _ _), requestMetric_of_split _ h⟩)))))

/-- **An e-mail address in a path reaches the broker.** After
`IncrementRequest("GET", "/verify/user@example.com", 200)` the next publication carries,
on `metrics/entry-hub`, a `requests_total` metric whose path label is that address, and the
collector's `validateMetric` rejects it as an e-mail address. -/
theorem publishes_email_path_label (timestamp : Int) (c : MetricsCollector) :
    ∃ m, (metricsTopic, m) ∈ publishMetrics true timestamp
        (incrementRequest (lit "GET") (lit "/verify/user@example.com") 200 (some c)) ∧
      m.labels.get? (lit "path") = some (lit "/verify/user@example.com") ∧
      validateMetric m = .error (lit "label value appears to contain email address") := by
  obtain ⟨v, hv⟩ := requestMetric_mem_getMetrics timestamp c (lit "GET")
    (lit "/verify/user@example.com") 200 (lit "GET") (lit "/verify/user@example.com") (lit "2xx")
    (by decide)
  refine ⟨_, List.mem_map_of_mem _ hv, rfl, ?_⟩
  exact (validateMetric_clock_value ⟨entryHub, 0, lit "requests_total", 0,
    requestLabels (lit "GET") (lit "/verify/user@example.com") (lit "2xx"), metricTypeCounter⟩
    timestamp v).trans rfl

end RamUsb.EntryHub
