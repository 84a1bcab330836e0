import RamUsb.Collector.Validate
import Mathlib.Data.Rat.Defs

/-!
# The Entry-Hub metrics aggregator

The Entry-Hub keeps its operational metrics in one package-level `MetricsCollector`
(`unnamed/part_003`): request counters under a composite key, a bounded list of request
durations, registration, validation-failure and error counters, and a gauge of active
connections. The HTTP middleware calls `IncrementRequest(r.Method, r.URL.Path, status)` and
`RecordRequestDuration` after every request; the handlers call the other counters; the
publisher reads a snapshot with `GetMetrics` every two minutes.

The collector is `Aggregator := Option MetricsCollector`, `none` before `Initialize`; every
operation starts with `if collector == nil { return }`, which is `Option.map`.

`IncrementRequest` stores its three labels in one map key, `method:path:statusClass`, and
`GetMetrics` recovers them with `strings.Split(key, ":")`, dropping every key that does
not split into exactly three parts. The round trip holds when neither the method nor the
sanitised path holds a `:` (`requestValues_incrementRequest`); otherwise the counter is
counted and never published (`incrementRequest_colon_path_dropped`). `colon_not_mem_path_label`
is the reason: no path label of a snapshot can hold a `:`.

Counters are `int64`, here `Int`: they wrap only after `2^63` increments. Durations are
`float64` milliseconds, here exact rationals, and `calculatePercentile` truncates
`len * p / 100` as `Nat` division does, which `int(float64(len) * p / 100)` equals for every
slice shorter than `2^46`. The fields `mtlsConnections` and `lastResetTime` are written and
never read, and are left out.
-/

namespace RamUsb.EntryHub

open Go Collector

/-- The fields of `MetricsCollector` that its operations write and `GetMetrics` reads. -/
structure MetricsCollector where
  requestsTotal : GoMap Int
  requestDurations : List ℚ
  registrationsTotal : GoMap Int
  validationFailures : GoMap Int
  activeConnections : Int
  errorsTotal : GoMap Int

/-- The package variable `collector`, `nil` until `Initialize` runs. -/
abbrev Aggregator := Option MetricsCollector

/-- The collector `Initialize` builds: empty maps and no durations. -/
def MetricsCollector.empty : MetricsCollector := ⟨.empty, [], .empty, .empty, 0, .empty⟩

/-- `Initialize()`: `once.Do` builds the collector on the first call only. -/
def init : Aggregator → Aggregator
  | none => some .empty
  | some c => some c

/-! ### Label sanitisers -/

/-- `sanitizePath(path)`: API paths that mention `/register` or `/health` collapse to one
label; every other path is returned as it is. -/
def sanitizePath (path : Str) : Str :=
  if hasPrefix path (lit "/api/") then
    if contains path (lit "/register") then lit "/api/register"
    else if contains path (lit "/health") then lit "/api/health"
    else path
  else path

/-- `sanitizeFailureReason(reason)`. -/
def sanitizeFailureReason (reason : Str) : Str :=
  if contains reason (lit "email") then lit "invalid_email"
  else if contains reason (lit "password") then lit "invalid_password"
  else if contains reason (lit "ssh") then lit "invalid_ssh_key"
  else lit "validation_error"

/-- `sanitizeErrorType(errorType)`. -/
def sanitizeErrorType (errorType : Str) : Str :=
  if contains errorType (lit "timeout") then lit "timeout"
  else if contains errorType (lit "connection") then lit "connection"
  else if contains errorType (lit "tls") then lit "tls"
  else if contains errorType (lit "certificate") then lit "certificate"
  else lit "internal"

/-- `fmt.Sprintf("%dxx", status/100)`; Go's integer division truncates toward zero. -/
def statusClass (status : Int) : Str := itoa (status.tdiv 100) ++ lit "xx"

/-- `fmt.Sprintf("%s:%s:%s", method, sanitizedPath, statusClass)`. -/
def requestKey (method path status : Str) : Str := method ++ [colon] ++ path ++ [colon] ++ status

/-! ### Operations -/

/-- `IncrementRequest(method, path, status)`. -/
def incrementRequest (method path : Str) (status : Int) : Aggregator → Aggregator :=
  Option.map fun c => { c with
    requestsTotal := c.requestsTotal.incr (requestKey method (sanitizePath path) (statusClass status)) }

/-- `RecordRequestDuration(durationMs)`: a full histogram drops its oldest 5000 entries. -/
def recordRequestDuration (durationMs : ℚ) : Aggregator → Aggregator :=
  Option.map fun c =>
    let kept := if 10000 ≤ c.requestDurations.length then c.requestDurations.drop 5000
      else c.requestDurations
    { c with requestDurations := kept ++ [durationMs] }

/-- `IncrementRegistration(success)`. -/
def incrementRegistration (success : Bool) : Aggregator → Aggregator :=
  Option.map fun c => { c with
    registrationsTotal := c.registrationsTotal.incr (if success then lit "success" else lit "failed") }

/-- `IncrementValidationFailure(reason)`. -/
def incrementValidationFailure (reason : Str) : Aggregator → Aggregator :=
  Option.map fun c => { c with
    validationFailures := c.validationFailures.incr (sanitizeFailureReason reason) }

/-- `UpdateActiveConnections(delta)`: the gauge is clamped at zero. -/
def updateActiveConnections (delta : Int) : Aggregator → Aggregator :=
  Option.map fun c =>
    let n := c.activeConnections + delta
    { c with activeConnections := if n < 0 then 0 else n }

/-- `IncrementError(errorType)`. -/
def incrementError (errorType : Str) : Aggregator → Aggregator :=
  Option.map fun c => { c with errorsTotal := c.errorsTotal.incr (sanitizeErrorType errorType) }

/-- `Reset()`. -/
def reset : Aggregator → Aggregator := Option.map fun _ => .empty

/-! ### The snapshot -/

/-- `"entry-hub"`, the `Service` of every metric the Entry-Hub builds. -/
def entryHub : Str := lit "entry-hub"

/-- The label literal `{"method": .., "path": .., "status": ..}` of a request counter. -/
def requestLabels (method path status : Str) : Labels :=
  ⟨[(lit "method", method), (lit "path", path), (lit "status", status)], by
    simp only [List.map_cons, List.map_nil]; decide⟩

/-- The `requests_total` metric of one `requestsTotal` entry, when its key splits into three
parts. -/
def requestMetric (timestamp : Int) (kv : Str × Int) : Option Metric :=
  match split kv.1 colon with
  | [method, path, status] =>
    some ⟨entryHub, timestamp, lit "requests_total", kv.2, requestLabels method path status,
      metricTypeCounter⟩
  | _ => none

/-- `calculatePercentile(values, percentile)`: the element at `len * p / 100`, capped at the
last index, of the unsorted slice. -/
def calculatePercentile (values : List ℚ) (percentile : Nat) : ℚ :=
  if values = [] then 0
  else values.getD (min (values.length * percentile / 100) (values.length - 1)) 0

/-- One of the three `request_duration_milliseconds` gauges. -/
def durationMetric (timestamp : Int) (values : List ℚ) (percentile : Nat) (quantile : Str) :
    Metric :=
  ⟨entryHub, timestamp, lit "request_duration_milliseconds",
    calculatePercentile values percentile, .single (lit "quantile") quantile, metricTypeGauge⟩

/-- The counter metric of one entry of a map keyed by a single label: registrations under
`result`, validation failures under `reason`, errors under `type`. -/
def counterMetric (timestamp : Int) (name labelKey : Str) (kv : Str × Int) : Metric :=
  ⟨entryHub, timestamp, name, kv.2, .single labelKey kv.1, metricTypeCounter⟩

/-- The gauge of active connections. -/
def connectionsMetric (timestamp : Int) (active : Int) : Metric :=
  ⟨entryHub, timestamp, lit "connections_active", active, .empty, metricTypeGauge⟩

/-- `GetMetrics()` at the clock reading `timestamp`, in the order it appends. -/
def getMetrics (timestamp : Int) : Aggregator → List Metric
  | none => []
  | some c =>
    c.requestsTotal.entries.filterMap (requestMetric timestamp) ++
    (if 0 < c.requestDurations.length then
      [durationMetric timestamp c.requestDurations 50 (lit "0.5"),
        durationMetric timestamp c.requestDurations 95 (lit "0.95"),
        durationMetric timestamp c.requestDurations 99 (lit "0.99")]
    else []) ++
    c.registrationsTotal.entries.map (counterMetric timestamp (lit "registrations_total") (lit "result")) ++
    c.validationFailures.entries.map
      (counterMetric timestamp (lit "validation_failures_total") (lit "reason")) ++
    [connectionsMetric timestamp c.activeConnections] ++
    c.errorsTotal.entries.map (counterMetric timestamp (lit "errors_total") (lit "type"))

/-- Every metric of a snapshot is a request counter built from an entry, or one of the
metrics whose labels are a single fixed key or none. -/
theorem mem_getMetrics {timestamp : Int} {c : MetricsCollector} {m : Metric}
    (hm : m ∈ getMetrics timestamp (some c)) :
    (∃ kv ∈ c.requestsTotal.entries, requestMetric timestamp kv = some m) ∨
      (∃ p q, m = durationMetric timestamp c.requestDurations p q) ∨
      (∃ name key kv, key ∈ [lit "result", lit "reason", lit "type"] ∧
        m = counterMetric timestamp name key kv) ∨
      m = connectionsMetric timestamp c.activeConnections := by
  simp only [getMetrics, List.mem_append, List.mem_filterMap, List.mem_map,
    List.mem_singleton] at hm
  rcases hm with ((((hr | hd) | hreg) | hval) | hconn) | herr
  · exact Or.inl hr
  · refine Or.inr (Or.inl ?_)
    split at hd
    · simp only [List.mem_cons, List.mem_singleton, List.not_mem_nil, or_false] at hd
      rcases hd with rfl | rfl | rfl <;> exact ⟨_, _, rfl⟩
    · cases hd
  · obtain ⟨kv, -, rfl⟩ := hreg; exact Or.inr (Or.inr (Or.inl ⟨_, _, kv, by simp, rfl⟩))
  · obtain ⟨kv, -, rfl⟩ := hval; exact Or.inr (Or.inr (Or.inl ⟨_, _, kv, by simp, rfl⟩))
  · exact Or.inr (Or.inr (Or.inr hconn))
  · obtain ⟨kv, -, rfl⟩ := herr; exact Or.inr (Or.inr (Or.inl ⟨_, _, kv, by simp, rfl⟩))

/-! ### The composite key -/

theorem requestMetric_eq_some {timestamp : Int} {kv : Str × Int} {m : Metric}
    (h : requestMetric timestamp kv = some m) :
    ∃ method path status, split kv.1 colon = [method, path, status] ∧
      m = ⟨entryHub, timestamp, lit "requests_total", kv.2, requestLabels method path status,
        metricTypeCounter⟩ := by
  unfold requestMetric at h
  split at h
  · cases h; exact ⟨_, _, _, ‹_›, rfl⟩
  · cases h

@[simp] theorem get?_path_requestLabels (method path status : Str) :
    (requestLabels method path status).get? (lit "path") = some path := rfl

theorem requestLabels_inj {a b c a' b' c' : Str} :
    requestLabels a b c = requestLabels a' b' c' ↔ a = a' ∧ b = b' ∧ c = c' := by
  simp [requestLabels, GoMap.mk.injEq]

theorem requestKey_eq_intercalate (method path status : Str) :
    requestKey method path status = [colon].intercalate [method, path, status] := by
  simp [requestKey, List.intercalate]

/-- **Key round trip.** A key splits back into the three components it was built from
exactly when it is their composite key, for components that hold no `:`. -/
theorem split_eq_iff_requestKey (key method path status : Str) (hm : colon ∉ method)
    (hp : colon ∉ path) (hs : colon ∉ status) :
    split key colon = [method, path, status] ↔ key = requestKey method path status := by
  have hx : ∀ l ∈ [method, path, status], colon ∉ l := by simp [hm, hp, hs]
  constructor
  · intro h
    rw [requestKey_eq_intercalate, ← h]
    exact (List.intercalate_splitOn key colon).symm
  · rintro rfl
    rw [requestKey_eq_intercalate]
    exact split_intercalate colon _ hx (List.cons_ne_nil _ _)

example : split (requestKey (lit "GET") (lit "/files:list") (statusClass 200)) colon =
    [lit "GET", lit "/files", lit "list", lit "2xx"] := by decide

/-- No path label of a snapshot holds a `:`: a request counter's path is a piece of
`strings.Split(key, ":")`, and no other metric has a `path` label. -/
theorem colon_not_mem_path_label (timestamp : Int) (agg : Aggregator) :
    ∀ m ∈ getMetrics timestamp agg, ∀ p, m.labels.get? (lit "path") = some p → colon ∉ p := by
  intro m hm p hp
  cases agg with
  | none => cases hm
  | some c =>
    rcases mem_getMetrics hm with ⟨kv, -, hkv⟩ | ⟨q, l, rfl⟩ | ⟨name, key, kv, hkey, rfl⟩ | rfl
    · obtain ⟨a, b, s, hs, rfl⟩ := requestMetric_eq_some hkv
      obtain rfl : b = p := Option.some.inj hp
      exact not_mem_of_mem_split (by rw [hs]; simp)
    · rw [durationMetric, GoMap.get?_single, if_neg (by decide)] at hp
      cases hp
    · simp only [List.mem_cons, List.mem_singleton, List.not_mem_nil, or_false] at hkey
      rw [counterMetric, GoMap.get?_single, if_neg (by rcases hkey with rfl | rfl | rfl <;> decide)] at hp
      cases hp
    · cases hp

/-! ### Request counters survive a colon-free key -/

/-- The values of the `requests_total` metrics of a snapshot that carry the given labels. -/
def requestValues (labels : Labels) (ms : List Metric) : List ℚ :=
  (ms.filter fun m => m.name = lit "requests_total" ∧ m.labels = labels).map Metric.value

/-- A snapshot is its request counters followed by metrics of other names. -/
theorem getMetrics_some (timestamp : Int) (c : MetricsCollector) :
    ∃ rest, getMetrics timestamp (some c) =
      c.requestsTotal.entries.filterMap (requestMetric timestamp) ++ rest ∧
      ∀ m ∈ rest, m.name ≠ lit "requests_total" := by
  refine ⟨_, by simp only [getMetrics, List.append_assoc]; rfl, fun m hm => ?_⟩
  simp only [List.mem_append, List.mem_map, List.mem_singleton] at hm
  rcases hm with hd | ⟨kv, -, rfl⟩ | ⟨kv, -, rfl⟩ | rfl | ⟨kv, -, rfl⟩
  · split at hd
    · simp only [List.mem_cons, List.mem_singleton, List.not_mem_nil, or_false] at hd
      rcases hd with rfl | rfl | rfl <;>
        exact (by decide : lit "request_duration_milliseconds" ≠ lit "requests_total")
    · cases hd
  · exact (by decide : lit "registrations_total" ≠ lit "requests_total")
  · exact (by decide : lit "validation_failures_total" ≠ lit "requests_total")
  · exact (by decide : lit "connections_active" ≠ lit "requests_total")
  · exact (by decide : lit "errors_total" ≠ lit "requests_total")

/-- Among the request counters, the selected ones are those of the entry under the
composite key of the labels. -/
theorem requestValues_filterMap (timestamp : Int) (l : List (Str × Int)) (method path status : Str)
    (hm : colon ∉ method) (hp : colon ∉ path) (hs : colon ∉ status) :
    requestValues (requestLabels method path status) (l.filterMap (requestMetric timestamp)) =
      ((l.filter fun kv => kv.1 = requestKey method path status).map Prod.snd).map Int.cast := by
  induction l with
  | nil => rfl
  | cons kv l ih =>
    have hiff := split_eq_iff_requestKey kv.1 method path status hm hp hs
    rcases h : requestMetric timestamp kv with _ | m
    · have hne : ¬ kv.1 = requestKey method path status := fun hk => by
        unfold requestMetric at h
        rw [hiff.mpr hk] at h
        cases h
      simpa [List.filterMap_cons, h, hne] using ih
    · obtain ⟨a, b, s, hsplit, rfl⟩ := requestMetric_eq_some h
      have hsel : requestLabels a b s = requestLabels method path status ↔
          kv.1 = requestKey method path status := by
        rw [← hiff, hsplit, requestLabels_inj]; simp
      by_cases hk : kv.1 = requestKey method path status <;>
        simp_all [requestValues, List.filterMap_cons]

theorem colon_not_mem_statusClass (status : Int) : colon ∉ statusClass status := by
  rw [statusClass, List.mem_append, not_or]
  exact ⟨colon_not_mem_itoa _, by decide⟩

/-- The request counter of colon-free labels in a snapshot is the entry under their key. -/
theorem requestValues_getMetrics (timestamp : Int) (c : MetricsCollector) (method path status : Str)
    (hm : colon ∉ method) (hp : colon ∉ path) (hs : colon ∉ status) :
    requestValues (requestLabels method path status) (getMetrics timestamp (some c)) =
      ((c.requestsTotal.get? (requestKey method path status)).map Int.cast).toList := by
  obtain ⟨rest, hsnap, hrest⟩ := getMetrics_some timestamp c
  have hnil : rest.filter (fun m => m.name = lit "requests_total" ∧
      m.labels = requestLabels method path status) = [] :=
    List.filter_eq_nil_iff.mpr fun m hm' h => hrest m hm' (of_decide_eq_true h).1
  have hsel := requestValues_filterMap timestamp c.requestsTotal.entries method path status hm hp hs
  rw [hsnap, requestValues, List.filter_append, hnil, List.append_nil, ← requestValues, hsel,
    GoMap.filter_key_eq]
  cases c.requestsTotal.get? (requestKey method path status) <;> rfl

/-- **A `:` in the path loses the request.** `IncrementRequest("GET", "/files:list", 200)`
counts the request under the key `GET:/files:list:2xx`, which splits into four parts, so
the next snapshot has no `requests_total` metric under the labels of the request at all. -/
theorem incrementRequest_colon_path_dropped (timestamp : Int) (c : MetricsCollector) :
    requestValues (requestLabels (lit "GET") (sanitizePath (lit "/files:list")) (statusClass 200))
      (getMetrics timestamp (incrementRequest (lit "GET") (lit "/files:list") 200 (some c))) = [] := by
  rw [requestValues, List.map_eq_nil_iff, List.filter_eq_nil_iff]
  intro m hm hsel
  have hpath : m.labels.get? (lit "path") = some (sanitizePath (lit "/files:list")) := by
    rw [(of_decide_eq_true hsel).2]; rfl
  exact colon_not_mem_path_label _ _ m hm _ hpath (by decide)

/-- **Request counters survive the key encoding.** When neither the method nor the
sanitised path holds a `:`, the snapshot after `IncrementRequest(method, path, status)` has
exactly one `requests_total` metric under the labels `{method, sanitizePath(path),
status/100 "xx"}`, and its value is one more than under the same labels in the snapshot
just before, where there is at most one (none counting as 0). -/
theorem requestValues_incrementRequest (t t' : Int) (c : MetricsCollector) (method path : Str)
    (status : Int) (hm : colon ∉ method) (hp : colon ∉ sanitizePath path) :
    let labels := requestLabels method (sanitizePath path) (statusClass status)
    (requestValues labels (getMetrics t (some c))).length ≤ 1 ∧
      requestValues labels (getMetrics t' (incrementRequest method path status (some c))) =
        [(requestValues labels (getMetrics t (some c))).headD 0 + 1] := by
  intro labels
  have hs := colon_not_mem_statusClass status
  simp only [labels, incrementRequest, Option.map_some',
    requestValues_getMetrics _ _ _ _ _ hm hp hs, GoMap.get?_incr_self]
  cases c.requestsTotal.get? (requestKey method (sanitizePath path) (statusClass status)) <;>
    simp [Rat.intCast_one]

/-- A collector that has counted four `POST /api/register` requests answered `2xx`. -/
def registerCounted : MetricsCollector :=
  { MetricsCollector.empty with
    requestsTotal := .single (requestKey (lit "POST") (lit "/api/register") (lit "2xx")) 4 }

theorem requestValues_incrementRequest_register :
    colon ∉ lit "POST" ∧ colon ∉ sanitizePath (lit "/api/register") ∧
      (requestValues
        (requestLabels (lit "POST") (sanitizePath (lit "/api/register")) (statusClass 201))
        (getMetrics 0 (some registerCounted))).length ≤ 1 ∧
      requestValues
          (requestLabels (lit "POST") (sanitizePath (lit "/api/register")) (statusClass 201))
          (getMetrics 60
            (incrementRequest (lit "POST") (lit "/api/register") 201 (some registerCounted))) =
        [(requestValues
          (requestLabels (lit "POST") (sanitizePath (lit "/api/register")) (statusClass 201))
          (getMetrics 0 (some registerCounted))).headD 0 + 1] :=
  have hm : colon ∉ lit "POST" := by decide
  have hp : colon ∉ sanitizePath (lit "/api/register") := by decide
  ⟨hm, hp, requestValues_incrementRequest 0 60 registerCounted _ _ 201 hm hp⟩

end RamUsb.EntryHub
