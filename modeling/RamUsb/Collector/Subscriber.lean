import RamUsb.Collector.Validate

/-!
# The collector's message handler

The repository holds two versions of the collector's MQTT subscriber. `V1` is
`mqtt/subscriber.go`: its `messageHandler` runs `validateMetric` and counts a stored metric
itself. `V2` is the later copy of the same file that sits after `config/config.go` in the
source tree: its `messageHandler` leaves `validateMetric` out and leaves the stored count to
the storage layer (`metricsStored counter is now incremented inside TimescaleDB storage
after commit`); its `GetStatistics` reads that count, so `V2` is the live pipeline.

A run of `messageHandler` is the list of its effects on the rest of the collector
(`Effect`): counter increments under `counterMutex`, log lines, and the call of
`storage.StoreMetric`. Every rejection logs one line and counts one rejected message, so
each version is its chain of checks (`checkMessage`, the first failing check's log line or
the metric to store) followed by those effects.

* `V1.storeMetric_mem_iff`: the validating handler calls `StoreMetric` with `m` exactly when
  the topic is `metrics/<m.service>`, the payload decodes to `m`, `m` is `Admissible` and
  its timestamp is in `(0, now + 60]`.
* `V2.storeMetric_mem_iff`: the live handler asks the same except admissibility.
* `V2.stores_forbidden_label`: the live handler stores the metric of the spec's scenario 6,
  whose label `email` makes it not `Admissible`, so that the validating one rejects it.
-/

namespace RamUsb.Collector

open Go

/-- `/`, the separator of MQTT topic levels. -/
def slash : UInt8 := 47

/-- The counters of the subscriber package that `incrementCounter` updates. -/
inductive Counter where
  | received
  | rejected
  | stored
  deriving DecidableEq, Repr

/-- What a run of `messageHandler` does that the rest of the collector sees. -/
inductive Effect where
  | incrementCounter (c : Counter)
  | log (line : Str)
  | storeMetric (m : Metric)
  deriving DecidableEq

/-- One MQTT message: `msg.Topic()` and `msg.Payload()`. -/
structure Message where
  topic : Str
  payload : Str

/-- What `messageHandler` reads besides the message: `json.Unmarshal` into a `types.Metric`
(the metric, or the text of its error), `time.Now().Unix()`, and what `storage.StoreMetric`
answers for this message. -/
structure Env where
  unmarshal : Str → Except Str Metric
  now : Int
  storeResult : Except Str Unit

/-- The effects of a rejection: its log line, then `incrementCounter(&metricsRejected)`. -/
def reject (line : Str) : List Effect := [.log line, .incrementCounter .rejected]

/-- The timestamp check shared by both versions: `0 < Timestamp ≤ now + 60`. -/
def timestampOk (now : Int) (m : Metric) : Prop := 0 < m.timestamp ∧ m.timestamp ≤ now + 60

instance (now : Int) (m : Metric) : Decidable (timestampOk now m) :=
  inferInstanceAs (Decidable (_ ∧ _))

namespace V1

/-- The checks of `messageHandler` (`mqtt/subscriber.go`) up to its call of
`storage.StoreMetric`: the log line of the first failing check, or the topic's service
name and the metric. -/
def checkMessage (env : Env) (msg : Message) : Except Str (Str × Metric) :=
  match split msg.topic slash with
  | [p0, serviceName] =>
    if p0 ≠ lit "metrics" then .error (lit "Invalid topic format: " ++ msg.topic)
    else match env.unmarshal msg.payload with
    | .error err => .error (lit "Failed to parse metric from " ++ serviceName ++ lit ": " ++ err)
    | .ok metric =>
      if metric.service ≠ serviceName then
        .error (lit "Service mismatch: topic=" ++ serviceName ++ lit ", metric=" ++ metric.service)
      else match validateMetric metric with
      | .error err =>
        .error (lit "Metric validation failed from " ++ serviceName ++ lit ": " ++ err)
      | .ok () =>
        if ¬ timestampOk env.now metric then
          .error (lit "Invalid timestamp in metric from " ++ serviceName ++ lit ": " ++
            itoa metric.timestamp)
        else .ok (serviceName, metric)
  | _ => .error (lit "Invalid topic format: " ++ msg.topic)

/-- `messageHandler` of `mqtt/subscriber.go`. -/
def messageHandler (env : Env) (msg : Message) : List Effect :=
  .incrementCounter .received ::
  match checkMessage env msg with
  | .error line => reject line
  | .ok (serviceName, metric) =>
    .storeMetric metric ::
    match env.storeResult with
    | .error err => [.log (lit "Failed to store metric from " ++ serviceName ++ lit ": " ++ err)]
    | .ok () => [.incrementCounter .stored]

end V1

namespace V2

/-- The checks of the later `messageHandler` up to its call of `storage.StoreMetric`: those
of `V1.checkMessage` without `validateMetric`. -/
def checkMessage (env : Env) (msg : Message) : Except Str (Str × Metric) :=
  match split msg.topic slash with
  | [p0, serviceName] =>
    if p0 ≠ lit "metrics" then .error (lit "Invalid topic format: " ++ msg.topic)
    else match env.unmarshal msg.payload with
    | .error err => .error (lit "Failed to parse metric from " ++ serviceName ++ lit ": " ++ err)
    | .ok metric =>
      if metric.service ≠ serviceName then
        .error (lit "Service mismatch: topic=" ++ serviceName ++ lit ", metric=" ++ metric.service)
      else if ¬ timestampOk env.now metric then
        .error (lit "Invalid timestamp in metric from " ++ serviceName ++ lit ": " ++
          itoa metric.timestamp)
      else .ok (serviceName, metric)
  | _ => .error (lit "Invalid topic format: " ++ msg.topic)

/-- `messageHandler` of the later subscriber: the stored count is the storage's. -/
def messageHandler (env : Env) (msg : Message) : List Effect :=
  .incrementCounter .received ::
  match checkMessage env msg with
  | .error line => reject line
  | .ok (serviceName, metric) =>
    .storeMetric metric ::
    match env.storeResult with
    | .error err => [.log (lit "Failed to store metric from " ++ serviceName ++ lit ": " ++ err)]
    | .ok () => []

end V2

/-! ### When `StoreMetric` is called -/

namespace V1

theorem checkMessage_eq_ok_iff (env : Env) (msg : Message) (s : Str) (m : Metric) :
    checkMessage env msg = .ok (s, m) ↔
      split msg.topic slash = [lit "metrics", s] ∧ env.unmarshal msg.payload = .ok m ∧
        m.service = s ∧ Admissible m ∧ timestampOk env.now m := by
  unfold checkMessage
  split
  next p0 sn hsplit =>
    rw [hsplit]
    by_cases hp : p0 = lit "metrics"
    · subst hp
      rcases hu : env.unmarshal msg.payload with err | metric
      · simp
      · by_cases hs : metric.service = sn
        · rcases hv : validateMetric metric with err | u
          · have ha : ¬ Admissible metric := fun h => by
              simp [(validateMetric_eq_ok_iff metric).mpr h] at hv
            simp [hs, hv]
            rintro rfl rfl; simp_all
          · have ha := (validateMetric_eq_ok_iff metric).mp hv
            by_cases ht : timestampOk env.now metric <;> simp [hs, hv, ht] <;>
              rintro rfl rfl <;> simp_all
        · simp [hs]; rintro rfl rfl; simp_all
    · simp [hp]
  next hsplit => simp only [reduceCtorEq, false_iff]; rintro ⟨h, -⟩; exact hsplit _ _ h

/-- `messageHandler` calls `StoreMetric` with exactly the metric its checks let through. -/
theorem storeMetric_mem_messageHandler (env : Env) (msg : Message) (m : Metric) :
    .storeMetric m ∈ messageHandler env msg ↔ ∃ s, checkMessage env msg = .ok (s, m) := by
  unfold messageHandler
  rcases checkMessage env msg with line | ⟨s, m'⟩
  · simp [reject]
  · cases env.storeResult <;> simp [eq_comm]

/-- **The validating handler.** `messageHandler` of `mqtt/subscriber.go` calls
`storage.StoreMetric` with `m` exactly when the topic splits into `["metrics", s]` with
`s = m.service`, the payload decodes to `m`, `m` passes every check of `validateMetric`, and
`0 < m.timestamp ≤ now + 60`. -/
theorem storeMetric_mem_iff (env : Env) (msg : Message) (m : Metric) :
    .storeMetric m ∈ messageHandler env msg ↔
      split msg.topic slash = [lit "metrics", m.service] ∧ env.unmarshal msg.payload = .ok m ∧
        Admissible m ∧ timestampOk env.now m := by
  simp only [storeMetric_mem_messageHandler, checkMessage_eq_ok_iff]
  exact ⟨fun ⟨s, h1, h2, h3, h4⟩ => ⟨h3 ▸ h1, h2, h4⟩, fun ⟨h1, h2, h4⟩ => ⟨_, h1, h2, rfl, h4⟩⟩

end V1

namespace V2

theorem checkMessage_eq_ok_iff (env : Env) (msg : Message) (s : Str) (m : Metric) :
    checkMessage env msg = .ok (s, m) ↔
      split msg.topic slash = [lit "metrics", s] ∧ env.unmarshal msg.payload = .ok m ∧
        m.service = s ∧ timestampOk env.now m := by
  unfold checkMessage
  split
  next p0 sn hsplit =>
    rw [hsplit]
    by_cases hp : p0 = lit "metrics"
    · subst hp
      rcases env.unmarshal msg.payload with err | metric
      · simp
      · by_cases hs : metric.service = sn <;> by_cases ht : timestampOk env.now metric <;>
          simp [hs, ht] <;> rintro rfl rfl <;> simp_all
    · simp [hp]
  next hsplit => simp only [reduceCtorEq, false_iff]; rintro ⟨h, -⟩; exact hsplit _ _ h

theorem storeMetric_mem_messageHandler (env : Env) (msg : Message) (m : Metric) :
    .storeMetric m ∈ messageHandler env msg ↔ ∃ s, checkMessage env msg = .ok (s, m) := by
  unfold messageHandler
  rcases checkMessage env msg with line | ⟨s, m'⟩
  · simp [reject]
  · cases env.storeResult <;> simp [eq_comm]

/-- **The live handler.** The later `messageHandler` calls `storage.StoreMetric` with `m`
exactly when the topic is `metrics/<m.service>`, the payload decodes to `m` and
`0 < m.timestamp ≤ now + 60`: no label is looked at. -/
theorem storeMetric_mem_iff (env : Env) (msg : Message) (m : Metric) :
    .storeMetric m ∈ messageHandler env msg ↔
      split msg.topic slash = [lit "metrics", m.service] ∧ env.unmarshal msg.payload = .ok m ∧
        timestampOk env.now m := by
  simp only [storeMetric_mem_messageHandler, checkMessage_eq_ok_iff]
  exact ⟨fun ⟨s, h1, h2, h3, h4⟩ => ⟨h3 ▸ h1, h2, h4⟩, fun ⟨h1, h2, h4⟩ => ⟨_, h1, h2, rfl, h4⟩⟩

end V2

/-! ### The spec's scenario 6 -/

/-- The metric of the spec's scenario 6: a gauge `x` of `entry-hub` carrying the label
`email`, at the second `1700000000`. -/
def scenarioMetric : Metric where
  service := lit "entry-hub"
  timestamp := 1700000000
  name := lit "x"
  value := 1
  labels := GoMap.single (lit "email") (lit "a@b.c")
  type := metricTypeGauge

/-- Scenario 6's message: the metric's JSON on `metrics/entry-hub`. -/
def scenarioMessage : Message where
  topic := lit "metrics/entry-hub"
  payload := lit "\x7b\"service\":\"entry-hub\",\"timestamp\":1700000000,\"name\":\"x\",\"value\":1.0,\"labels\":\x7b\"email\":\"a@b.c\"\x7d,\"type\":\"gauge\"\x7d"

theorem scenarioMetric_not_admissible : ¬ Admissible scenarioMetric := fun h =>
  h.no_forbidden_key (lit "email") (by decide) ⟨lit "email", by decide, by decide⟩

/-- **The live handler stores a forbidden label.** For every decoder that reads scenario 6's
payload as its metric and every clock from the metric's second minus 60 on, the later
`messageHandler` calls `storage.StoreMetric` with that metric, which `validateMetric`
rejects. -/
theorem V2.stores_forbidden_label (env : Env)
    (hdec : env.unmarshal scenarioMessage.payload = .ok scenarioMetric)
    (hnow : scenarioMetric.timestamp ≤ env.now + 60) :
    .storeMetric scenarioMetric ∈ V2.messageHandler env scenarioMessage ∧
      validateMetric scenarioMetric ≠ .ok () :=
  ⟨(V2.storeMetric_mem_iff env _ _).mpr ⟨by decide, hdec, by decide, hnow⟩,
    fun h => scenarioMetric_not_admissible ((validateMetric_eq_ok_iff _).mp h)⟩

/-- Scenario 6 on a decoder that reads every payload as its metric, at the metric's own
second, with a working store. -/
theorem V2.stores_forbidden_label_at_scenario :
    .storeMetric scenarioMetric ∈
        V2.messageHandler ⟨fun _ => .ok scenarioMetric, 1700000000, .ok ()⟩ scenarioMessage ∧
      validateMetric scenarioMetric ≠ .ok () :=
  V2.stores_forbidden_label ⟨fun _ => .ok scenarioMetric, 1700000000, .ok ()⟩ rfl (by decide)

end RamUsb.Collector
