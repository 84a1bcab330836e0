import RamUsb.Go.Map
import Mathlib.Data.Rat.Init

/-!
# The metric wire record

Both ends of the metrics plane declare the same record: `metrics.Metric` in the Entry-Hub
(`unnamed/part_003`) and `types.Metric` in the collector (`types/types.go`) have the same six
fields under the same JSON tags, so the model has one `Metric` for both, and publishing a
metric on the broker hands the collector this record.

A label map `map[string]string` is `Labels`, a `GoMap` of strings: its entries in the
order a `range` loop visits them, keys distinct. A theorem over every `Labels` covers every
iteration order.

A `float64` value enters the model as the exact rational it stands for.
-/

namespace RamUsb

open Go

/-- The label map `map[string]string` of a metric. -/
abbrev Labels := GoMap Str

/-- One metric data point, as published on `metrics/<service>`. -/
structure Metric where
  service : Str
  timestamp : Int
  name : Str
  value : ℚ
  labels : Labels
  type : Str
  deriving DecidableEq

/-- `MetricTypeCounter`. -/
def metricTypeCounter : Str := lit "counter"
/-- `MetricTypeGauge`. -/
def metricTypeGauge : Str := lit "gauge"
/-- `MetricTypeHistogram`. -/
def metricTypeHistogram : Str := lit "histogram"
/-- `MetricTypeSummary` (declared by the collector only). -/
def metricTypeSummary : Str := lit "summary"

end RamUsb
