import RamUsb.Metrics.Metric

/-!
# The collector's metric validation

`validateMetric` (`mqtt/subscriber.go`) is the zero-knowledge gate of the collector: the
name's length, the forbidden label keys, the number and sizes of the labels, the patterns
of e-mail addresses and SSH keys in the label values, and the metric type. It returns the
first failing check's error.

`validateMetric_eq_ok_iff` says what it lets through, as the structure `Admissible` with one
field per check. Two facts make the fields read as the checks are meant: the exact-key test
of a forbidden term is subsumed by the substring test on the lower-cased key, since every
forbidden term is lower case (`toLower_forbidden`), and lower-casing leaves `@` and `.`
alone, so the e-mail pattern may be read on the value itself (`sensitive_toLower_iff`).
-/

namespace RamUsb.Collector

open Go

/-- `types.MaxLabelKeyLength`. -/
def maxLabelKeyLength : Nat := 128
/-- `types.MaxLabelValueLength`. -/
def maxLabelValueLength : Nat := 256
/-- `types.MaxLabelsPerMetric`. -/
def maxLabelsPerMetric : Nat := 20
/-- `types.MaxMetricNameLength`. -/
def maxMetricNameLength : Nat := 256

/-- Modelled from the spec: the `types.ForbiddenLabel*` constants that `validateMetric`
reads are not in src/; §4.8 names the forbidden set
`{email, password, ssh_key, email_hash, user_id, username}`. -/
def forbiddenKeys : List Str :=
  [lit "email", lit "password", lit "ssh_key", lit "email_hash", lit "user_id", lit "username"]

/-- The metric types `validateMetric` accepts, in the order it lists them. -/
def validTypes : List Str :=
  [metricTypeCounter, metricTypeGauge, metricTypeHistogram, metricTypeSummary]

/-- One round of the forbidden-key loop: the term as an exact key, then as a substring
of a lower-cased key. -/
def checkForbidden (labels : Labels) (forbidden : Str) : Except Str Unit :=
  if forbidden ∈ labels.keys then .error (lit "forbidden label key: " ++ forbidden)
  else labels.keys.forM fun key =>
    if contains (toLower key) forbidden then
      .error (lit "label key contains forbidden term: " ++ forbidden)
    else .ok ()

/-- One round of the label loop: the sizes of the entry, then the patterns of an e-mail
address and of an SSH key in the lower-cased value. -/
def checkLabel (key value : Str) : Except Str Unit :=
  if maxLabelKeyLength < key.length then .error (lit "label key too long: " ++ key)
  else if maxLabelValueLength < value.length then
    .error (lit "label value too long for key " ++ key)
  else if contains (toLower value) (lit "@") && contains (toLower value) (lit ".") then
    .error (lit "label value appears to contain email address")
  else if hasPrefix (toLower value) (lit "ssh-") then
    .error (lit "label value appears to contain SSH key")
  else .ok ()

/-- `validateMetric(m)`. -/
def validateMetric (m : Metric) : Except Str Unit :=
  if m.name.length = 0 ∨ maxMetricNameLength < m.name.length then
    .error (lit "invalid metric name length: " ++ itoa m.name.length)
  else forbiddenKeys.forM (checkForbidden m.labels) >>= fun () =>
  if maxLabelsPerMetric < m.labels.size then
    .error (lit "too many labels: " ++ itoa m.labels.size ++ lit " (max " ++
      itoa maxLabelsPerMetric ++ lit ")")
  else m.labels.entries.forM (fun kv => checkLabel kv.1 kv.2) >>= fun () =>
  if m.type ∈ validTypes then .ok () else .error (lit "invalid metric type: " ++ m.type)

/-- `validateMetric` reads neither the timestamp nor the value of a metric. -/
theorem validateMetric_clock_value (m : Metric) (t : Int) (v : ℚ) :
    validateMetric { m with timestamp := t, value := v } = validateMetric m := rfl

/-! ### What the checks mean -/

/-- A label key that holds a forbidden term once lower-cased. -/
def ForbiddenKey (key : Str) : Prop := ∃ f ∈ forbiddenKeys, f <:+: toLower key

/-- A label value that `validateMetric` takes for an e-mail address (it holds both `@` and
`.`) or for an SSH key (it starts with `ssh-`, in any case). -/
def SensitiveValue (value : Str) : Prop :=
  (lit "@" <:+: value ∧ lit "." <:+: value) ∨ lit "ssh-" <+: toLower value

/-- Everything `validateMetric` checks, one field per check. -/
structure Admissible (m : Metric) : Prop where
  name_length : 0 < m.name.length ∧ m.name.length ≤ maxMetricNameLength
  no_forbidden_key : ∀ key ∈ m.labels.keys, ¬ ForbiddenKey key
  labels_size : m.labels.size ≤ maxLabelsPerMetric
  key_length : ∀ kv ∈ m.labels.entries, kv.1.length ≤ maxLabelKeyLength
  value_length : ∀ kv ∈ m.labels.entries, kv.2.length ≤ maxLabelValueLength
  no_sensitive_value : ∀ kv ∈ m.labels.entries, ¬ SensitiveValue kv.2
  type_valid : m.type ∈ validTypes

/-- Every forbidden term is lower case. -/
theorem toLower_forbidden : ∀ f ∈ forbiddenKeys, toLower f = f := by decide

/-- The e-mail pattern reads the same on the value and on its lower-cased form. -/
theorem sensitive_toLower_iff (value : Str) :
    (contains (toLower value) (lit "@") && contains (toLower value) (lit ".")) = true ↔
      lit "@" <:+: value ∧ lit "." <:+: value := by
  simp only [Bool.and_eq_true, show lit "@" = [64] from rfl, show lit "." = [46] from rfl,
    contains_singleton, ← contains_iff]
  rw [mem_toLower_iff (by decide) (by decide), mem_toLower_iff (by decide) (by decide)]

theorem checkForbidden_eq_ok_iff (labels : Labels) (f : Str) :
    checkForbidden labels f = .ok () ↔
      f ∉ labels.keys ∧ ∀ key ∈ labels.keys, ¬ f <:+: toLower key := by
  simp [checkForbidden, forM_eq_ok_iff]

theorem checkLabel_eq_ok_iff (key value : Str) :
    checkLabel key value = .ok () ↔ key.length ≤ maxLabelKeyLength ∧
      value.length ≤ maxLabelValueLength ∧ ¬ SensitiveValue value := by
  simp only [checkLabel, ite_error_eq_ok, not_lt, sensitive_toLower_iff, hasPrefix_iff,
    SensitiveValue, not_or, and_true]

/-- The forbidden-key loop passes exactly when no key holds a forbidden term. -/
theorem forbiddenLoop_eq_ok_iff (labels : Labels) :
    forbiddenKeys.forM (checkForbidden labels) = .ok () ↔
      ∀ key ∈ labels.keys, ¬ ForbiddenKey key := by
  simp only [forM_eq_ok_iff, checkForbidden_eq_ok_iff, ForbiddenKey, not_exists, not_and]
  constructor
  · exact fun h key hk f hf => (h f hf).2 key hk
  · refine fun h f hf => ⟨fun hk => h f hk f hf ?_, fun key hk => h key hk f hf⟩
    rw [toLower_forbidden f hf]

/-- The label loop passes exactly when every entry passes `checkLabel`'s three checks. -/
theorem labelLoop_eq_ok_iff (labels : Labels) :
    labels.entries.forM (fun kv => checkLabel kv.1 kv.2) = .ok () ↔
      ∀ kv ∈ labels.entries, kv.1.length ≤ maxLabelKeyLength ∧
        kv.2.length ≤ maxLabelValueLength ∧ ¬ SensitiveValue kv.2 := by
  simp only [forM_eq_ok_iff, checkLabel_eq_ok_iff]

/-- **What `validateMetric` lets through.** It returns `nil` exactly on the admissible
metrics. -/
theorem validateMetric_eq_ok_iff (m : Metric) : validateMetric m = .ok () ↔ Admissible m := by
  simp only [validateMetric, ite_error_eq_ok, ite_ok_eq_ok, bind_eq_ok_iff,
    forbiddenLoop_eq_ok_iff, labelLoop_eq_ok_iff, not_or, not_lt]
  constructor
  · rintro ⟨h1, h2, h3, h4, h5⟩
    exact ⟨⟨Nat.pos_of_ne_zero h1.1, h1.2⟩, h2, h3, fun kv hkv => (h4 kv hkv).1, fun kv hkv => (h4 kv hkv).2.1,
      fun kv hkv => (h4 kv hkv).2.2, h5⟩
  · rintro ⟨h1, h2, h3, h4, h5, h6, h7⟩
    exact ⟨⟨Nat.pos_iff_ne_zero.mp h1.1, h1.2⟩, h2, h3,
      fun kv hkv => ⟨h4 kv hkv, h5 kv hkv, h6 kv hkv⟩, h7⟩

end RamUsb.Collector
