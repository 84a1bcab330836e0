import RamUsb.EntryHub.Runs

/-!
# The counters of the aggregator

`IncrementRequest`, `IncrementRegistration`, `IncrementValidationFailure` and `IncrementError`
(`unnamed/part_003`) each run `m[key]++` on one map of the collector, under a key computed
from the call's arguments: the composite key of the method, the sanitised path and the
status class; `"success"` or `"failed"`; the sanitised failure reason; the sanitised error
type. `Reset` replaces every map by an empty one, and no other operation writes them.

`Counts counters hist` says that the map holds, under every key, the number of times the key
occurs in `hist`, and no entry for a key that does not occur. `countedSinceReset m ops` is the
list of keys the operations of a run increment in the map `m` after the run's last `Reset`.

* `counters_count_since_reset`: over every run from `Initialize`, and from the collector any
  `Reset` leaves, each of the four maps counts its keys since the last `Reset`, whatever the
  operations interleaved with the increments.
* `counter_labels_bounded`: the last three maps are keyed by `IncrementRegistration`'s two
  literals and the two sanitisers, whose results are fixed lists, so over every run they hold
  at most 2, 4 and 5 entries, whatever the handlers pass. `requestsTotal` has no such bound:
  its path label is the request path itself outside `/api/`.
-/

namespace RamUsb.EntryHub

open Go

/-- The four counter maps of the collector. -/
inductive CounterMap
  | requests
  | registrations
  | failures
  | errors

namespace CounterMap

/-- The map of the collector a `CounterMap` names. -/
def get : CounterMap → MetricsCollector → GoMap Int
  | requests, c => c.requestsTotal
  | registrations, c => c.registrationsTotal
  | failures, c => c.validationFailures
  | errors, c => c.errorsTotal

@[simp] theorem get_empty (m : CounterMap) : m.get .empty = .empty := by
  cases m <;> rfl

end CounterMap

namespace Op

/-- The key an operation increments in the map `m`, `none` when it increments none there. -/
def counterKey : CounterMap → Op → Option Str
  | .requests, .incrementRequest method path status =>
    some (requestKey method (sanitizePath path) (statusClass status))
  | .registrations, .incrementRegistration success =>
    some (if success then lit "success" else lit "failed")
  | .failures, .incrementValidationFailure reason => some (sanitizeFailureReason reason)
  | .errors, .incrementError errorType => some (sanitizeErrorType errorType)
  | _, _ => none

/-- The keys of `m` counted since the collector was built or last reset, after one more
operation on an initialised collector. -/
def counted (m : CounterMap) : Op → List Str → List Str
  | .reset, _ => []
  | op, hist =>
    match op.counterKey m with
    | some key => hist ++ [key]
    | none => hist

end Op

/-- The keys a run increments in the map `m` after its last `Reset`, in order. -/
def countedSinceReset (m : CounterMap) (ops : List Op) : List Str :=
  ops.foldl (fun hist op => op.counted m hist) []

example : countedSinceReset .registrations [.incrementRegistration true, .reset,
    .incrementRegistration false, .incrementError (lit "tls"), .incrementRegistration true] =
    [lit "failed", lit "success"] := by decide

/-! ### A map of counters -/

/-- The map holds under each key the number of times the key occurs in `hist`, and no entry
for a key that does not occur. -/
def Counts (counters : GoMap Int) (hist : List Str) : Prop :=
  ∀ key, counters.get? key = if key ∈ hist then some (hist.count key : Int) else none

namespace Counts

theorem empty : Counts .empty [] := fun _ => rfl

/-- **One increment.** `m[key]++` counts one more `key`. -/
theorem incr {counters : GoMap Int} {hist : List Str} (h : Counts counters hist) (key : Str) :
    Counts (counters.incr key) (hist ++ [key]) := by
  intro k
  by_cases hk : k = key
  · subst hk
    rw [GoMap.get?_incr_self, h k, if_pos (List.mem_append_right _ (List.mem_singleton_self k)),
      List.count_append, List.count_singleton_self]
    by_cases hm : k ∈ hist
    · simp [hm]
    · simp [hm, List.count_eq_zero_of_not_mem hm]
  · rw [GoMap.incr, GoMap.get?_update_ne _ _ hk, h k]
    simp [List.count_cons, hk]

theorem mem_keys {counters : GoMap Int} {hist : List Str} (h : Counts counters hist) {key : Str}
    (hk : key ∈ counters.keys) : key ∈ hist := by
  by_contra hn
  have := h key
  rw [if_neg hn, GoMap.get?_eq_none_iff] at this
  exact this hk

end Counts

/-! ### Runs -/

theorem Op.apply_some (op : Op) (c : MetricsCollector) : ∃ c', op.apply (some c) = some c' := by
  cases op <;> exact ⟨_, rfl⟩

theorem run_some (ops : List Op) : ∀ c : MetricsCollector, ∃ c', run (some c) ops = some c' := by
  induction ops with
  | nil => exact fun c => ⟨c, rfl⟩
  | cons op ops ih =>
    intro c
    obtain ⟨c₁, h₁⟩ := op.apply_some c
    simpa only [run, List.foldl_cons, h₁] using ih c₁

/-- **Step.** Every operation keeps each map counting: an increment of the map counts its
key, `Reset` starts an empty history, and the other operations leave the map alone. -/
theorem Op.apply_counts (op : Op) (m : CounterMap) {c c' : MetricsCollector} {hist : List Str}
    (hc : op.apply (some c) = some c') (h : Counts (m.get c) hist) :
    Counts (m.get c') (op.counted m hist) := by
  cases op <;> cases m <;> cases hc <;>
    first
    | exact Counts.empty
    | exact h
    | exact h.incr _

/-- **Run.** The step, along every run of operations. -/
theorem run_counts (m : CounterMap) (ops : List Op) :
    ∀ {c c' : MetricsCollector} {hist : List Str}, run (some c) ops = some c' →
      Counts (m.get c) hist →
      Counts (m.get c') (ops.foldl (fun hist op => op.counted m hist) hist) := by
  induction ops with
  | nil => intro c c' hist hc h; cases hc; exact h
  | cons op ops ih =>
    intro c c' hist hc h
    obtain ⟨c₁, h₁⟩ := op.apply_some c
    rw [run, List.foldl_cons, ← run, h₁] at hc
    exact ih hc (op.apply_counts m h₁ h)

/-- From `Initialize`, each map counts the keys its operations incremented since the run's last
`Reset`. -/
theorem counts_of_run_init {ops : List Op} {c : MetricsCollector} (hc : run (init none) ops = some c)
    (m : CounterMap) : Counts (m.get c) (countedSinceReset m ops) :=
  run_counts m ops hc (by rw [CounterMap.get_empty]; exact Counts.empty)

/-- **The counters count.** From the collector `Initialize` builds, and from the one any
`Reset` leaves, every run of operations leaves a collector each of whose four counter maps
holds, under every key, the number of operations since the run's last `Reset` that
incremented that key, and no entry for any other key. -/
theorem counters_count_since_reset (ops : List Op) :
    (∃ c, run (init none) ops = some c ∧ ∀ m : CounterMap, Counts (m.get c) (countedSinceReset m ops)) ∧
    ∀ c₀ : MetricsCollector, ∃ c, run (reset (some c₀)) ops = some c ∧
      ∀ m : CounterMap, Counts (m.get c) (countedSinceReset m ops) := by
  obtain ⟨c, hc⟩ := run_some ops .empty
  exact ⟨⟨c, hc, counts_of_run_init hc⟩, fun _ => ⟨c, hc, counts_of_run_init hc⟩⟩

/-! ### Bounded label sets -/

/-- The two keys of `registrationsTotal`. -/
def registrationLabels : List Str := [lit "success", lit "failed"]

/-- The results of `sanitizeFailureReason`. -/
def failureLabels : List Str :=
  [lit "invalid_email", lit "invalid_password", lit "invalid_ssh_key", lit "validation_error"]

/-- The results of `sanitizeErrorType`. -/
def errorLabels : List Str :=
  [lit "timeout", lit "connection", lit "tls", lit "certificate", lit "internal"]

theorem sanitizeFailureReason_mem (reason : Str) : sanitizeFailureReason reason ∈ failureLabels := by
  unfold sanitizeFailureReason
  split_ifs <;> simp [failureLabels]

theorem sanitizeErrorType_mem (errorType : Str) : sanitizeErrorType errorType ∈ errorLabels := by
  unfold sanitizeErrorType
  split_ifs <;> simp [errorLabels]

/-- A run only counts keys its operations compute. -/
theorem mem_foldl_counted {m : CounterMap} {labels : List Str}
    (hkey : ∀ (op : Op) key, op.counterKey m = some key → key ∈ labels) (ops : List Op) :
    ∀ hist : List Str, (∀ key ∈ hist, key ∈ labels) →
      ∀ key ∈ ops.foldl (fun hist op => op.counted m hist) hist, key ∈ labels := by
  induction ops with
  | nil => exact fun _ h => h
  | cons op ops ih =>
    refine fun hist h => ih _ fun key hk => ?_
    change key ∈ Op.counted m op hist at hk
    unfold Op.counted at hk
    split at hk
    · cases hk
    · split at hk
      next key' hop =>
        rcases List.mem_append.mp hk with hk | hk
        · exact h key hk
        · rw [List.mem_singleton.mp hk]; exact hkey op key' hop
      · exact h key hk

/-- A map that counts keys of a list of `n` labels has at most `n` entries, all of them
labels. -/
theorem keys_subset_of_counts {counters : GoMap Int} {hist labels : List Str}
    (h : Counts counters hist) (hl : ∀ key ∈ hist, key ∈ labels) :
    counters.keys ⊆ labels ∧ counters.size ≤ labels.length := by
  have hsub : counters.keys ⊆ labels := fun key hk => hl key (h.mem_keys hk)
  refine ⟨hsub, ?_⟩
  have hlen : counters.size = counters.keys.length := by simp [GoMap.size, GoMap.keys]
  rw [hlen]
  exact (List.subperm_of_subset counters.nodup hsub).length_le

theorem registrations_counted_mem (ops : List Op) :
    ∀ key ∈ countedSinceReset .registrations ops, key ∈ registrationLabels := by
  refine mem_foldl_counted (fun op key hop => ?_) ops [] nofun
  cases op <;> simp only [Op.counterKey, Option.some.injEq, reduceCtorEq] at hop
  subst hop
  split <;> simp [registrationLabels]

theorem failures_counted_mem (ops : List Op) :
    ∀ key ∈ countedSinceReset .failures ops, key ∈ failureLabels := by
  refine mem_foldl_counted (fun op key hop => ?_) ops [] nofun
  cases op <;> simp only [Op.counterKey, Option.some.injEq, reduceCtorEq] at hop
  exact hop ▸ sanitizeFailureReason_mem _

theorem errors_counted_mem (ops : List Op) :
    ∀ key ∈ countedSinceReset .errors ops, key ∈ errorLabels := by
  refine mem_foldl_counted (fun op key hop => ?_) ops [] nofun
  cases op <;> simp only [Op.counterKey, Option.some.injEq, reduceCtorEq] at hop
  exact hop ▸ sanitizeErrorType_mem _

/-- **Closed label sets.** Over every run from `Initialize`, whatever reasons and error types
the handlers pass, `registrationsTotal` is keyed by `"success"` and `"failed"` only,
`validationFailures` by the four results of `sanitizeFailureReason` and `errorsTotal` by the
five results of `sanitizeErrorType`: they never hold more than 2, 4 and 5 entries. -/
theorem counter_labels_bounded (ops : List Op) :
    ∃ c, run (init none) ops = some c ∧
      (c.registrationsTotal.keys ⊆ registrationLabels ∧ c.registrationsTotal.size ≤ 2) ∧
      (c.validationFailures.keys ⊆ failureLabels ∧ c.validationFailures.size ≤ 4) ∧
      (c.errorsTotal.keys ⊆ errorLabels ∧ c.errorsTotal.size ≤ 5) := by
  obtain ⟨c, hc⟩ := run_some ops .empty
  exact ⟨c, hc, keys_subset_of_counts (counts_of_run_init hc .registrations)
      (registrations_counted_mem ops),
    keys_subset_of_counts (counts_of_run_init hc .failures) (failures_counted_mem ops),
    keys_subset_of_counts (counts_of_run_init hc .errors) (errors_counted_mem ops)⟩

end RamUsb.EntryHub
