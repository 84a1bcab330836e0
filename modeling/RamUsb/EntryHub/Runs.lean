import RamUsb.EntryHub.Aggregator
import Mathlib.Data.List.Infix

/-!
# Runs of the aggregator

Every exported function of the Entry-Hub metrics package holds the collector's mutex for its
whole body (`GetMetrics` its read lock), so concurrent callers see the collector change one
operation at a time: a run is a list of `Op`s applied in order (`run`).

`RecordRequestDuration` keeps a bounded sample: when the buffer already holds 10000
durations it drops the oldest 5000 before appending. `sinceReset` is the history of the
durations recorded since the collector was built or last reset, and `BoundedSuffix` says
what the buffer is with respect to it: its last `k` values in recording order, with
`min(n, 5001) ≤ k ≤ 10000` for a history of length `n`.

* `BoundedSuffix.record`: one `RecordRequestDuration` keeps the buffer a bounded suffix.
* `run_boundedSuffix`: so does every run, whatever operations it interleaves.
* `requestDurations_bounded_suffix`: the statement for runs from `Initialize` and `Reset`.
-/

namespace RamUsb.EntryHub

open Go

/-- The exported operations of the metrics package, each atomic under the collector's mutex. -/
inductive Op where
  | init
  | incrementRequest (method path : Str) (status : Int)
  | recordRequestDuration (durationMs : ℚ)
  | incrementRegistration (success : Bool)
  | incrementValidationFailure (reason : Str)
  | updateActiveConnections (delta : Int)
  | incrementError (errorType : Str)
  | getMetrics (timestamp : Int)
  | reset

namespace Op

/-- The effect of one operation on the collector; `GetMetrics` only reads it. -/
def apply : Op → Aggregator → Aggregator
  | .init => EntryHub.init
  | .incrementRequest method path status => EntryHub.incrementRequest method path status
  | .recordRequestDuration durationMs => EntryHub.recordRequestDuration durationMs
  | .incrementRegistration success => EntryHub.incrementRegistration success
  | .incrementValidationFailure reason => EntryHub.incrementValidationFailure reason
  | .updateActiveConnections delta => EntryHub.updateActiveConnections delta
  | .incrementError errorType => EntryHub.incrementError errorType
  | .getMetrics _ => id
  | .reset => EntryHub.reset

/-- The durations recorded since the collector was built or last reset, after one more
operation on an initialised collector. -/
def history : Op → List ℚ → List ℚ
  | .recordRequestDuration durationMs, hist => hist ++ [durationMs]
  | .reset, _ => []
  | _, hist => hist

end Op

/-- The collector after a run of operations. -/
def run (agg : Aggregator) (ops : List Op) : Aggregator :=
  ops.foldl (fun agg op => op.apply agg) agg

/-- The durations a run records after its last `Reset`, in recording order. -/
def sinceReset (ops : List Op) : List ℚ :=
  ops.foldl (fun hist op => op.history hist) []

example : sinceReset [.recordRequestDuration 1, .reset, .getMetrics 0, .recordRequestDuration 2,
    .recordRequestDuration 3] = [2, 3] := by decide

/-! ### The latency sample -/

/-- The buffer `buf` holds the last `k` values of the history `hist`, in recording order, for
a `k` between `min(len hist, 5001)` and `10000`. -/
structure BoundedSuffix (hist buf : List ℚ) : Prop where
  suffix : buf <:+ hist
  length_le : buf.length ≤ 10000
  min_le : min hist.length 5001 ≤ buf.length

theorem BoundedSuffix.nil : BoundedSuffix [] [] := ⟨List.nil_suffix, by simp, by simp⟩

/-- **One recorded duration.** Trimming a full buffer to its newest half and appending keeps
it a bounded suffix of the longer history: below the cap the buffer grows with the history,
and at the cap it falls to exactly 5001 values. -/
theorem BoundedSuffix.record {hist buf : List ℚ} (h : BoundedSuffix hist buf) (d : ℚ) :
    BoundedSuffix (hist ++ [d]) ((if 10000 ≤ buf.length then buf.drop 5000 else buf) ++ [d]) := by
  have hkept : (if 10000 ≤ buf.length then buf.drop 5000 else buf) <:+ buf := by
    split
    · exact List.drop_suffix _ _
    · exact List.suffix_refl _
  obtain ⟨t, ht⟩ := hkept.trans h.suffix
  have := h.length_le
  have := h.min_le
  refine ⟨⟨t, by rw [← ht, List.append_assoc]⟩, ?_, ?_⟩ <;> split <;> simp <;> omega

/-- **Step.** Every operation on an initialised collector leaves it initialised, with its
sample a bounded suffix of the history after the operation. -/
theorem Op.apply_boundedSuffix (op : Op) {c : MetricsCollector} {hist : List ℚ}
    (h : BoundedSuffix hist c.requestDurations) :
    ∃ c', op.apply (some c) = some c' ∧ BoundedSuffix (op.history hist) c'.requestDurations := by
  cases op with
  | recordRequestDuration d => exact ⟨_, rfl, h.record d⟩
  | reset => exact ⟨_, rfl, .nil⟩
  | _ => exact ⟨_, rfl, h⟩

/-- **Run.** The step, along every run of operations. -/
theorem run_boundedSuffix (ops : List Op) : ∀ (c : MetricsCollector) (hist : List ℚ),
    BoundedSuffix hist c.requestDurations →
    ∃ c', run (some c) ops = some c' ∧
      BoundedSuffix (ops.foldl (fun hist op => op.history hist) hist) c'.requestDurations := by
  induction ops with
  | nil => exact fun c _ h => ⟨c, rfl, h⟩
  | cons op ops ih =>
    intro c hist h
    obtain ⟨c₁, h₁, hb⟩ := op.apply_boundedSuffix h
    simpa only [run, List.foldl_cons, h₁] using ih c₁ _ hb

/-- **The latency sample is a bounded suffix of the history.** From the collector
`Initialize` builds, and from the one any `Reset` leaves, every run of operations leaves a
collector whose `requestDurations` are the last `k` durations recorded since the run's last
`Reset` (or its start), in recording order, with `min(n, 5001) ≤ k ≤ 10000` for `n` the
number of them. -/
theorem requestDurations_bounded_suffix (ops : List Op) :
    (∃ c, run (init none) ops = some c ∧ BoundedSuffix (sinceReset ops) c.requestDurations) ∧
    ∀ c₀ : MetricsCollector, ∃ c, run (reset (some c₀)) ops = some c ∧
      BoundedSuffix (sinceReset ops) c.requestDurations :=
  ⟨run_boundedSuffix ops _ _ .nil, fun _ => run_boundedSuffix ops _ _ .nil⟩

end RamUsb.EntryHub
