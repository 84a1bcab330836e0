import RamUsb.EntryHub.Counters
import RamUsb.EntryHub.Register
import Mathlib.Algebra.BigOperators.Group.List
import Mathlib.Algebra.BigOperators.Ring

/-!
# What the registration counters say

`RegisterHandler` (`entry-hub/handlers/register.go`) is the only caller of
`IncrementRegistration`, `IncrementValidationFailure` and `IncrementError`, and nothing in the
program calls `Reset`. So what the three maps `registrationsTotal`, `validationFailures` and
`errorsTotal` hold over a run of the Entry-Hub is decided by where the handler ended each
request (`Outcome`): refused by a check of the validation chain, stopped when
`NewEntryHubClient` failed, stopped when `ForwardRegistration` failed, refused by the
Security-Switch, or registered.

* `registerOps_spec`: on every decoded request, the metric calls the handler makes and the
  status it answers, for each outcome. A failure of either downstream call is counted twice in
  `errorsTotal`: under the generic type, then under the specific one.
* `registration_counters_agree`: over every sequence of requests, interleaved with any
  operations of the middleware and the publisher, `registrations_total{result="success"}` is
  the number of `201` answers, `registrations_total{result="failed"}` the number of requests
  the Security-Switch was asked about and did not register, the validation failures sum to
  the number of refused inputs, and the errors sum to twice the number of downstream failures
  plus the number of refusals by the Security-Switch. A request stopped by
  `NewEntryHubClient` is counted in neither registration result.
-/

namespace RamUsb.EntryHub

open Go Registration

/-- The aggregator operation a handler effect makes, if any. -/
def HubEffect.op? : HubEffect → Option Op
  | .validationFailure reason => some (.incrementValidationFailure reason)
  | .error errorType => some (.incrementError errorType)
  | .registration success => some (.incrementRegistration success)
  | .print _ | .log _ => none

/-- The aggregator operations `RegisterHandler` makes on a decoded request, in order. -/
def registerOps (v : Validators) (sha256 : Bytes → Bytes) (out : HubOutcomes)
    (req : RegisterRequest) : List Op :=
  (registerHandler v sha256 out req).2.filterMap HubEffect.op?

/-- Where `RegisterHandler` ends a decoded request. -/
inductive Outcome
  /-- A check of the validation chain refused the request. -/
  | rejectedInput
  /-- `NewEntryHubClient` failed. -/
  | clientFailed
  /-- `ForwardRegistration` failed. -/
  | forwardFailed
  /-- The Security-Switch answered `success = false`. -/
  | rejectedBySwitch
  /-- The Security-Switch registered the user. -/
  | registered
  deriving DecidableEq

/-- The outcome of a request, from the validation chain and the two downstream results. -/
def outcome (v : Validators) (out : HubOutcomes) (req : RegisterRequest) : Outcome :=
  if ((registerChain v).find? (·.1.rejects req)).isSome then .rejectedInput
  else
    match out.client, out.forward with
    | .error _, _ => .clientFailed
    | .ok (), .error _ => .forwardFailed
    | .ok (), .ok switchResponse => if switchResponse.success then .registered else .rejectedBySwitch

/-! ### One request -/

theorem clientFailure_ops (err : Str) :
    ∃ kind, (clientFailure err).2.filterMap HubEffect.op? =
        [.incrementError (lit "security_switch_client_init_failed"), .incrementError kind] ∧
      (clientFailure err).1.status = 500 := by
  unfold clientFailure
  split_ifs <;> exact ⟨_, rfl, rfl⟩

theorem forwardFailure_ops (emailHash err : Str) :
    ∃ kind, (forwardFailure emailHash err).2.filterMap HubEffect.op? =
        [.incrementError (lit "security_switch_forward_failed"), .incrementError kind,
          .incrementRegistration false] ∧
      (forwardFailure emailHash err).1.status ≠ 201 := by
  unfold forwardFailure
  split_ifs <;> exact ⟨_, rfl, by dsimp only [errorResponse]; decide⟩

/-- **What `RegisterHandler` counts.** On every decoded request, whatever the checks and the
downstream calls return, the handler's metric calls and its status follow from where it
ends the request. -/
theorem registerOps_spec (v : Validators) (sha256 : Bytes → Bytes) (out : HubOutcomes)
    (req : RegisterRequest) :
    (outcome v out req = .rejectedInput ∧ ∃ reason,
        registerOps v sha256 out req = [.incrementValidationFailure reason] ∧
        (registerHandler v sha256 out req).1.status = 400) ∨
    (outcome v out req = .clientFailed ∧ ∃ kind,
        registerOps v sha256 out req =
          [.incrementError (lit "security_switch_client_init_failed"), .incrementError kind] ∧
        (registerHandler v sha256 out req).1.status = 500) ∨
    (outcome v out req = .forwardFailed ∧ ∃ kind,
        registerOps v sha256 out req = [.incrementError (lit "security_switch_forward_failed"),
          .incrementError kind, .incrementRegistration false] ∧
        (registerHandler v sha256 out req).1.status ≠ 201) ∨
    (outcome v out req = .rejectedBySwitch ∧
        registerOps v sha256 out req = [.incrementRegistration false,
          .incrementError (lit "registration_rejected_by_security_switch")] ∧
        (registerHandler v sha256 out req).1.status = 400) ∨
    (outcome v out req = .registered ∧
        registerOps v sha256 out req = [.incrementRegistration true] ∧
        (registerHandler v sha256 out req).1.status = 201) := by
  obtain ⟨remoteAddr, method, client, forward⟩ := out
  unfold registerOps registerHandler outcome
  cases (registerChain v).find? (·.1.rejects req) with
  | some found => exact .inl ⟨rfl, found.2, rfl, rfl⟩
  | none =>
    rcases client with err | ⟨⟩
    · obtain ⟨kind, hops, hst⟩ := clientFailure_ops err
      dsimp only
      generalize clientFailure err = r at hops hst ⊢
      exact .inr (.inl ⟨rfl, kind, by simpa [HubEffect.op?] using hops, hst⟩)
    rcases forward with err | ⟨⟨⟩ | ⟨⟩, message⟩
    · obtain ⟨kind, hops, hst⟩ := forwardFailure_ops (hashEmail sha256 req.email) err
      dsimp only
      generalize forwardFailure _ err = r at hops hst ⊢
      exact .inr (.inr (.inl ⟨rfl, kind, by simpa [HubEffect.op?] using hops, hst⟩))
    · exact .inr (.inr (.inr (.inl ⟨rfl, rfl, rfl⟩)))
    · exact .inr (.inr (.inr (.inr ⟨rfl, rfl, rfl⟩)))

/-! ### A map of counters, summed -/

namespace Counts

theorem getD_eq {counters : GoMap Int} {hist : List Str} (h : Counts counters hist) (key : Str) :
    (counters.get? key).getD 0 = hist.count key := by
  rw [h key]
  split_ifs with hk
  · rfl
  · simp [List.count_eq_zero_of_not_mem hk]

/-- The values of a map that counts `hist` sum to its length. -/
theorem sum_values {counters : GoMap Int} {hist : List Str} (h : Counts counters hist) :
    counters.values.sum = hist.length := by
  have hval : ∀ e ∈ counters.entries, e.2 = (hist.count e.1 : Int) := by
    rintro ⟨k, n⟩ he
    have hk := h k
    rw [if_pos (h.mem_keys (List.mem_map_of_mem Prod.fst he))] at hk
    cases List.inj_on_of_nodup_map counters.nodup he (GoMap.mem_entries_of_get? hk) rfl
    rfl
  have hperm : counters.keys.Perm hist.dedup :=
    (List.perm_ext_iff_of_nodup counters.nodup (List.nodup_dedup _)).2 fun k => by
      change k ∈ counters.keys ↔ _
      rw [List.mem_dedup, ← not_iff_not, ← GoMap.get?_eq_none_iff, h k]
      split_ifs with hk <;> simp [hk]
  calc counters.values.sum
      = (counters.keys.map fun k => (hist.count k : Int)).sum := by
        rw [GoMap.values, GoMap.keys, List.map_map, List.map_congr_left hval]; rfl
    _ = (hist.dedup.map fun k => (hist.count k : Int)).sum := (hperm.map _).sum_eq
    _ = hist.length := by
        rw [← List.sum_map_count_dedup_eq_length hist, Nat.cast_list_sum, List.map_map]
        simp only [Function.comp_def, List.count_eq_countP, beq_eq_decide]

end Counts

/-! ### Runs of the Entry-Hub -/

/-- The operations the other callers make on the collector: the middleware
(`UpdateActiveConnections`, `IncrementRequest`, `RecordRequestDuration`) and the publisher
(`GetMetrics`). Not the three increments only `RegisterHandler` makes, and not `Reset`, which
nothing calls. -/
def Op.otherCaller : Op → Bool
  | .incrementRegistration _ | .incrementValidationFailure _ | .incrementError _ | .reset => false
  | _ => true

/-- A call on the Entry-Hub's collector: `RegisterHandler` serving a decoded request, or an
operation of another caller. -/
inductive Event
  | register (out : HubOutcomes) (req : RegisterRequest)
  | other (op : Op) (h : op.otherCaller)

/-- The operations an event makes on the collector, in order. -/
def Event.ops (v : Validators) (sha256 : Bytes → Bytes) : Event → List Op
  | .register out req => registerOps v sha256 out req
  | .other op _ => [op]

/-- The answers `RegisterHandler` writes over a sequence of events, in order. -/
def responses (v : Validators) (sha256 : Bytes → Bytes) (events : List Event) : List Response :=
  events.filterMap fun
    | .register out req => some (registerHandler v sha256 out req).1
    | .other _ _ => none

/-- Where `RegisterHandler` ended each request of a sequence of events, in order. -/
def outcomes (v : Validators) (events : List Event) : List Outcome :=
  events.filterMap fun
    | .register out req => some (outcome v out req)
    | .other _ _ => none

/-- The keys a sequence of events increments in the map `m`, in order. -/
def countedKeys (v : Validators) (sha256 : Bytes → Bytes) (m : CounterMap) (events : List Event) :
    List Str :=
  (events.flatMap (·.ops v sha256)).filterMap (·.counterKey m)

theorem Op.counted_of_ne_reset {op : Op} (h : op ≠ .reset) (m : CounterMap) (hist : List Str) :
    op.counted m hist = hist ++ (op.counterKey m).toList := by
  unfold Op.counted
  split
  · exact absurd rfl h
  · cases op.counterKey m <;> simp

/-- Without `Reset`, a run counts the keys of all its increments. -/
theorem foldl_counted_of_ne_reset (m : CounterMap) :
    ∀ {ops : List Op} (hist : List Str), (∀ op ∈ ops, op ≠ .reset) →
      ops.foldl (fun hist op => op.counted m hist) hist = hist ++ ops.filterMap (·.counterKey m)
  | [], hist, _ => by simp
  | op :: ops, hist, h => by
    rw [List.foldl_cons, Op.counted_of_ne_reset (h op (.head _)),
      foldl_counted_of_ne_reset m _ fun o ho => h o (.tail _ ho), List.filterMap_cons]
    cases op.counterKey m <;> simp

theorem Event.ne_reset (v : Validators) (sha256 : Bytes → Bytes) :
    ∀ e : Event, ∀ op ∈ e.ops v sha256, op ≠ .reset
  | .register out req => by
    rcases registerOps_spec v sha256 out req with
      ⟨-, _, h, -⟩ | ⟨-, _, h, -⟩ | ⟨-, _, h, -⟩ | ⟨-, h, -⟩ | ⟨-, h, -⟩ <;> simp [Event.ops, h]
  | .other op h => by
    simp only [Event.ops, List.mem_singleton, forall_eq]
    rintro rfl
    cases h

theorem countedSinceReset_events (v : Validators) (sha256 : Bytes → Bytes) (m : CounterMap)
    (events : List Event) :
    countedSinceReset m (events.flatMap (·.ops v sha256)) = countedKeys v sha256 m events := by
  refine (foldl_counted_of_ne_reset m [] fun op hop => ?_).trans (List.nil_append _)
  obtain ⟨e, -, he⟩ := List.mem_flatMap.mp hop
  exact e.ne_reset v sha256 op he

@[simp] theorem responses_register (v : Validators) (sha256 : Bytes → Bytes) (out : HubOutcomes)
    (req : RegisterRequest) (events : List Event) :
    responses v sha256 (.register out req :: events) =
      (registerHandler v sha256 out req).1 :: responses v sha256 events := rfl

@[simp] theorem responses_other (v : Validators) (sha256 : Bytes → Bytes) (op : Op)
    (h : op.otherCaller) (events : List Event) :
    responses v sha256 (.other op h :: events) = responses v sha256 events := rfl

@[simp] theorem outcomes_register (v : Validators) (out : HubOutcomes) (req : RegisterRequest)
    (events : List Event) :
    outcomes v (.register out req :: events) = outcome v out req :: outcomes v events := rfl

@[simp] theorem outcomes_other (v : Validators) (op : Op) (h : op.otherCaller)
    (events : List Event) : outcomes v (.other op h :: events) = outcomes v events := rfl

theorem countedKeys_cons (v : Validators) (sha256 : Bytes → Bytes) (m : CounterMap) (e : Event)
    (events : List Event) :
    countedKeys v sha256 m (e :: events) =
      (e.ops v sha256).filterMap (·.counterKey m) ++ countedKeys v sha256 m events := by
  simp only [countedKeys, List.flatMap_cons, List.filterMap_append]

/-- An operation of another caller increments none of the three maps. -/
theorem counterKey_otherCaller {op : Op} (h : op.otherCaller) {m : CounterMap}
    (hm : m ≠ .requests) : op.counterKey m = none := by
  cases op <;> cases m <;> first | rfl | exact absurd rfl hm | cases h

/-- **The tally.** Over every sequence of events, the keys the three maps count are those the
outcomes of its requests call for. -/
theorem countedKeys_tally (v : Validators) (sha256 : Bytes → Bytes) :
    ∀ events : List Event,
      (countedKeys v sha256 .registrations events).count (lit "success") =
          (responses v sha256 events).countP (·.status = 201) ∧
        (countedKeys v sha256 .registrations events).count (lit "failed") =
          (outcomes v events).count .forwardFailed + (outcomes v events).count .rejectedBySwitch ∧
        (countedKeys v sha256 .failures events).length = (outcomes v events).count .rejectedInput ∧
        (countedKeys v sha256 .errors events).length =
          2 * ((outcomes v events).count .clientFailed + (outcomes v events).count .forwardFailed) +
            (outcomes v events).count .rejectedBySwitch
  | [] => ⟨rfl, rfl, rfl, rfl⟩
  | .other op h :: events => by
    simpa [countedKeys_cons, Event.ops, counterKey_otherCaller h] using
      countedKeys_tally v sha256 events
  | .register out req :: events => by
    obtain ⟨ih₁, ih₂, ih₃, ih₄⟩ := countedKeys_tally v sha256 events
    have hne : lit "failed" ≠ lit "success" := by decide
    simp only [countedKeys_cons, responses_register, outcomes_register, List.count_append,
      List.countP_cons, List.count_cons, List.length_append, Event.ops, ih₁, ih₂, ih₃, ih₄]
    rcases registerOps_spec v sha256 out req with
      ⟨ho, _, hops, hst⟩ | ⟨ho, _, hops, hst⟩ | ⟨ho, _, hops, hst⟩ | ⟨ho, hops, hst⟩ | ⟨ho, hops, hst⟩ <;>
      simp only [hops, ho, hst, hne, hne.symm, Op.counterKey, List.filterMap_cons_none,
        List.filterMap_cons_some, List.filterMap_nil, List.count_nil, List.count_cons_self,
        List.count_cons_of_ne, List.length_nil, List.length_cons, beq_iff_eq, reduceCtorEq, ↓reduceIte,
        decide_False, decide_True, Bool.false_eq_true, Option.some.injEq, ne_eq, not_false_eq_true,
        Nat.reduceEqDiff, beq_self_eq_true] <;>
      omega

/-- **The registration counters agree with the answers.** Over every sequence of decoded
requests `RegisterHandler` serves from `Initialize`, interleaved in any way with the
operations of the middleware and the publisher: `registrationsTotal["success"]` is the number
of `201` answers; `registrationsTotal["failed"]` the number of requests whose forwarding
failed or that the Security-Switch refused, so a request stopped by `NewEntryHubClient` is in
neither; the validation failures sum to the number of requests a check refused; and the
errors sum to twice the number of requests stopped by either downstream call, plus the number
the Security-Switch refused. -/
theorem registration_counters_agree (v : Validators) (sha256 : Bytes → Bytes)
    (events : List Event) :
    ∃ c, run (init none) (events.flatMap (·.ops v sha256)) = some c ∧
      (c.registrationsTotal.get? (lit "success")).getD 0 =
        ((responses v sha256 events).countP (·.status = 201) : Int) ∧
      (c.registrationsTotal.get? (lit "failed")).getD 0 =
        ((outcomes v events).count .forwardFailed + (outcomes v events).count .rejectedBySwitch :
          Nat) ∧
      c.validationFailures.values.sum = ((outcomes v events).count .rejectedInput : Int) ∧
      c.errorsTotal.values.sum =
        (2 * ((outcomes v events).count .clientFailed + (outcomes v events).count .forwardFailed) +
          (outcomes v events).count .rejectedBySwitch : Nat) := by
  obtain ⟨c, hc⟩ := run_some (events.flatMap (·.ops v sha256)) .empty
  have hcounts (m : CounterMap) : Counts (m.get c) (countedKeys v sha256 m events) :=
    countedSinceReset_events v sha256 m events ▸ counts_of_run_init hc m
  obtain ⟨h₁, h₂, h₃, h₄⟩ := countedKeys_tally v sha256 events
  exact ⟨c, hc, ((hcounts .registrations).getD_eq _).trans (congrArg _ h₁),
    ((hcounts .registrations).getD_eq _).trans (congrArg _ h₂),
    (hcounts .failures).sum_values.trans (congrArg _ h₃),
    (hcounts .errors).sum_values.trans (congrArg _ h₄)⟩

end RamUsb.EntryHub
