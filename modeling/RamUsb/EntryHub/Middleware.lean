import RamUsb.EntryHub.Runs

/-!
# Connection tracking in `MetricsMiddleware`

`MetricsMiddleware` (`unnamed/part_002`) wraps every Entry-Hub handler. A request first calls
`UpdateActiveConnections(1)` and defers `UpdateActiveConnections(-1)`; it then runs the
handler and, when the handler returns, calls `IncrementRequest` with the status the handler
wrote and `RecordRequestDuration` with the time it took. A handler that panics skips both
calls, and the deferred decrement runs while the panic unwinds the request's goroutine
(`net/http` recovers it).

The system is the collector together with the requests in flight, each at its program
counter `Pc`. An `Action` is one atomic step: a new request entering, one step of a request
in flight, or an operation of another caller (the handlers count registrations, validation
failures and errors, and the publisher reads snapshots). `step` gives the effect of each
one; only the middleware calls `UpdateActiveConnections`.

The gauge is specified for runs in which `Initialize` precedes every request and nobody
calls `Reset` (`InScope`). Along every such run, whatever the interleaving and whichever
handlers panic, the gauge equals the number of requests in flight (`Tracks`), so it is never
negative and the clamp in `UpdateActiveConnections` never fires
(`activeConnections_eq_in_flight`).
-/

namespace RamUsb.EntryHub

open Go

/-- The operations that leave the gauge alone: all but `UpdateActiveConnections` and
`Reset`. -/
def Op.keepsGauge : Op → Bool
  | .updateActiveConnections _ => false
  | .reset => false
  | _ => true

/-- The collector's gauge reads `n`; before `Initialize` there is no gauge, and `n` is `0`. -/
def Tracks : Aggregator → Nat → Prop
  | none, n => n = 0
  | some c, n => c.activeConnections = n

theorem tracks_apply {op : Op} (hop : op.keepsGauge) (agg : Aggregator) (n : Nat) :
    Tracks (op.apply agg) n ↔ Tracks agg n := by
  cases op <;> cases agg <;> simp_all [Op.keepsGauge, Op.apply, Tracks, init, incrementRequest,
    recordRequestDuration, incrementRegistration, incrementValidationFailure, incrementError,
    MetricsCollector.empty, eq_comm]

theorem tracks_run {ops : List Op} (hops : ∀ op ∈ ops, op.keepsGauge) (agg : Aggregator)
    (n : Nat) : Tracks (run agg ops) n ↔ Tracks agg n := by
  induction ops generalizing agg with
  | nil => rfl
  | cons op ops ih =>
    rw [run, List.foldl_cons, ← run, ih (fun o ho => hops o (.tail _ ho)),
      tracks_apply (hops op (.head _))]

namespace Middleware

/-- Where a request is in `MetricsMiddleware`, once its increment has run and while its
deferred decrement has not. -/
inductive Pc where
  /-- In `next(wrapper, r)`. -/
  | serving
  /-- The handler returned; `IncrementRequest` is next. -/
  | counting (status : Int) (durationMs : ℚ)
  /-- `RecordRequestDuration` is next. -/
  | timing (durationMs : ℚ)
  /-- Only the deferred `UpdateActiveConnections(-1)` is left. -/
  | unwinding

/-- A request in flight: the method and path it reports, and its program counter. -/
structure Request where
  method : Str
  path : Str
  pc : Pc

/-- The collector and the requests in flight. -/
structure Sys where
  agg : Aggregator
  inFlight : List Request

/-- One atomic step of the system; `i` is a request's position among those in flight. -/
inductive Action where
  /-- A request enters and calls `UpdateActiveConnections(1)`. -/
  | enter (method path : Str)
  /-- The handler of request `i` returns, having written `status`, after `durationMs`. -/
  | handlerReturns (i : Nat) (status : Int) (durationMs : ℚ)
  /-- The handler of request `i` panics. -/
  | handlerPanics (i : Nat)
  /-- Request `i` calls `IncrementRequest`. -/
  | incrementRequest (i : Nat)
  /-- Request `i` calls `RecordRequestDuration`. -/
  | recordRequestDuration (i : Nat)
  /-- Request `i` runs its deferred `UpdateActiveConnections(-1)` and leaves. -/
  | leave (i : Nat)
  /-- Another caller makes an operation on the collector. -/
  | other (op : Op)

/-- The effect of an action, `none` when it is not enabled. -/
def step (s : Sys) : Action → Option Sys
  | .enter method path =>
    some ⟨updateActiveConnections 1 s.agg, s.inFlight ++ [⟨method, path, .serving⟩]⟩
  | .handlerReturns i status durationMs =>
    match s.inFlight[i]? with
    | some ⟨method, path, .serving⟩ =>
      some ⟨s.agg, s.inFlight.set i ⟨method, path, .counting status durationMs⟩⟩
    | _ => none
  | .handlerPanics i =>
    match s.inFlight[i]? with
    | some ⟨method, path, .serving⟩ => some ⟨s.agg, s.inFlight.set i ⟨method, path, .unwinding⟩⟩
    | _ => none
  | .incrementRequest i =>
    match s.inFlight[i]? with
    | some ⟨method, path, .counting status durationMs⟩ =>
      some ⟨EntryHub.incrementRequest method path status s.agg,
        s.inFlight.set i ⟨method, path, .timing durationMs⟩⟩
    | _ => none
  | .recordRequestDuration i =>
    match s.inFlight[i]? with
    | some ⟨method, path, .timing durationMs⟩ =>
      some ⟨EntryHub.recordRequestDuration durationMs s.agg,
        s.inFlight.set i ⟨method, path, .unwinding⟩⟩
    | _ => none
  | .leave i =>
    match s.inFlight[i]? with
    | some ⟨_, _, .unwinding⟩ =>
      some ⟨updateActiveConnections (-1) s.agg, s.inFlight.eraseIdx i⟩
    | _ => none
  | .other (.updateActiveConnections _) => none
  | .other op => some ⟨op.apply s.agg, s.inFlight⟩

/-- The delta an action passes to `UpdateActiveConnections`, if it calls it. -/
def Action.gaugeDelta : Action → Option Int
  | .enter _ _ => some 1
  | .leave _ => some (-1)
  | _ => none

/-- The runs the gauge is specified for: a request enters only once `Initialize` has built
the collector, and nobody calls `Reset`. -/
def InScope (s : Sys) : Action → Prop
  | .enter _ _ => s.agg.isSome
  | .other .reset => False
  | _ => True

/-- The states of those runs, from the start of the process. -/
inductive Reachable : Sys → Prop
  | init : Reachable ⟨none, []⟩
  | step {s s' : Sys} (a : Action) : Reachable s → InScope s a → step s a = some s' →
      Reachable s'

/-! ### What a step does to the gauge -/

/-- **Inversion.** A step is an entry, which increments the gauge and adds a request; a
departure of a request in flight, which decrements it and removes the request; a `Reset`; or
a run of operations that leave the gauge alone, with as many requests in flight as before. -/
theorem step_cases {s s' : Sys} {a : Action} (h : step s a = some s') :
    (∃ method path, a = .enter method path ∧
      s' = ⟨updateActiveConnections 1 s.agg, s.inFlight ++ [⟨method, path, .serving⟩]⟩) ∨
    (∃ i, a = .leave i ∧ i < s.inFlight.length ∧
      s' = ⟨updateActiveConnections (-1) s.agg, s.inFlight.eraseIdx i⟩) ∨
    (a = .other .reset ∧ s' = ⟨reset s.agg, s.inFlight⟩) ∨
    (a.gaugeDelta = none ∧ ∃ ops : List Op, (∀ op ∈ ops, op.keepsGauge) ∧
      s'.agg = run s.agg ops ∧ s'.inFlight.length = s.inFlight.length) := by
  cases a with
  | enter method path => exact .inl ⟨_, _, rfl, (Option.some.inj h).symm⟩
  | handlerReturns i status durationMs =>
    simp only [step] at h
    split at h
    · cases h; exact .inr (.inr (.inr ⟨rfl, [], by simp, rfl, List.length_set ..⟩))
    · cases h
  | handlerPanics i =>
    simp only [step] at h
    split at h
    · cases h; exact .inr (.inr (.inr ⟨rfl, [], by simp, rfl, List.length_set ..⟩))
    · cases h
  | incrementRequest i =>
    simp only [step] at h
    split at h
    · cases h; exact .inr (.inr (.inr ⟨rfl, [.incrementRequest _ _ _], by simp [Op.keepsGauge],
        rfl, List.length_set ..⟩))
    · cases h
  | recordRequestDuration i =>
    simp only [step] at h
    split at h
    · cases h; exact .inr (.inr (.inr ⟨rfl, [.recordRequestDuration _], by simp [Op.keepsGauge],
        rfl, List.length_set ..⟩))
    · cases h
  | leave i =>
    simp only [step] at h
    split at h
    · cases h
      exact .inr (.inl ⟨i, rfl, (List.getElem?_eq_some_iff.mp ‹_›).1, rfl⟩)
    · cases h
  | other op =>
    have hs' : s' = ⟨op.apply s.agg, s.inFlight⟩ := by cases op <;> simp_all [step]
    have hop : op.keepsGauge ∨ op = .reset := by cases op <;> simp_all [step, Op.keepsGauge]
    rcases hop with hop | rfl
    · exact .inr (.inr (.inr ⟨rfl, [op], by simpa using hop, by rw [hs']; rfl, by rw [hs']⟩))
    · exact .inr (.inr (.inl ⟨rfl, hs'⟩))

/-! ### The gauge along a run -/

/-- **Step.** An action in scope keeps the gauge equal to the number of requests in
flight. -/
theorem tracks_step {s s' : Sys} {a : Action} (hin : InScope s a) (h : step s a = some s')
    (ht : Tracks s.agg s.inFlight.length) : Tracks s'.agg s'.inFlight.length := by
  rcases step_cases h with ⟨m, p, rfl, rfl⟩ | ⟨i, rfl, hi, rfl⟩ | ⟨rfl, -⟩ |
    ⟨-, ops, hops, hagg, hlen⟩
  · -- an entry: `Initialize` has built the collector
    obtain ⟨c, hc⟩ := Option.isSome_iff_exists.mp hin
    simp only [hc, Tracks] at ht
    simp [hc, Tracks, updateActiveConnections]
    omega
  · -- a departure: the request was counted when it entered
    cases hc : s.agg with
    | none => simp only [hc, Tracks] at ht; omega
    | some c =>
      simp only [hc, Tracks] at ht
      simp [Tracks, updateActiveConnections, List.length_eraseIdx, hi]
      omega
  · exact hin.elim
  · rw [hagg, hlen, tracks_run hops]
    exact ht

/-- **The clamp never fires.** When the gauge counts the requests in flight, an action in
scope that calls `UpdateActiveConnections(δ)` finds the collector built and the gauge at
least `-δ`, so the call adds `δ` and nothing else. -/
theorem gaugeDelta_step {s s' : Sys} {a : Action} {δ : Int} (hin : InScope s a)
    (h : step s a = some s') (ht : Tracks s.agg s.inFlight.length) (hδ : a.gaugeDelta = some δ) :
    ∃ c, s.agg = some c ∧ 0 ≤ c.activeConnections + δ ∧
      s'.agg = some { c with activeConnections := c.activeConnections + δ } := by
  rcases step_cases h with ⟨m, p, rfl, rfl⟩ | ⟨i, rfl, hi, rfl⟩ | ⟨rfl, -⟩ | ⟨hnone, -⟩
  · obtain rfl : δ = 1 := (Option.some.inj hδ).symm
    obtain ⟨c, hc⟩ := Option.isSome_iff_exists.mp hin
    simp only [hc, Tracks] at ht
    have hnn : 0 ≤ c.activeConnections + 1 := by omega
    refine ⟨c, hc, hnn, ?_⟩
    simp only [hc, updateActiveConnections, Option.map_some', if_neg (not_lt.mpr hnn)]
  · obtain rfl : δ = -1 := (Option.some.inj hδ).symm
    cases hc : s.agg with
    | none => simp only [hc, Tracks] at ht; omega
    | some c =>
      simp only [hc, Tracks] at ht
      have hnn : 0 ≤ c.activeConnections + -1 := by omega
      refine ⟨c, rfl, hnn, ?_⟩
      simp only [updateActiveConnections, Option.map_some', if_neg (not_lt.mpr hnn)]
  · cases hδ
  · rw [hnone] at hδ
    cases hδ

/-- **Run.** In every reachable state the gauge counts the requests in flight. -/
theorem Reachable.tracks {s : Sys} (h : Reachable s) : Tracks s.agg s.inFlight.length := by
  induction h with
  | init => rfl
  | step _ _ hin hstep ih => exact tracks_step hin hstep ih

/-- **The gauge tracks the requests in flight.** In every state of a run in which
`Initialize` precedes every request and `Reset` is not called, whatever the interleaving and
whichever handlers panic, `activeConnections` is the number of requests that have entered
`MetricsMiddleware` and not left it, so it is never negative; and the next step's call of
`UpdateActiveConnections(δ)`, if it makes one, finds the gauge at least `-δ` and adds `δ`:
its clamp to `0` never fires. -/
theorem activeConnections_eq_in_flight {s : Sys} (hs : Reachable s) :
    (∀ c, s.agg = some c → c.activeConnections = s.inFlight.length ∧ 0 ≤ c.activeConnections) ∧
    ∀ a s' δ, InScope s a → step s a = some s' → a.gaugeDelta = some δ →
      ∃ c, s.agg = some c ∧ 0 ≤ c.activeConnections + δ ∧
        s'.agg = some { c with activeConnections := c.activeConnections + δ } := by
  have ht := hs.tracks
  refine ⟨fun c hc => ?_, fun a s' δ hin h hδ => gaugeDelta_step hin h ht hδ⟩
  simp only [hc, Tracks] at ht
  omega

/-- After `Initialize` and the entry of one request, the gauge is `1`. -/
theorem activeConnections_one_request :
    let s : Sys := ⟨some { MetricsCollector.empty with activeConnections := 1 },
      [⟨lit "POST", lit "/api/register", .serving⟩]⟩
    Reachable s ∧
      ((∀ c, s.agg = some c → c.activeConnections = s.inFlight.length ∧
          0 ≤ c.activeConnections) ∧
        ∀ a s' δ, InScope s a → step s a = some s' → a.gaugeDelta = some δ →
          ∃ c, s.agg = some c ∧ 0 ≤ c.activeConnections + δ ∧
            s'.agg = some { c with activeConnections := c.activeConnections + δ }) := by
  intro s
  have h₁ : Reachable ⟨some .empty, []⟩ := .step (.other .init) .init trivial rfl
  have hs : Reachable s := .step (.enter (lit "POST") (lit "/api/register")) h₁ rfl rfl
  exact ⟨hs, activeConnections_eq_in_flight hs⟩

end Middleware

end RamUsb.EntryHub
