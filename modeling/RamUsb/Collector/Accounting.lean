import RamUsb.Collector.Subscriber
import RamUsb.Collector.Storage
import Mathlib.Algebra.Order.Field.Rat
import Mathlib.Algebra.Order.BigOperators.Group.List
import Mathlib.Tactic.Linarith
import Mathlib.Tactic.Positivity

/-!
# Message accounting under concurrent handlers

The MQTT client runs `messageHandler` for each message on goroutines of its own, so the
handlers of many messages interleave with each other and with `GetStatistics` calls from
the admin API. `State` is the shared state of the live (`V2`) collector: the subscriber's
counters, the storage instance, the handler goroutines with the effects each has yet to
perform, and the `GetStatistics` calls inside `counterMutex.RLock`.

`Step` is one atomic action of one goroutine:

* `arrive`: a message arrives and its handler starts, with the effects of
  `V2.messageHandler` to perform;
* `perform`: a handler performs its next effect. An `incrementCounter` takes
  `counterMutex.Lock`, so it waits while a `GetStatistics` call holds the read lock;
  `storage.StoreMetric` runs under the storage's own lock;
* `rlock`: a `GetStatistics` call takes the read lock and reads the received and rejected
  counters;
* `runlock`: it reads the storage's stored count, releases the lock and returns
  `snapshot`.

The ghost `storeErrors` counts the `StoreMetric` calls that returned an error.

`AccountingInv` is kept by every step (`Step.inv`) and holds from the start, so it holds in
every reachable state (`Reachable.inv`). Its `balance` field is a conservation law: the
received count plus the `received` increments still owed by the handlers equals the
rejected, stored and failed counts plus the outcomes still owed. A handler owes its outcome
from its `received` increment on (`owedReceived_le_owedOutcomes`), so the main result
`getStatistics_snapshot` follows: every snapshot has `rejected + stored ≤ received`, the
difference is the number of failed `StoreMetric` calls once no handler is in flight, and the
rates `StatsHandler` computes from it are at most 100%.

The subscriber's counters are Go `uint64`s; they are `Nat` here, which differs only after
`2^64` messages.
-/

namespace RamUsb.Collector

open Go Storage

/-- A live `messageHandler` goroutine: what its `executeInsert` calls return, its clock, and
the effects it has yet to perform. -/
structure Handler where
  insert : Nat → Except Str Unit
  now : Int
  pending : List Effect

/-- The shared state of the live collector. -/
structure State where
  metricsReceived : Nat
  metricsRejected : Nat
  metricsStored : Nat
  storage : Option TimescaleDBStorage
  handlers : List Handler
  readers : List (Nat × Nat)
  storeErrors : Nat

namespace State

/-- The collector once `InitializeTimescaleDB` has run: with an instance holding `rows` when
it connected, without one when it failed. -/
def init (rows : Option (List StoredMetric)) : State where
  metricsReceived := 0
  metricsRejected := 0
  metricsStored := 0
  storage := rows.map fun rs => ⟨rs, 0, 0⟩
  handlers := []
  readers := []
  storeErrors := 0

/-- `incrementCounter(&c)`. -/
def incrementCounter (s : State) : Counter → State
  | .received => { s with metricsReceived := s.metricsReceived + 1 }
  | .rejected => { s with metricsRejected := s.metricsRejected + 1 }
  | .stored => { s with metricsStored := s.metricsStored + 1 }

/-- Handler `h` performs effect `e`: a counter increment, a log line, or `storage.StoreMetric`. -/
def perform (h : Handler) (s : State) : Effect → State
  | .incrementCounter c => s.incrementCounter c
  | .log _ => s
  | .storeMetric m =>
    { s with
      storage := (storeMetric h.insert h.now m s.storage).2
      storeErrors := s.storeErrors + errorCount (storeMetric h.insert h.now m s.storage).1 }

/-- An effect can run: `incrementCounter` needs `counterMutex.Lock`, free of readers. -/
def Enabled (s : State) : Effect → Prop
  | .incrementCounter _ => s.readers = []
  | _ => True

/-- What a `GetStatistics` call that read `rj` under the lock returns in state `s`:
received, rejected, and the storage's stored count. -/
def snapshot (s : State) (rj : Nat × Nat) : Nat × Nat × Nat :=
  (rj.1, rj.2, storedCount s.storage)

@[simp] theorem perform_handlers (h : Handler) (s : State) (e : Effect) :
    (s.perform h e).handlers = s.handlers := by
  cases e with
  | incrementCounter c => cases c <;> rfl
  | log _ => rfl
  | storeMetric _ => rfl

@[simp] theorem perform_readers (h : Handler) (s : State) (e : Effect) :
    (s.perform h e).readers = s.readers := by
  cases e with
  | incrementCounter c => cases c <;> rfl
  | log _ => rfl
  | storeMetric _ => rfl

end State

open State

/-- One atomic action of one goroutine of the collector. -/
inductive Step : State → State → Prop
  | arrive (s : State) (env : Env) (insert : Nat → Except Str Unit) (msg : Message) :
      Step s { s with handlers := s.handlers ++ [⟨insert, env.now, V2.messageHandler env msg⟩] }
  | perform (s : State) (pre post : List Handler) (h : Handler) (e : Effect)
      (rest : List Effect) :
      s.handlers = pre ++ h :: post → h.pending = e :: rest → s.Enabled e →
      Step s { s.perform h e with handlers := pre ++ { h with pending := rest } :: post }
  | rlock (s : State) :
      Step s { s with readers := s.readers ++ [(s.metricsReceived, s.metricsRejected)] }
  | runlock (s : State) (pre post : List (Nat × Nat)) (rj : Nat × Nat) :
      s.readers = pre ++ rj :: post → Step s { s with readers := pre ++ post }

/-- The states the collector reaches from its start by any interleaving of steps. -/
inductive Reachable : State → Prop
  | init (rows : Option (List StoredMetric)) : Reachable (State.init rows)
  | step {s s' : State} : Reachable s → Step s s' → Reachable s'

/-! ### What a handler still owes -/

/-- An effect that settles a received message: its `rejected` increment or its
`StoreMetric` call. -/
def Effect.settles : Effect → Bool
  | .incrementCounter .rejected => true
  | .storeMetric _ => true
  | _ => false

/-- The `received` increments still to perform in `l`. -/
def owedReceived (l : List Effect) : Nat := l.count (.incrementCounter .received)

/-- The settling effects still to perform in `l`. -/
def owedOutcomes (l : List Effect) : Nat := l.countP Effect.settles

/-- A handler between its `received` increment and the effect that settles its message. -/
def Handler.InFlight (h : Handler) : Prop := owedReceived h.pending < owedOutcomes h.pending

/-- After its `received` increment, a run of the live handler has exactly one settling
effect and no other `received` increment. -/
theorem messageHandler_tail_owed (env : Env) (msg : Message) :
    ∃ rest, V2.messageHandler env msg = .incrementCounter .received :: rest ∧
      owedReceived rest = 0 ∧ owedOutcomes rest = 1 := by
  refine ⟨_, rfl, ?_⟩
  rcases V2.checkMessage env msg with line | ⟨sn, m⟩
  · simp [reject, owedReceived, owedOutcomes, Effect.settles]
  · cases env.storeResult <;> simp [owedReceived, owedOutcomes, Effect.settles]

theorem messageHandler_owed (env : Env) (msg : Message) :
    owedReceived (V2.messageHandler env msg) = 1 ∧
      owedOutcomes (V2.messageHandler env msg) = 1 := by
  obtain ⟨rest, he, h1, h2⟩ := messageHandler_tail_owed env msg
  rw [he]
  simp [owedReceived, owedOutcomes, Effect.settles] at h1 h2 ⊢
  exact ⟨h1, h2⟩

/-- What is left of a handler's run owes its outcome whenever it owes nothing more to
`received`. -/
theorem owedReceived_le_owedOutcomes {l : List Effect} {env : Env} {msg : Message}
    (hl : l <:+ V2.messageHandler env msg) : owedReceived l ≤ owedOutcomes l := by
  obtain ⟨rest, he, h1, -⟩ := messageHandler_tail_owed env msg
  rw [he, List.suffix_cons_iff] at hl
  rcases hl with rfl | hl
  · rw [← he, (messageHandler_owed env msg).1, (messageHandler_owed env msg).2]
  · have : owedReceived l ≤ owedReceived rest := hl.count_le _
    omega

/-- Performing an effect moves what it owed into the counters. -/
theorem perform_counts (h : Handler) (s : State) (e : Effect) :
    (s.perform h e).metricsReceived = s.metricsReceived + owedReceived [e] ∧
      (s.perform h e).metricsRejected + storedCount (s.perform h e).storage +
          (s.perform h e).storeErrors =
        s.metricsRejected + storedCount s.storage + s.storeErrors + owedOutcomes [e] := by
  cases e with
  | incrementCounter c =>
    cases c <;> simp [perform, incrementCounter, owedReceived, owedOutcomes, Effect.settles]
    omega
  | log _ => simp [perform, owedReceived, owedOutcomes, Effect.settles]
  | storeMetric m =>
    have := storedCount_storeMetric h.insert h.now m s.storage
    simp [perform, owedReceived, owedOutcomes, Effect.settles]
    omega

/-! ### The invariant -/

/-- The invariant of the live collector's accounting. -/
structure AccountingInv (s : State) : Prop where
  /-- Received plus still-owed increments balance the outcomes plus still-owed outcomes. -/
  balance : s.metricsReceived + (s.handlers.map fun h => owedReceived h.pending).sum =
    s.metricsRejected + storedCount s.storage + s.storeErrors +
      (s.handlers.map fun h => owedOutcomes h.pending).sum
  /-- Every handler is part way through a run of the live `messageHandler`. -/
  traces : ∀ h ∈ s.handlers, ∃ env msg, h.pending <:+ V2.messageHandler env msg
  /-- A `GetStatistics` call holding the read lock read the current counters. -/
  readers : ∀ rj ∈ s.readers, rj = (s.metricsReceived, s.metricsRejected)

theorem AccountingInv.init (rows : Option (List StoredMetric)) :
    AccountingInv (State.init rows) where
  balance := by cases rows <;> rfl
  traces := nofun
  readers := nofun

theorem AccountingInv.arrive {s : State} (hi : AccountingInv s) (env : Env)
    (insert : Nat → Except Str Unit) (msg : Message) :
    AccountingInv { s with handlers := s.handlers ++ [⟨insert, env.now, V2.messageHandler env msg⟩] }
    where
  balance := by
    have := hi.balance
    simp only [List.map_append, List.sum_append, List.map_cons, List.map_nil, List.sum_cons,
      List.sum_nil, (messageHandler_owed env msg).1, (messageHandler_owed env msg).2]
    omega
  traces h hh := by
    rcases List.mem_append.mp hh with hh | hh
    · exact hi.traces h hh
    · rw [List.mem_singleton.mp hh]; exact ⟨env, msg, List.suffix_refl _⟩
  readers := hi.readers

theorem AccountingInv.perform {s : State} (hi : AccountingInv s) {pre post : List Handler}
    {h : Handler} {e : Effect} {rest : List Effect} (hs : s.handlers = pre ++ h :: post)
    (hh : h.pending = e :: rest) (he : s.Enabled e) :
    AccountingInv { s.perform h e with handlers := pre ++ { h with pending := rest } :: post }
    where
  balance := by
    have hb := hi.balance
    obtain ⟨h1, h2⟩ := perform_counts h s e
    have hr : owedReceived (e :: rest) = owedReceived [e] + owedReceived rest := by
      simp [owedReceived, List.count_cons]; omega
    have ho : owedOutcomes (e :: rest) = owedOutcomes [e] + owedOutcomes rest := by
      simp [owedOutcomes, List.countP_cons]; omega
    rw [hs] at hb
    simp only [List.map_append, List.map_cons, List.sum_append, List.sum_cons, hh, hr, ho] at hb ⊢
    omega
  traces h' hh' := by
    dsimp only at hh'
    simp only [List.mem_append, List.mem_cons] at hh'
    rcases hh' with hh' | rfl | hh'
    · exact hi.traces h' (by rw [hs]; simp [hh'])
    · obtain ⟨env, msg, hsuf⟩ := hi.traces h (by rw [hs]; simp)
      rw [hh] at hsuf
      exact ⟨env, msg, (List.suffix_cons e rest).trans hsuf⟩
    · exact hi.traces h' (by rw [hs]; simp [hh'])
  readers rj hrj := by
    simp only [perform_readers] at hrj
    cases e with
    | incrementCounter c => simp [Enabled] at he; simp [he] at hrj
    | log _ => exact hi.readers rj hrj
    | storeMetric _ => exact hi.readers rj hrj

/-- Every step keeps the invariant. -/
theorem Step.inv {s s' : State} (hstep : Step s s') (hi : AccountingInv s) :
    AccountingInv s' := by
  cases hstep with
  | arrive env insert msg => exact hi.arrive env insert msg
  | perform pre post h e rest hs hh he => exact hi.perform hs hh he
  | rlock =>
    exact { hi with
      readers := fun rj hrj => by
        rcases List.mem_append.mp hrj with hrj | hrj
        · exact hi.readers rj hrj
        · exact List.mem_singleton.mp hrj }
  | runlock pre post rj hs =>
    exact { hi with
      readers := fun rj' hrj' => hi.readers rj' (by rw [hs]; simp at hrj' ⊢; tauto) }

/-- The invariant holds in every reachable state. -/
theorem Reachable.inv {s : State} (hs : Reachable s) : AccountingInv s := by
  induction hs with
  | init rows => exact AccountingInv.init rows
  | step _ hstep ih => exact hstep.inv ih

/-! ### Snapshots -/

/-- The handlers' owed outcomes exceed their owed increments by the number in flight. -/
theorem owed_sum_le {s : State} (hi : AccountingInv s) :
    (s.handlers.map fun h => owedReceived h.pending).sum ≤
      (s.handlers.map fun h => owedOutcomes h.pending).sum := by
  apply List.sum_le_sum
  intro h hh
  obtain ⟨env, msg, hsuf⟩ := hi.traces h hh
  exact owedReceived_le_owedOutcomes hsuf

theorem owed_sum_eq {s : State} (hi : AccountingInv s)
    (hidle : ∀ h ∈ s.handlers, ¬ h.InFlight) :
    (s.handlers.map fun h => owedReceived h.pending).sum =
      (s.handlers.map fun h => owedOutcomes h.pending).sum := by
  apply congrArg List.sum (List.map_congr_left fun h hh => ?_)
  obtain ⟨env, msg, hsuf⟩ := hi.traces h hh
  have := owedReceived_le_owedOutcomes hsuf
  have := hidle h hh
  simp only [Handler.InFlight, not_lt] at this
  omega

/-- The rates `StatsHandler` reports for a snapshot, in percent: rejection and storage,
when anything was received. -/
def statsRates (snap : Nat × Nat × Nat) : Option (ℚ × ℚ) :=
  if 0 < snap.1 then some ((snap.2.1 : ℚ) / snap.1 * 100, (snap.2.2 : ℚ) / snap.1 * 100)
  else none

theorem percent_le_hundred {a b : Nat} (h : a ≤ b) : (a : ℚ) / b * 100 ≤ 100 := by
  have : (a : ℚ) / b ≤ 1 := div_le_one_of_le₀ (by exact_mod_cast h) (by positivity)
  linarith

/-- **Collector message accounting.** In every state reachable by any interleaving of
handlers and `GetStatistics` calls, the snapshot `(received, rejected, stored)` a
`GetStatistics` call returns has `rejected + stored ≤ received`; when no handler is in
flight, `received - rejected - stored` is the number of `storage.StoreMetric` calls that
returned an error; and both rates `StatsHandler` derives from it are at most 100%. -/
theorem getStatistics_snapshot {s : State} (hs : Reachable s) {rj : Nat × Nat}
    (hrj : rj ∈ s.readers) :
    (s.snapshot rj).2.1 + (s.snapshot rj).2.2 ≤ (s.snapshot rj).1 ∧
      ((∀ h ∈ s.handlers, ¬ h.InFlight) →
        (s.snapshot rj).1 - (s.snapshot rj).2.1 - (s.snapshot rj).2.2 = s.storeErrors) ∧
      ∀ rates ∈ statsRates (s.snapshot rj), rates.1 ≤ 100 ∧ rates.2 ≤ 100 := by
  have hi := hs.inv
  have hb := hi.balance
  have hle := owed_sum_le hi
  obtain rfl := hi.readers rj hrj
  simp only [snapshot]
  refine ⟨by omega, fun hidle => ?_, fun rates hrates => ?_⟩
  · have := owed_sum_eq hi hidle
    omega
  · simp only [statsRates, Option.mem_def] at hrates
    split at hrates
    · cases hrates
      exact ⟨percent_le_hundred (by omega), percent_le_hundred (by omega)⟩
    · cases hrates

/-! ### A run with a handler in flight -/

/-- A request counter the Entry-Hub publishes. -/
def probeMetric : Metric :=
  ⟨lit "entry-hub", 1700000000, lit "requests_total", 1, .empty, lit "counter"⟩

/-- Its payload decodes to `probeMetric`, the clock reads its timestamp, and the store
returns `nil`. -/
def probeEnv : Env := ⟨fun _ => .ok probeMetric, 1700000000, .ok ()⟩

/-- The message that carries it. -/
def probeMessage : Message := ⟨lit "metrics/entry-hub", lit "{}"⟩

/-- A handler of `probeMessage` whose inserts commit, with `pending` still to perform. -/
def probeHandler (pending : List Effect) : Handler := ⟨fun _ => .ok (), 1700000000, pending⟩

theorem messageHandler_probe :
    V2.messageHandler probeEnv probeMessage =
      [.incrementCounter .received, .storeMetric probeMetric] :=
  rfl

/-- Two probe messages arrived; the first is stored, the second has counted itself received
and is about to call `StoreMetric`, and a `GetStatistics` call holds the read lock. -/
def busyCollector : State :=
  ⟨2, 0, 0, some ⟨[toStored probeMetric 1700000000], 1, 0⟩,
    [probeHandler [], probeHandler [.storeMetric probeMetric]], [(2, 0)], 0⟩

/-- The same run once the second handler has stored its metric, the reader still holding the
lock. -/
def settledCollector : State :=
  ⟨2, 0, 0, some ⟨[toStored probeMetric 1700000000, toStored probeMetric 1700000000], 2, 0⟩,
    [probeHandler [], probeHandler []], [(2, 0)], 0⟩

theorem probe_reachable : Reachable busyCollector ∧ Reachable settledCollector := by
  have h₁ :=
    Reachable.step (.init (some [])) (Step.arrive _ probeEnv (fun _ => .ok ()) probeMessage)
  rw [messageHandler_probe] at h₁
  have h₂ := (h₁.step (Step.perform _ [] [] _ _ _ rfl rfl rfl)).step
    (Step.perform _ [] [] _ _ _ rfl rfl trivial)
  have h₃ := h₂.step (Step.arrive _ probeEnv (fun _ => .ok ()) probeMessage)
  rw [messageHandler_probe] at h₃
  have h₄ := (h₃.step (Step.perform _ [probeHandler []] [] _ _ _ rfl rfl rfl)).step (Step.rlock _)
  have h₅ := h₄.step (Step.perform _ [probeHandler []] [] _ _ _ rfl rfl trivial)
  exact ⟨h₄, h₅⟩

theorem getStatistics_snapshot_busy :
    (probeHandler [.storeMetric probeMetric] ∈ busyCollector.handlers ∧
        (probeHandler [.storeMetric probeMetric]).InFlight) ∧
      busyCollector.snapshot (2, 0) = (2, 0, 1) ∧
      ((busyCollector.snapshot (2, 0)).2.1 + (busyCollector.snapshot (2, 0)).2.2 ≤
          (busyCollector.snapshot (2, 0)).1 ∧
        ((∀ h ∈ busyCollector.handlers, ¬ h.InFlight) →
          (busyCollector.snapshot (2, 0)).1 - (busyCollector.snapshot (2, 0)).2.1 -
            (busyCollector.snapshot (2, 0)).2.2 = busyCollector.storeErrors) ∧
        ∀ rates ∈ statsRates (busyCollector.snapshot (2, 0)), rates.1 ≤ 100 ∧ rates.2 ≤ 100) ∧
      settledCollector.snapshot (2, 0) = (2, 0, 2) ∧
      (settledCollector.snapshot (2, 0)).1 - (settledCollector.snapshot (2, 0)).2.1 -
        (settledCollector.snapshot (2, 0)).2.2 = settledCollector.storeErrors :=
  ⟨⟨by simp [busyCollector], by unfold Handler.InFlight; decide⟩, rfl,
    getStatistics_snapshot probe_reachable.1 (by simp [busyCollector]), rfl,
    (getStatistics_snapshot probe_reachable.2 (by simp [settledCollector])).2.1
      (by simp [settledCollector, probeHandler, Handler.InFlight, owedReceived, owedOutcomes])⟩

end RamUsb.Collector
