import Mathlib.Algebra.Order.BigOperators.Group.List
import Mathlib.Algebra.Order.Group.Nat

/-!
# The Batch Span Processor

The SDK's `BatchSpanProcessor` stands between the spans an application ends and an
exporter. `OnEnd` puts a finished span on a bounded FIFO queue; when the queue is full the
span is dropped or, with the blocking option, the caller waits for room. A background task
wakes on each tick of its schedule, or on a forced flush, and drains the queue in batches of
at most the maximum export batch size, one `ExportSpans` call per batch, until the queue is
empty. `Shutdown` stops the schedule and drains what is queued one last time.

The processor's code is not among the sources; its test is (`batch_span_processor_test.go`).
Every definition here follows the processor's specification, and its docstring says so.
The producers and the background task run concurrently. Each of their actions is one
`Event`, and a run is any interleaving of them: a producer whose span waits for room makes
no event until the span is queued, so `OnEnd` on a full queue under the blocking option is
not enabled (`none`). The exporter's record of its `ExportSpans` calls, one batch each, is
part of the state (`exported`), as the test's exporter keeps it.

## Main results

* `Invariant.run` and `newBatchSpanProcessor_run`: along every run of a new processor the
  queue stays within its bound, every batch is non-empty and within the batch size, a stopped
  processor holds nothing, and the spans exported so far, followed by those queued, are the
  spans produced with some dropped, in the order produced: none is duplicated, reordered or
  invented (`outbox_run`).
* `outbox_run_blocking`: with the blocking option, no span is dropped before shutdown.
* `run_onEnds`: under the dropping policy a burst of spans keeps its head and drops its tail.
* `run_shutdown`: shutdown exports everything queued, in order, and stops the processor.
* `run_stopped`: a stopped processor stays as it is, whatever happens next.
* `newBatchSpanProcessor_run_exportCalls`: the spans exported so far took at least
  ⌈spans / batch size⌉ `ExportSpans` calls.
-/

namespace OtelGo

/-! ### Options and state -/

/-- Modelled from the spec: `BatchSpanProcessorOptions`. The schedule delay only times the
ticks, which the model takes as events, so it is not recorded. A batch holds at least one
span. -/
structure BatchSpanProcessorOptions where
  maxQueueSize : Nat
  maxExportBatchSize : Nat
  blockOnQueueFull : Bool
  maxExportBatchSize_pos : 0 < maxExportBatchSize

/-- Modelled from the spec: the defaults, a queue of 2048 spans and batches of 512, dropping
on overflow. -/
def defaultBatchSpanProcessorOptions : BatchSpanProcessorOptions := ⟨2048, 512, false, by decide⟩

/-- Modelled from the spec: `BatchSpanProcessorOption`, a change to the options. -/
abbrev BatchSpanProcessorOption := BatchSpanProcessorOptions → BatchSpanProcessorOptions

/-- Modelled from the spec: `WithMaxQueueSize`. -/
def withMaxQueueSize (size : Nat) : BatchSpanProcessorOption :=
  fun o => { o with maxQueueSize := size }

/-- Modelled from the spec: `WithMaxExportBatchSize`, for a positive size. -/
def withMaxExportBatchSize (size : Nat) (hsize : 0 < size) : BatchSpanProcessorOption :=
  fun o => { o with maxExportBatchSize := size, maxExportBatchSize_pos := hsize }

/-- Modelled from the spec: `WithBlocking`. -/
def withBlocking : BatchSpanProcessorOption := fun o => { o with blockOnQueueFull := true }

/-- Modelled from the spec: the life of a processor. Construction starts the background
task, so a new processor is running; shutdown drains, then stops. -/
inductive ProcessorPhase
  | running
  | shuttingDown
  | stopped
  deriving DecidableEq, Repr

/-- Modelled from the spec: a batch span processor over spans of type `σ`, with the
exporter's record of the batches it was handed. `draining` is set while the background task
empties the queue. -/
structure BatchSpanProcessor (σ : Type) where
  options : BatchSpanProcessorOptions
  queue : List σ
  draining : Bool
  phase : ProcessorPhase
  exported : List (List σ)

/-- Modelled from the spec: the error of `NewBatchSpanProcessor` without an exporter. -/
inductive BatchSpanProcessorError
  | nilExporter
  deriving DecidableEq, Repr

/-- Modelled from the spec: `NewBatchSpanProcessor(exporter, options...)`: an error without
an exporter, and otherwise a running processor with an empty queue, whose options are the
defaults changed by each option in turn. -/
def newBatchSpanProcessor {σ ε : Type} (exporter : Option ε) (opts : List BatchSpanProcessorOption) :
    Except BatchSpanProcessorError (BatchSpanProcessor σ) :=
  match exporter with
  | none => .error .nilExporter
  | some _ =>
    .ok ⟨opts.foldl (fun o opt => opt o) defaultBatchSpanProcessorOptions, [], false, .running, []⟩

/-- Modelled from the spec: what the producers and the background task do. -/
inductive Event (σ : Type)
  | onEnd (s : σ)
  | tick
  | exportBatch
  | shutdown

/-- The spans the events of a run hand to `OnEnd`, in order. -/
def Event.produced {σ : Type} (evs : List (Event σ)) : List σ :=
  evs.filterMap fun
    | .onEnd s => some s
    | _ => none

namespace BatchSpanProcessor

variable {σ : Type}

/-! ### The actions -/

/-- Modelled from the spec: `OnEnd`. A running processor queues the span when there is room;
on a full queue it drops the span or, with the blocking option, the caller waits (`none`).
Once shutdown has begun, the span is discarded. -/
def onEnd (p : BatchSpanProcessor σ) (s : σ) : Option (BatchSpanProcessor σ) :=
  if p.phase ≠ .running then some p
  else if p.queue.length < p.options.maxQueueSize then some { p with queue := p.queue ++ [s] }
  else if p.options.blockOnQueueFull then none
  else some p

/-- Modelled from the spec: a tick of the schedule, or a forced flush. A running processor
with spans queued starts draining; with an empty queue no export is made. -/
def tick (p : BatchSpanProcessor σ) : BatchSpanProcessor σ :=
  if p.phase = .running ∧ p.queue.isEmpty = false then { p with draining := true } else p

/-- Modelled from the spec: the end of a drain, which stops a processor that is shutting
down. -/
def endDrain (p : BatchSpanProcessor σ) : BatchSpanProcessor σ :=
  { p with draining := false, phase := if p.phase = .shuttingDown then .stopped else p.phase }

/-- Modelled from the spec: one round of a drain. The oldest spans, up to the batch size, go
to the exporter in one `ExportSpans` call; the drain ends when the queue is empty. -/
def exportBatch (p : BatchSpanProcessor σ) : Option (BatchSpanProcessor σ) :=
  if p.draining then
    let rest := p.queue.drop p.options.maxExportBatchSize
    let p' := { p with
      queue := rest, exported := p.exported ++ [p.queue.take p.options.maxExportBatchSize] }
    some (if rest.isEmpty then p'.endDrain else p')
  else none

/-- Modelled from the spec: `Shutdown`. A running processor stops its schedule and drains
what is queued one last time, stopping at once when nothing is; a second call does nothing. -/
def shutdown (p : BatchSpanProcessor σ) : BatchSpanProcessor σ :=
  match p.phase with
  | .running =>
    if p.queue.isEmpty then { p with phase := .stopped, draining := false }
    else { p with phase := .shuttingDown, draining := true }
  | _ => p

/-- One event; `none` when it is not enabled. -/
def step (p : BatchSpanProcessor σ) : Event σ → Option (BatchSpanProcessor σ)
  | .onEnd s => p.onEnd s
  | .tick => some p.tick
  | .exportBatch => p.exportBatch
  | .shutdown => some p.shutdown

/-- A run: the events in turn, each enabled when it happens. -/
def run (p : BatchSpanProcessor σ) (evs : List (Event σ)) : Option (BatchSpanProcessor σ) :=
  evs.foldlM step p

/-- The spans handed to the exporter so far, followed by the spans queued. -/
def outbox (p : BatchSpanProcessor σ) : List σ := p.exported.flatten ++ p.queue

@[simp] theorem run_nil (p : BatchSpanProcessor σ) : p.run [] = some p := rfl

theorem run_cons (p : BatchSpanProcessor σ) (e : Event σ) (evs : List (Event σ)) :
    p.run (e :: evs) = (p.step e).bind (·.run evs) := rfl

theorem produced_cons (e : Event σ) (evs : List (Event σ)) :
    Event.produced (e :: evs) = Event.produced [e] ++ Event.produced evs := by
  cases e <;> rfl

@[simp] theorem options_tick (p : BatchSpanProcessor σ) : p.tick.options = p.options := by
  unfold tick; split_ifs <;> rfl

@[simp] theorem queue_tick (p : BatchSpanProcessor σ) : p.tick.queue = p.queue := by
  unfold tick; split_ifs <;> rfl

@[simp] theorem exported_tick (p : BatchSpanProcessor σ) : p.tick.exported = p.exported := by
  unfold tick; split_ifs <;> rfl

@[simp] theorem phase_tick (p : BatchSpanProcessor σ) : p.tick.phase = p.phase := by
  unfold tick; split_ifs <;> rfl

@[simp] theorem options_shutdown (p : BatchSpanProcessor σ) :
    p.shutdown.options = p.options := by
  unfold shutdown; split <;> (try split_ifs) <;> rfl

@[simp] theorem queue_shutdown (p : BatchSpanProcessor σ) : p.shutdown.queue = p.queue := by
  unfold shutdown; split <;> (try split_ifs) <;> rfl

@[simp] theorem exported_shutdown (p : BatchSpanProcessor σ) :
    p.shutdown.exported = p.exported := by
  unfold shutdown; split <;> (try split_ifs) <;> rfl

/-! ### What one event can do -/

theorem onEnd_eq_some {p p' : BatchSpanProcessor σ} {s : σ} (h : p.onEnd s = some p') :
    (p.phase = .running ∧ p.queue.length < p.options.maxQueueSize ∧
      p' = { p with queue := p.queue ++ [s] }) ∨
    (p' = p ∧ (p.phase = .running → p.options.maxQueueSize ≤ p.queue.length ∧
      p.options.blockOnQueueFull = false)) := by
  unfold onEnd at h
  split_ifs at h with h1 h2 h3 <;> cases h
  · exact .inr ⟨rfl, fun h => absurd h h1⟩
  · exact .inl ⟨not_not.1 h1, h2, rfl⟩
  · exact .inr ⟨rfl, fun _ => ⟨Nat.le_of_not_lt h2, by simpa using h3⟩⟩

/-- `OnEnd` holds up its caller exactly on the full queue of a running processor with the
blocking option. -/
theorem onEnd_eq_none_iff {p : BatchSpanProcessor σ} {s : σ} :
    p.onEnd s = none ↔ p.phase = .running ∧ p.options.maxQueueSize ≤ p.queue.length ∧
      p.options.blockOnQueueFull := by
  unfold onEnd
  split_ifs with h1 h2 h3
  · simp [h1]
  · simp [Nat.not_le.2 h2]
  · simpa using ⟨not_not.1 h1, Nat.le_of_not_lt h2, h3⟩
  · simp [h3]

theorem exportBatch_eq_some {p p' : BatchSpanProcessor σ} (h : p.exportBatch = some p') :
    p.draining ∧ p'.options = p.options ∧
    p'.queue = p.queue.drop p.options.maxExportBatchSize ∧
    p'.exported = p.exported ++ [p.queue.take p.options.maxExportBatchSize] ∧
    (p'.queue = [] → p'.draining = false ∧
      p'.phase = if p.phase = .shuttingDown then .stopped else p.phase) ∧
    (p'.queue ≠ [] → p'.draining = p.draining ∧ p'.phase = p.phase) := by
  unfold exportBatch at h
  split_ifs at h with hd
  cases h
  by_cases hr : p.queue.drop p.options.maxExportBatchSize = []
  · simp [hr, hd, endDrain]
  · simp [hr, hd]

theorem step_options {p p' : BatchSpanProcessor σ} {e : Event σ} (h : p.step e = some p') :
    p'.options = p.options := by
  cases e with
  | onEnd s => rcases onEnd_eq_some h with ⟨-, -, rfl⟩ | ⟨rfl, -⟩ <;> rfl
  | tick => cases h; exact options_tick p
  | exportBatch => exact (exportBatch_eq_some h).2.1
  | shutdown => cases h; exact options_shutdown p

theorem run_options {p p' : BatchSpanProcessor σ} {evs : List (Event σ)}
    (h : p.run evs = some p') : p'.options = p.options := by
  induction evs generalizing p with
  | nil => cases h; rfl
  | cons e evs ih =>
    obtain ⟨q, hq, h⟩ := Option.bind_eq_some.1 h
    exact (ih h).trans (step_options hq)

/-! ### The invariant -/

/-- What holds of a processor in every run: the queue is within its bound, the exporter was
never handed an empty or oversized batch, a drain is on only while spans are queued, a
shutdown's drain is on until the queue is empty, and a stopped processor holds nothing. -/
structure Invariant (p : BatchSpanProcessor σ) : Prop where
  queue_le : p.queue.length ≤ p.options.maxQueueSize
  batch_pos : ∀ b ∈ p.exported, 0 < b.length
  batch_le : ∀ b ∈ p.exported, b.length ≤ p.options.maxExportBatchSize
  draining_queue : p.draining → p.queue ≠ []
  shuttingDown_draining : p.phase = .shuttingDown → p.draining
  stopped_queue : p.phase = .stopped → p.queue = []

theorem Invariant.onEnd {p p' : BatchSpanProcessor σ} {s : σ} (hp : p.Invariant)
    (h : p.onEnd s = some p') : p'.Invariant := by
  rcases onEnd_eq_some h with ⟨hr, hlt, rfl⟩ | ⟨rfl, -⟩
  · exact ⟨by simp; omega, hp.batch_pos, hp.batch_le, by simp, by simp [hr], by simp [hr]⟩
  · exact hp

theorem Invariant.tick {p : BatchSpanProcessor σ} (hp : p.Invariant) : p.tick.Invariant := by
  unfold BatchSpanProcessor.tick
  split_ifs with h
  · exact ⟨hp.queue_le, hp.batch_pos, hp.batch_le, fun _ => by simpa using h.2, fun _ => rfl,
      by simp [h.1]⟩
  · exact hp

theorem Invariant.exportBatch {p p' : BatchSpanProcessor σ} (hp : p.Invariant)
    (h : p.exportBatch = some p') : p'.Invariant := by
  obtain ⟨hd, ho, hq, he, hnil, hcons⟩ := exportBatch_eq_some h
  have hne := hp.draining_queue hd
  have hpos := p.options.maxExportBatchSize_pos
  refine ⟨?_, ?_, ?_, ?_, ?_, ?_⟩
  · rw [ho, hq, List.length_drop]; have := hp.queue_le; omega
  · rw [he]; intro b hb
    rcases List.mem_append.1 hb with hb | hb
    · exact hp.batch_pos b hb
    · rw [List.mem_singleton.1 hb, List.length_take]
      have : 0 < p.queue.length := List.length_pos.2 hne
      omega
  · rw [he, ho]; intro b hb
    rcases List.mem_append.1 hb with hb | hb
    · exact hp.batch_le b hb
    · rw [List.mem_singleton.1 hb, List.length_take]; omega
  all_goals by_cases hr : p'.queue = []
  · simp [(hnil hr).1]
  · rw [(hcons hr).1]; exact fun _ => hr
  · rw [(hnil hr).2]; split_ifs <;> simp_all
  · rw [(hcons hr).2, (hcons hr).1]; exact fun _ => hd
  · exact fun _ => hr
  · rw [(hcons hr).2]; intro hs; exact absurd (hp.stopped_queue hs) hne

theorem Invariant.shutdown {p : BatchSpanProcessor σ} (hp : p.Invariant) :
    p.shutdown.Invariant := by
  unfold BatchSpanProcessor.shutdown
  split
  · split_ifs with hq
    · exact ⟨hp.queue_le, hp.batch_pos, hp.batch_le, by simp, by simp, fun _ => by simpa using hq⟩
    · exact ⟨hp.queue_le, hp.batch_pos, hp.batch_le, fun _ => by simpa using hq, fun _ => rfl,
        by simp⟩
  all_goals exact hp

theorem Invariant.step {p p' : BatchSpanProcessor σ} {e : Event σ} (hp : p.Invariant)
    (h : p.step e = some p') : p'.Invariant := by
  cases e with
  | onEnd s => exact hp.onEnd h
  | tick => cases h; exact hp.tick
  | exportBatch => exact hp.exportBatch h
  | shutdown => cases h; exact hp.shutdown

/-- **The invariant holds along every run.** -/
theorem Invariant.run {p p' : BatchSpanProcessor σ} {evs : List (Event σ)} (hp : p.Invariant)
    (h : p.run evs = some p') : p'.Invariant := by
  induction evs generalizing p with
  | nil => cases h; exact hp
  | cons e evs ih =>
    obtain ⟨q, hq, h⟩ := Option.bind_eq_some.1 h
    exact ih (hp.step hq) h

/-- No batch is larger than the batch size, so the spans exported took at least
⌈spans / batch size⌉ `ExportSpans` calls. -/
theorem Invariant.length_flatten_exported_le {p : BatchSpanProcessor σ} (hp : p.Invariant) :
    p.exported.flatten.length ≤ p.exported.length * p.options.maxExportBatchSize := by
  rw [List.length_flatten, ← List.length_map p.exported List.length]
  exact List.sum_le_card_nsmul _ _ fun n hn => by
    obtain ⟨b, hb, rfl⟩ := List.mem_map.1 hn
    exact hp.batch_le b hb

/-- A new processor keeps the invariant and holds nothing. -/
theorem invariant_of_newBatchSpanProcessor {ε : Type} {exporter : Option ε}
    {opts : List BatchSpanProcessorOption} {p : BatchSpanProcessor σ}
    (hnew : newBatchSpanProcessor exporter opts = .ok p) : p.Invariant ∧ p.outbox = [] := by
  cases exporter with
  | none => cases hnew
  | some _ =>
    cases hnew
    exact ⟨⟨Nat.zero_le _, by simp, by simp, by simp, by simp, fun _ => rfl⟩, rfl⟩

/-- The options of the test's processor with a small queue, scaled down: room for three
spans, batches of two. -/
def smallQueueOptions : List BatchSpanProcessorOption :=
  [withMaxQueueSize 3, withMaxExportBatchSize 2 (by decide)]

/-- A new processor with `smallQueueOptions`. -/
def smallProcessor : BatchSpanProcessor Nat :=
  ⟨smallQueueOptions.foldl (fun o opt => opt o) defaultBatchSpanProcessorOptions, [], false,
    .running, []⟩

/-- A new processor with `smallQueueOptions` and the blocking option. -/
def blockingProcessor : BatchSpanProcessor Nat :=
  ⟨(smallQueueOptions ++ [withBlocking]).foldl (fun o opt => opt o)
    defaultBatchSpanProcessorOptions, [], false, .running, []⟩

/-! ### Order: nothing duplicated, reordered or invented -/

/-- An event adds its span to the outbox, or leaves the outbox as it was. -/
theorem outbox_step {p p' : BatchSpanProcessor σ} {e : Event σ} (h : p.step e = some p') :
    p'.outbox = p.outbox ++ Event.produced [e] ∨ p'.outbox = p.outbox := by
  cases e with
  | onEnd s =>
    rcases onEnd_eq_some h with ⟨-, -, rfl⟩ | ⟨rfl, -⟩
    · exact .inl (by simp [outbox, Event.produced])
    · exact .inr rfl
  | tick => cases h; exact .inr (by simp [outbox])
  | exportBatch =>
    obtain ⟨-, -, hq, he, -⟩ := exportBatch_eq_some h
    exact .inr (by simp [outbox, hq, he])
  | shutdown => cases h; exact .inr (by simp [outbox])

/-- **The outbox grows by a sublist of the spans produced.** -/
theorem outbox_run {p p' : BatchSpanProcessor σ} {evs : List (Event σ)}
    (h : p.run evs = some p') :
    ∃ acc, acc.Sublist (Event.produced evs) ∧ p'.outbox = p.outbox ++ acc := by
  induction evs generalizing p with
  | nil => cases h; exact ⟨[], List.nil_sublist _, by simp⟩
  | cons e evs ih =>
    obtain ⟨q, hq, h⟩ := Option.bind_eq_some.1 h
    obtain ⟨acc, hacc, hout⟩ := ih h
    rw [produced_cons]
    rcases outbox_step hq with hq' | hq'
    · exact ⟨Event.produced [e] ++ acc, hacc.append_left _, by rw [hout, hq', List.append_assoc]⟩
    · exact ⟨acc, hacc.trans (List.sublist_append_right _ _), by rw [hout, hq']⟩

/-- With the blocking option, a running processor takes every span: an event other than
`Shutdown` adds exactly the span it produces, and the processor keeps running. -/
theorem outbox_step_blocking {p p' : BatchSpanProcessor σ} {e : Event σ}
    (hb : p.options.blockOnQueueFull) (hr : p.phase = .running) (hs : e ≠ .shutdown)
    (h : p.step e = some p') :
    p'.outbox = p.outbox ++ Event.produced [e] ∧ p'.phase = .running := by
  cases e with
  | onEnd s =>
    rcases onEnd_eq_some h with ⟨-, -, rfl⟩ | ⟨rfl, hdrop⟩
    · exact ⟨by simp [outbox, Event.produced], hr⟩
    · simp [hdrop hr] at hb
  | tick => cases h; exact ⟨by simp [outbox, Event.produced], by simpa using hr⟩
  | exportBatch =>
    obtain ⟨-, -, hq, he, hnil, hcons⟩ := exportBatch_eq_some h
    refine ⟨by simp [outbox, hq, he, Event.produced], ?_⟩
    by_cases hq' : p'.queue = []
    · simp [(hnil hq').2, hr]
    · rw [(hcons hq').2, hr]
  | shutdown => exact absurd rfl hs

/-- **With the blocking option, no span is lost before shutdown**: the outbox grows by
exactly the spans produced. -/
theorem outbox_run_blocking {p p' : BatchSpanProcessor σ} {evs : List (Event σ)}
    (hb : p.options.blockOnQueueFull) (hr : p.phase = .running) (hs : Event.shutdown ∉ evs)
    (h : p.run evs = some p') : p'.outbox = p.outbox ++ Event.produced evs := by
  induction evs generalizing p with
  | nil => cases h; simp [Event.produced]
  | cons e evs ih =>
    obtain ⟨q, hq, h⟩ := Option.bind_eq_some.1 h
    obtain ⟨hout, hrq⟩ :=
      outbox_step_blocking hb hr (fun he => hs (he ▸ List.mem_cons_self _ _)) hq
    rw [ih (step_options hq ▸ hb) hrq (fun he => hs (List.mem_cons_of_mem _ he)) h, hout,
      List.append_assoc, ← produced_cons]

theorem outbox_run_blocking_blockingProcessor :
    blockingProcessor.options.blockOnQueueFull ∧ blockingProcessor.phase = .running ∧
    Event.shutdown ∉ [.onEnd 1, .onEnd 2, .tick, .exportBatch, .onEnd 3] ∧
    blockingProcessor.run [.onEnd 1, .onEnd 2, .tick, .exportBatch, .onEnd 3] =
      some { blockingProcessor with queue := [3], exported := [[1, 2]] } ∧
    { blockingProcessor with queue := [3], exported := [[1, 2]] }.outbox =
      blockingProcessor.outbox ++ Event.produced [.onEnd 1, .onEnd 2, .tick, .exportBatch, .onEnd 3] :=
  have hs : Event.shutdown ∉ ([.onEnd 1, .onEnd 2, .tick, .exportBatch, .onEnd 3] : List (Event Nat)) := by
    simp
  have h : blockingProcessor.run [.onEnd 1, .onEnd 2, .tick, .exportBatch, .onEnd 3] =
      some { blockingProcessor with queue := [3], exported := [[1, 2]] } := rfl
  ⟨rfl, rfl, hs, h, outbox_run_blocking rfl rfl hs h⟩

/-! ### Overflow -/

/-- **Under the dropping policy a burst keeps its head**: spans ended one after another on
a running processor fill the room left in the queue, in order, and the rest are dropped. -/
theorem run_onEnds {p : BatchSpanProcessor σ} (hr : p.phase = .running)
    (hb : p.options.blockOnQueueFull = false) (xs : List σ) :
    p.run (xs.map .onEnd) =
      some { p with queue := p.queue ++ xs.take (p.options.maxQueueSize - p.queue.length) } := by
  induction xs generalizing p with
  | nil => simp
  | cons x xs ih =>
    rw [List.map_cons, run_cons]
    by_cases hlt : p.queue.length < p.options.maxQueueSize
    · have hstep : p.step (.onEnd x) = some { p with queue := p.queue ++ [x] } := by
        simp [step, onEnd, hr, hlt]
      have hroom : p.options.maxQueueSize - p.queue.length =
          p.options.maxQueueSize - (p.queue.length + 1) + 1 := by omega
      rw [hstep, Option.some_bind, ih (p := { p with queue := p.queue ++ [x] }) hr hb]
      simp [hroom, List.take_succ_cons]
    · have hstep : p.step (.onEnd x) = some p := by simp [step, onEnd, hr, hlt, hb]
      have hfull : p.options.maxQueueSize - p.queue.length = 0 := by omega
      rw [hstep, Option.some_bind, ih hr hb, hfull]
      simp

theorem run_onEnds_smallProcessor :
    smallProcessor.phase = .running ∧ smallProcessor.options.blockOnQueueFull = false ∧
    smallProcessor.run ([1, 2, 3, 4, 5].map .onEnd) =
      some { smallProcessor with queue := (smallProcessor.queue ++
        [1, 2, 3, 4, 5].take (smallProcessor.options.maxQueueSize - smallProcessor.queue.length)) } :=
  ⟨rfl, rfl, run_onEnds rfl rfl _⟩

/-! ### Shutdown and after -/

/-- A drain runs to its end: some number of batches empties the queue, hands every queued
span to the exporter in order, and stops a processor that is shutting down. -/
theorem run_drain {p : BatchSpanProcessor σ} (hp : p.Invariant) (hd : p.draining) :
    ∃ k p', p.run (List.replicate k .exportBatch) = some p' ∧ p'.queue = [] ∧
      p'.outbox = p.outbox ∧ p'.draining = false ∧
      p'.phase = if p.phase = .shuttingDown then .stopped else p.phase := by
  obtain ⟨n, hn⟩ : ∃ n, p.queue.length = n := ⟨_, rfl⟩
  induction n using Nat.strong_induction_on generalizing p with
  | _ n ih =>
    obtain ⟨p', h1⟩ : ∃ p', p.exportBatch = some p' := ⟨_, if_pos hd⟩
    obtain ⟨-, -, hq, he, hnil, hcons⟩ := exportBatch_eq_some h1
    have hout : p'.outbox = p.outbox := by simp [outbox, hq, he]
    have h1' : p.run [.exportBatch] = some p' := by simp [run_cons, step, h1]
    by_cases hr : p'.queue = []
    · exact ⟨1, p', h1', hr, hout, (hnil hr).1, (hnil hr).2⟩
    · have hne := hp.draining_queue hd
      have hlt : p'.queue.length < n := by
        rw [hq, List.length_drop, ← hn]
        have := List.length_pos.2 hne
        have := p.options.maxExportBatchSize_pos
        omega
      obtain ⟨k, p'', hrun, hq'', hout'', hd'', hph''⟩ :=
        ih _ hlt (hp.exportBatch h1) ((hcons hr).1 ▸ hd) rfl
      refine ⟨k + 1, p'', ?_, hq'', hout''.trans hout, hd'', by rw [hph'', (hcons hr).2]⟩
      rw [List.replicate_succ, run_cons]
      simp [step, h1, hrun]

/-- **Shutdown exports everything queued and stops.** From a running processor, `Shutdown`
and the rounds of its final drain hand every queued span to the exporter, in order, and
leave the processor stopped with an empty queue. -/
theorem run_shutdown {p : BatchSpanProcessor σ} (hp : p.Invariant) (hr : p.phase = .running) :
    ∃ k p', p.run (.shutdown :: List.replicate k .exportBatch) = some p' ∧
      p'.phase = .stopped ∧ p'.queue = [] ∧ p'.exported.flatten = p.outbox := by
  cases hq : p.queue.isEmpty
  · have hs : p.shutdown = { p with phase := .shuttingDown, draining := true } := by
      simp [shutdown, hr, hq]
    obtain ⟨k, p', hrun, hq', hout, -, hph⟩ :=
      run_drain (hp.shutdown) (by rw [hs])
    refine ⟨k, p', by rw [run_cons]; exact hrun, by rw [hph, hs]; rfl, hq', ?_⟩
    have : p'.outbox = p.outbox := hout.trans (by simp [outbox])
    simpa [outbox, hq'] using this
  · have hq' : p.queue = [] := List.isEmpty_iff.1 hq
    refine ⟨0, { p with phase := .stopped, draining := false }, ?_, rfl, hq', ?_⟩
    · simp [run_cons, step, shutdown, hr, hq]
    · simp [outbox, hq']

theorem run_shutdown_smallProcessor :
    { smallProcessor with queue := [1, 2, 3] }.Invariant ∧
    { smallProcessor with queue := [1, 2, 3] }.phase = .running ∧
    ∃ k p', { smallProcessor with queue := [1, 2, 3] }.run
        (.shutdown :: List.replicate k .exportBatch) = some p' ∧
      p'.phase = .stopped ∧ p'.queue = [] ∧
      p'.exported.flatten = { smallProcessor with queue := [1, 2, 3] }.outbox :=
  have hp : { smallProcessor with queue := [1, 2, 3] }.Invariant :=
    (invariant_of_newBatchSpanProcessor
      (show newBatchSpanProcessor (some ()) smallQueueOptions = .ok smallProcessor from rfl)).1.run
      (show smallProcessor.run ([1, 2, 3, 4, 5].map .onEnd) =
        some { smallProcessor with queue := [1, 2, 3] } from rfl)
  ⟨hp, rfl, run_shutdown hp rfl⟩

/-- A stopped processor takes no event that changes it. -/
theorem step_stopped {p p' : BatchSpanProcessor σ} {e : Event σ} (hp : p.Invariant)
    (hs : p.phase = .stopped) (h : p.step e = some p') : p' = p := by
  have hd : p.draining = false := by
    cases hdr : p.draining
    · rfl
    · exact absurd (hp.stopped_queue hs) (hp.draining_queue hdr)
  cases e with
  | onEnd s => simp [step, onEnd, hs] at h; exact h.symm
  | tick => simp [step, tick, hs] at h; exact h.symm
  | exportBatch => simp [step, exportBatch, hd] at h
  | shutdown => simp [step, shutdown, hs] at h; exact h.symm

/-- **A stopped processor stays as it is**: no run from it exports, queues or restarts
anything. -/
theorem run_stopped {p p' : BatchSpanProcessor σ} {evs : List (Event σ)} (hp : p.Invariant)
    (hs : p.phase = .stopped) (h : p.run evs = some p') : p' = p := by
  induction evs generalizing p with
  | nil => cases h; rfl
  | cons e evs ih =>
    obtain ⟨q, hq, hrun⟩ := Option.bind_eq_some.1 h
    obtain rfl := step_stopped hp hs hq
    exact ih hp hs hrun

theorem run_stopped_smallProcessor :
    smallProcessor.shutdown.Invariant ∧ smallProcessor.shutdown.phase = .stopped ∧
    smallProcessor.shutdown.run [.onEnd 1, .tick, .shutdown] = some smallProcessor.shutdown ∧
    smallProcessor.shutdown = smallProcessor.shutdown :=
  have hp : smallProcessor.shutdown.Invariant :=
    (invariant_of_newBatchSpanProcessor
      (show newBatchSpanProcessor (some ()) smallQueueOptions = .ok smallProcessor from rfl)).1.shutdown
  have h : smallProcessor.shutdown.run [.onEnd 1, .tick, .shutdown] =
      some smallProcessor.shutdown := rfl
  ⟨hp, rfl, h, run_stopped hp rfl h⟩

/-! ### From construction -/

/-- **Every run of a new processor** keeps the invariant, and what it has exported and
queued is a sublist of the spans produced: in their order, none twice, none invented. -/
theorem newBatchSpanProcessor_run {ε : Type} {exporter : Option ε}
    {opts : List BatchSpanProcessorOption} {p p' : BatchSpanProcessor σ}
    {evs : List (Event σ)} (hnew : newBatchSpanProcessor exporter opts = .ok p)
    (h : p.run evs = some p') : p'.Invariant ∧ p'.outbox.Sublist (Event.produced evs) := by
  obtain ⟨hp, hnil⟩ := invariant_of_newBatchSpanProcessor hnew
  obtain ⟨acc, hacc, hout⟩ := outbox_run h
  exact ⟨hp.run h, by rwa [hout, hnil, List.nil_append]⟩

/-- **Enough `ExportSpans` calls**: on every run of a new processor, the spans exported so far
took at least ⌈spans / `MaxExportBatchSize`⌉ calls, as the test's batch counts require. -/
theorem newBatchSpanProcessor_run_exportCalls {ε : Type} {exporter : Option ε}
    {opts : List BatchSpanProcessorOption} {p p' : BatchSpanProcessor σ}
    {evs : List (Event σ)} (hnew : newBatchSpanProcessor exporter opts = .ok p)
    (h : p.run evs = some p') :
    (p'.exported.flatten.length + p.options.maxExportBatchSize - 1) /
      p.options.maxExportBatchSize ≤ p'.exported.length := by
  have hle := ((invariant_of_newBatchSpanProcessor hnew).1.run h).length_flatten_exported_le
  rw [run_options h] at hle
  have hpos := p.options.maxExportBatchSize_pos
  refine Nat.lt_succ_iff.1 ((Nat.div_lt_iff_lt_mul hpos).2 ?_)
  rw [Nat.succ_mul]
  omega

theorem newBatchSpanProcessor_run_exportCalls_smallQueue :
    newBatchSpanProcessor (some ()) smallQueueOptions = .ok smallProcessor ∧
    smallProcessor.run ([1, 2, 3, 4, 5].map Event.onEnd ++ [Event.tick, .exportBatch, .exportBatch]) =
      some { smallProcessor with exported := [[1, 2], [3]] } ∧
    ([[1, 2], [3]].flatten.length + smallProcessor.options.maxExportBatchSize - 1) /
      smallProcessor.options.maxExportBatchSize ≤ [[1, 2], [3]].length :=
  have hnew : newBatchSpanProcessor (some ()) smallQueueOptions = .ok smallProcessor := rfl
  have h : smallProcessor.run ([1, 2, 3, 4, 5].map Event.onEnd ++ [Event.tick, .exportBatch, .exportBatch]) =
      some { smallProcessor with exported := [[1, 2], [3]] } := rfl
  ⟨hnew, h, newBatchSpanProcessor_run_exportCalls hnew h⟩

/-- The test's third case, scaled down: five spans on a queue of three, one tick, two
batches. The first three spans are exported, in order; the last two are dropped. -/
theorem newBatchSpanProcessor_run_smallQueue :
    newBatchSpanProcessor (some ()) smallQueueOptions = .ok smallProcessor ∧
    smallProcessor.run ([1, 2, 3, 4, 5].map Event.onEnd ++ [Event.tick, .exportBatch, .exportBatch]) =
      some { smallProcessor with exported := [[1, 2], [3]] } ∧
    { smallProcessor with exported := [[1, 2], [3]] }.Invariant ∧
    { smallProcessor with exported := [[1, 2], [3]] }.outbox.Sublist
      (Event.produced ([1, 2, 3, 4, 5].map Event.onEnd ++ [Event.tick, .exportBatch, .exportBatch])) :=
  have hnew : newBatchSpanProcessor (some ()) smallQueueOptions = .ok smallProcessor := rfl
  have h : smallProcessor.run ([1, 2, 3, 4, 5].map Event.onEnd ++ [Event.tick, .exportBatch, .exportBatch]) =
      some { smallProcessor with exported := [[1, 2], [3]] } := rfl
  ⟨hnew, h, newBatchSpanProcessor_run hnew h⟩

end BatchSpanProcessor

end OtelGo
