import Mathlib.Data.List.Sigma
import OtelGo.Core.SpanContext
import OtelGo.Sdk.BatchSpanProcessor

/-!
# Samplers, the Span-Processor Registry and the Simple Processor

A span starts with a sampler's decision and ends by being handed to every registered span
processor. The sampler is a pure function; `api/trace/never_sampler.go` is the one among the
sources, and it always says no. The registry, the simple processor and the exporter they
drive are not among the sources; their definitions follow the specification and say so. The
registry is a set of processors in the order of registration, changed by
`RegisterSpanProcessor` and `UnregisterSpanProcessor`. Ending a span calls `OnEnd` on every
registered processor, in that order, within the call. The simple processor exports each span
alone, at once, until its `Shutdown` releases the exporter; a batch processor is the state machine of `OtelGo.Sdk.BatchSpanProcessor`,
and the registry holds only batch processors that keep its invariant.

A run of the pipeline is any interleaving of registrations, span ends and the processors' own
actions (a tick of a schedule, a round of a drain, a shutdown). The end of one span is one
event: when a blocking batch processor's queue is full, the call waits, and the model shows
this as the event not being enabled until there is room.

## Main results

* `Registry.run_lookup`: a processor that stays registered through a run of the pipeline goes
  through the run of its own events, the span ends and its own actions in order, so every
  fact about a processor's runs holds of it inside the pipeline.
* `Registry.run_simple_exported`: a registered simple processor exports every span ended
  before its own `Shutdown`, each alone, in the order the spans ended, and none after it.
* `Registry.run_batch_outbox`: a registered batch processor keeps its invariant, and exports or
  queues spans ended, in the order they ended, none twice and none invented.
* `Registry.endSpan_eq_none_iff`: ending a span waits only on a running batch processor with
  the blocking option and a full queue; nothing else holds it up.
-/

namespace OtelGo

/-! ### Samplers -/

/-- `trace.Decision`. -/
structure Decision where
  sampled : Bool
  deriving DecidableEq, Repr

/-- `trace.Sampler`: `ShouldSample` from the parent's context, whether the parent is remote,
the trace ID, the span ID and the span's name; and `Description`. -/
structure Sampler where
  shouldSample : SpanContext → Bool → TraceID → UInt64 → GoString → Decision
  description : GoString

/-- `neverSamplerDescription`. -/
def neverSamplerDescription : GoString := goStr "NeverSampleSampler"

/-- `neverSampledecision`. -/
def neverSampledecision : Decision := ⟨false⟩

/-- `NeverSampleSampler()`: `ShouldSample` ignores its arguments and returns
`neverSampledecision`. -/
def neverSampleSampler : Sampler where
  shouldSample _ _ _ _ _ := neverSampledecision
  description := neverSamplerDescription

/-! ### Processors -/

/-- Modelled from the spec: a span processor. The simple processor keeps its exporter's record
of `ExportSpans` calls and whether its `Shutdown` has released the exporter; a batch processor
comes with the invariant its runs keep. -/
inductive SpanProcessor (σ : Type)
  | simple (exported : List (List σ)) (released : Bool)
  | batch (p : BatchSpanProcessor σ) (hp : p.Invariant)

/-- Modelled from the spec: what a processor does besides `OnEnd`: a tick of its schedule, a
round of its drain, its shutdown. -/
inductive ProcessorAction
  | tick
  | exportBatch
  | shutdown
  deriving DecidableEq, Repr

/-- The processor's event for an action. -/
def ProcessorAction.toEvent {σ : Type} : ProcessorAction → Event σ
  | .tick => .tick
  | .exportBatch => .exportBatch
  | .shutdown => .shutdown

/-- The event is a `Shutdown`. -/
def Event.isShutdown {σ : Type} : Event σ → Bool
  | .shutdown => true
  | _ => false


namespace SpanProcessor

variable {σ : Type}

/-- Modelled from the spec: one event of a processor. The simple processor's `OnEnd` makes one
`ExportSpans` call with the span alone while it holds its exporter; it has no schedule, and its
`Shutdown` only releases the exporter, after which `OnEnd` exports nothing. -/
def step : SpanProcessor σ → Event σ → Option (SpanProcessor σ)
  | .simple ex false, .onEnd s => some (.simple (ex ++ [[s]]) false)
  | .simple ex _, .shutdown => some (.simple ex true)
  | .simple ex released, _ => some (.simple ex released)
  | .batch p hp, e => (p.step e).pmap (fun p' hp' => .batch p' hp') fun _ h => hp.step h

/-- A run of one processor. -/
def run (p : SpanProcessor σ) (evs : List (Event σ)) : Option (SpanProcessor σ) :=
  evs.foldlM step p

@[simp] theorem run_nil (p : SpanProcessor σ) : p.run [] = some p := rfl

theorem run_cons (p : SpanProcessor σ) (e : Event σ) (evs : List (Event σ)) :
    p.run (e :: evs) = (p.step e).bind (·.run evs) := rfl

theorem run_append (p : SpanProcessor σ) (evs₁ evs₂ : List (Event σ)) :
    p.run (evs₁ ++ evs₂) = (p.run evs₁).bind (·.run evs₂) :=
  List.foldlM_append _ _ _ _

theorem step_batch_eq_some {p : BatchSpanProcessor σ} {hp : p.Invariant} {e : Event σ}
    {q : SpanProcessor σ} :
    (batch p hp).step e = some q ↔ ∃ p' hp', p.step e = some p' ∧ q = .batch p' hp' :=
  Option.pmap_eq_some_iff

theorem step_batch_eq_none {p : BatchSpanProcessor σ} {hp : p.Invariant} {e : Event σ} :
    (batch p hp).step e = none ↔ p.step e = none :=
  Option.pmap_eq_none_iff

/-- A batch processor runs as the state machine it carries. -/
theorem run_batch_eq_some {p : BatchSpanProcessor σ} {hp : p.Invariant} {evs : List (Event σ)}
    {q : SpanProcessor σ} (h : (batch p hp).run evs = some q) :
    ∃ p' hp', p.run evs = some p' ∧ q = .batch p' hp' := by
  induction evs generalizing p with
  | nil => exact ⟨p, hp, rfl, (Option.some_inj.1 h).symm⟩
  | cons e evs ih =>
    obtain ⟨q₁, hq₁, h⟩ := Option.bind_eq_some.1 h
    obtain ⟨p₁, hp₁, hs, rfl⟩ := step_batch_eq_some.1 hq₁
    obtain ⟨p', hp', hr, rfl⟩ := ih h
    exact ⟨p', hp', by rw [BatchSpanProcessor.run_cons, hs, Option.some_bind, hr], rfl⟩

/-- A simple processor that has released its exporter exports nothing more. -/
theorem run_simple_released (ex : List (List σ)) (evs : List (Event σ)) :
    (simple ex true).run evs = some (.simple ex true) := by
  induction evs with
  | nil => rfl
  | cons e evs ih => cases e <;> exact ih

/-- **The simple processor exports each span alone, at once, until its shutdown**: every run of
it succeeds, adds one `ExportSpans` call per span handed to it before its first `Shutdown`,
with that span alone, in the order the spans came, and releases the exporter at the
`Shutdown`. -/
theorem run_simple (ex : List (List σ)) (evs : List (Event σ)) :
    (simple ex false).run evs = some (.simple
      (ex ++ (Event.produced (evs.takeWhile (!·.isShutdown))).map ([·]))
      (evs.any (·.isShutdown))) := by
  induction evs generalizing ex with
  | nil => exact congrArg (some <| simple · false) (List.append_nil ex).symm
  | cons e evs ih =>
    cases e with
    | onEnd s =>
      have h := ih (ex ++ [[s]])
      rw [List.append_assoc] at h
      exact h
    | tick | exportBatch => exact ih ex
    | shutdown =>
      show (simple ex true).run evs = some (simple (ex ++ []) true)
      rw [List.append_nil]
      exact run_simple_released ex evs

end SpanProcessor

/-! ### The registry -/

/-- Modelled from the spec: the registered processors, each under the identity
`RegisterSpanProcessor` and `UnregisterSpanProcessor` name it by, in the order of
registration; none is registered twice. -/
structure Registry (σ : Type) where
  entries : List (Σ _ : Nat, SpanProcessor σ)
  nodupKeys : entries.NodupKeys

/-- Modelled from the spec: what happens to the pipeline. -/
inductive PipelineEvent (σ : Type)
  | register (id : Nat) (p : SpanProcessor σ)
  | unregister (id : Nat)
  | endSpan (s : σ)
  | act (id : Nat) (a : ProcessorAction)

namespace Registry

variable {σ : Type}

/-- A loop over the registered processors in order, each changing its own state, keeps the
identities and their order, and leaves each processor as `f` made it. -/
theorem dlookup_mapM {f : Nat → SpanProcessor σ → Option (SpanProcessor σ)} :
    ∀ {l l' : List (Σ _ : Nat, SpanProcessor σ)},
      l.mapM (fun e => (f e.1 e.2).map (⟨e.1, ·⟩)) = some l' →
      l'.keys = l.keys ∧ ∀ id, l'.dlookup id = (l.dlookup id).bind (f id)
  | [], _, h => by cases h; exact ⟨rfl, fun _ => rfl⟩
  | ⟨k, q⟩ :: l, l', h => by
    simp only [List.mapM_cons, Option.bind_eq_bind, Option.bind_eq_some, Option.map_eq_some',
      Option.pure_def, Option.some_inj] at h
    obtain ⟨_, ⟨p, hp, rfl⟩, l'', hl, rfl⟩ := h
    obtain ⟨hkeys, hlookup⟩ := dlookup_mapM hl
    refine ⟨by simp only [List.keys_cons, hkeys], fun id => ?_⟩
    by_cases hid : id = k
    · subst hid
      rw [List.dlookup_cons_eq, List.dlookup_cons_eq, Option.some_bind, hp]
    · rw [List.dlookup_cons_ne _ _ hid, List.dlookup_cons_ne _ _ hid, hlookup]

/-- The empty registry. -/
def empty : Registry σ := ⟨[], List.nodupKeys_nil⟩

/-- The processor registered under `id`. -/
def lookup (r : Registry σ) (id : Nat) : Option (SpanProcessor σ) := r.entries.dlookup id

/-- Modelled from the spec: `RegisterSpanProcessor`. A processor not registered yet comes
last; registering one again changes nothing. -/
def register (r : Registry σ) (id : Nat) (p : SpanProcessor σ) : Registry σ :=
  if h : id ∈ r.entries.keys then r
  else ⟨r.entries ++ [⟨id, p⟩], by
    rw [List.NodupKeys, List.keys, List.map_append]
    exact r.nodupKeys.append (List.nodup_singleton _) (List.disjoint_singleton.2 h)⟩

/-- Modelled from the spec: `UnregisterSpanProcessor`. -/
def unregister (r : Registry σ) (id : Nat) : Registry σ :=
  ⟨r.entries.kerase id, r.nodupKeys.kerase id⟩

/-- Each registered processor in turn, in the order of registration, takes `f` of its
identity; the pass is not enabled (`none`) while one of them is not. -/
def fanOut (r : Registry σ) (f : Nat → SpanProcessor σ → Option (SpanProcessor σ)) :
    Option (Registry σ) :=
  match h : r.entries.mapM (fun e => (f e.1 e.2).map (⟨e.1, ·⟩)) with
  | some l => some ⟨l, by rw [List.NodupKeys, (dlookup_mapM h).1]; exact r.nodupKeys⟩
  | none => none

/-- Modelled from the spec: the end of a span, `OnEnd` on every registered processor in the
order of registration, within the call. -/
def endSpan (r : Registry σ) (s : σ) : Option (Registry σ) :=
  r.fanOut fun _ p => p.step (.onEnd s)

/-- Modelled from the spec: an action of the processor registered under `id`. -/
def act (r : Registry σ) (id : Nat) (a : ProcessorAction) : Option (Registry σ) :=
  r.fanOut fun j p => if j = id then p.step a.toEvent else some p

/-- One event of the pipeline; `none` when it is not enabled. -/
def step (r : Registry σ) : PipelineEvent σ → Option (Registry σ)
  | .register id p => some (r.register id p)
  | .unregister id => some (r.unregister id)
  | .endSpan s => r.endSpan s
  | .act id a => r.act id a

/-- A run of the pipeline. -/
def run (r : Registry σ) (evs : List (PipelineEvent σ)) : Option (Registry σ) :=
  evs.foldlM step r

end Registry

/-- The event processor `id` takes part in: a span's end, or an action of its own. -/
def PipelineEvent.seenBy {σ : Type} (id : Nat) : PipelineEvent σ → Option (Event σ)
  | .endSpan s => some (.onEnd s)
  | .act j a => if j = id then some a.toEvent else none
  | _ => none

/-- The spans ended in a run of the pipeline, in order. -/
def PipelineEvent.ended {σ : Type} (evs : List (PipelineEvent σ)) : List σ :=
  evs.filterMap fun
    | .endSpan s => some s
    | _ => none

/-- The event is processor `id`'s own `Shutdown`. -/
def PipelineEvent.shutsDown {σ : Type} (id : Nat) : PipelineEvent σ → Bool
  | .act j .shutdown => j == id
  | _ => false

/-- A processor is handed exactly the spans ended. -/
theorem produced_filterMap_seenBy {σ : Type} (id : Nat) (evs : List (PipelineEvent σ)) :
    Event.produced (evs.filterMap (·.seenBy id)) = PipelineEvent.ended evs := by
  induction evs with
  | nil => rfl
  | cons e evs ih =>
    rcases e with _ | _ | s | ⟨j, a⟩
    · exact ih
    · exact ih
    · exact congrArg (s :: ·) ih
    · by_cases hj : j = id
      · cases a <;> simpa [PipelineEvent.seenBy, hj, PipelineEvent.ended, Event.produced,
          ProcessorAction.toEvent] using ih
      · simpa [PipelineEvent.seenBy, hj, PipelineEvent.ended] using ih

namespace Registry

variable {σ : Type}

/-! ### What one event does to one processor -/

theorem lookup_register_of_lookup {r : Registry σ} {id : Nat} {p : SpanProcessor σ}
    (hp : r.lookup id = some p) (j : Nat) (q : SpanProcessor σ) :
    (r.register j q).lookup id = some p := by
  unfold register
  split
  · exact hp
  · simp only [lookup, List.dlookup_append] at hp ⊢
    rw [hp]
    rfl

theorem lookup_unregister_ne {r : Registry σ} {id j : Nat} (hj : id ≠ j) :
    (r.unregister j).lookup id = r.lookup id :=
  List.dlookup_kerase_ne hj

/-- **The fan-out, processor by processor**: after a pass, each processor is what `f` made
of it. -/
theorem lookup_fanOut {r r' : Registry σ} {f : Nat → SpanProcessor σ → Option (SpanProcessor σ)}
    (h : r.fanOut f = some r') (id : Nat) : r'.lookup id = (r.lookup id).bind (f id) := by
  unfold fanOut at h
  split at h
  · rename_i l hl
    cases h
    exact (dlookup_mapM hl).2 id
  · cases h

/-- A pass is not enabled exactly while one of the processors is not. -/
theorem fanOut_eq_none_iff {r : Registry σ}
    {f : Nat → SpanProcessor σ → Option (SpanProcessor σ)} :
    r.fanOut f = none ↔ ∃ id p, r.lookup id = some p ∧ f id p = none := by
  have hloop : r.fanOut f = none ↔ (r.entries.mapM fun e => (f e.1 e.2).map (⟨e.1, ·⟩) :
      Option (List (Σ _ : Nat, SpanProcessor σ))) = none := by
    unfold fanOut
    split <;> rename_i hl <;> simp only [hl, reduceCtorEq, iff_self]
  rw [hloop, mapM_option_eq_none]
  constructor
  · rintro ⟨⟨id, p⟩, he, hf⟩
    exact ⟨id, p, List.mem_dlookup r.nodupKeys he, Option.map_eq_none'.1 hf⟩
  · rintro ⟨id, p, hp, hf⟩
    exact ⟨⟨id, p⟩, List.of_mem_dlookup hp, Option.map_eq_none'.2 hf⟩

theorem lookup_fanOut_of_lookup {r r' : Registry σ}
    {f : Nat → SpanProcessor σ → Option (SpanProcessor σ)} (h : r.fanOut f = some r')
    {id : Nat} {p : SpanProcessor σ} (hp : r.lookup id = some p) :
    ∃ p', f id p = some p' ∧ r'.lookup id = some p' := by
  cases hf : f id p with
  | none => exact absurd h (by rw [fanOut_eq_none_iff.2 ⟨id, p, hp, hf⟩]; nofun)
  | some p' => exact ⟨p', rfl, by rw [lookup_fanOut h, hp, Option.some_bind, hf]⟩

/-- **One event, as one processor sees it**: a processor that stays registered takes its part
of the event, the span's end or an action of its own, and nothing else. -/
theorem lookup_step {r r' : Registry σ} {e : PipelineEvent σ} (h : r.step e = some r')
    {id : Nat} {p : SpanProcessor σ} (hp : r.lookup id = some p) (hne : e ≠ .unregister id) :
    ∃ p', r'.lookup id = some p' ∧ p.run (e.seenBy id).toList = some p' := by
  cases e with
  | register j q =>
    cases h
    exact ⟨p, lookup_register_of_lookup hp j q, rfl⟩
  | unregister j =>
    cases h
    have hj : id ≠ j := fun hj => hne (hj ▸ rfl)
    exact ⟨p, (lookup_unregister_ne hj).trans hp, rfl⟩
  | endSpan s =>
    obtain ⟨p', hs, hl⟩ := lookup_fanOut_of_lookup
      (show r.fanOut (fun _ q => q.step (.onEnd s)) = some r' from h) hp
    exact ⟨p', hl, by simp [PipelineEvent.seenBy, SpanProcessor.run_cons, hs]⟩
  | act j a =>
    obtain ⟨p', hs, hl⟩ := lookup_fanOut_of_lookup
      (show r.fanOut (fun k q => if k = j then q.step a.toEvent else some q) = some r' from h) hp
    refine ⟨p', hl, ?_⟩
    by_cases hj : j = id
    · subst hj
      simpa [PipelineEvent.seenBy, SpanProcessor.run_cons] using hs
    · simpa [PipelineEvent.seenBy, hj, Ne.symm hj] using hs

theorem filterMap_seenBy_cons (id : Nat) (e : PipelineEvent σ) (evs : List (PipelineEvent σ)) :
    (e :: evs).filterMap (·.seenBy id) = (e.seenBy id).toList ++ evs.filterMap (·.seenBy id) := by
  cases h : e.seenBy id <;> simp [List.filterMap_cons, h]

theorem seenBy_isShutdown (id : Nat) (e : PipelineEvent σ) :
    (e.seenBy id).any (·.isShutdown) = e.shutsDown id := by
  rcases e with _ | _ | s | ⟨j, a⟩
  · rfl
  · rfl
  · rfl
  · by_cases hj : j = id <;> cases a <;>
      simp [PipelineEvent.seenBy, PipelineEvent.shutsDown, ProcessorAction.toEvent,
        Event.isShutdown, hj]

/-- Before its own `Shutdown`, a processor sees the events it sees before its `Shutdown` event. -/
theorem takeWhile_filterMap_seenBy (id : Nat) (evs : List (PipelineEvent σ)) :
    (evs.filterMap (·.seenBy id)).takeWhile (!·.isShutdown) =
      (evs.takeWhile (!·.shutsDown id)).filterMap (·.seenBy id) := by
  induction evs with
  | nil => rfl
  | cons e evs ih =>
    have he := seenBy_isShutdown id e
    cases h : e.seenBy id with
    | none =>
      rw [h] at he
      simp [List.filterMap_cons, h, ← he, ih]
    | some ev =>
      rw [h] at he
      cases hs : ev.isShutdown <;> simp_all [List.filterMap_cons, List.takeWhile_cons]

theorem any_filterMap_seenBy (id : Nat) (evs : List (PipelineEvent σ)) :
    (evs.filterMap (·.seenBy id)).any (·.isShutdown) = evs.any (·.shutsDown id) := by
  induction evs with
  | nil => rfl
  | cons e evs ih =>
    rw [filterMap_seenBy_cons, List.any_append, ih, List.any_cons, ← seenBy_isShutdown]
    cases e.seenBy id <;> simp

/-! ### Whole runs -/

/-- **Each processor runs on its own events**: a processor that stays registered through a run
of the pipeline goes through the run of its own events, the span ends and its own actions, in
the order they happened. -/
theorem run_lookup {r r' : Registry σ} {evs : List (PipelineEvent σ)} (h : r.run evs = some r')
    {id : Nat} {p : SpanProcessor σ} (hp : r.lookup id = some p)
    (hstay : ∀ e ∈ evs, e ≠ .unregister id) :
    ∃ p', r'.lookup id = some p' ∧ p.run (evs.filterMap (·.seenBy id)) = some p' := by
  induction evs generalizing r p with
  | nil => cases h; exact ⟨p, hp, rfl⟩
  | cons e evs ih =>
    obtain ⟨r₁, h₁, h⟩ := Option.bind_eq_some.1 h
    obtain ⟨p₁, hp₁, hrun₁⟩ := lookup_step h₁ hp (hstay e (List.mem_cons_self _ _))
    obtain ⟨p', hp', hrun⟩ := ih h hp₁ fun e' he' => hstay e' (List.mem_cons_of_mem _ he')
    exact ⟨p', hp', by
      rw [filterMap_seenBy_cons, SpanProcessor.run_append, hrun₁, Option.some_bind, hrun]⟩

/-- The test's processor with a small queue keeps the invariant. -/
theorem invariant_smallProcessor : BatchSpanProcessor.smallProcessor.Invariant :=
  (BatchSpanProcessor.invariant_of_newBatchSpanProcessor
    (show newBatchSpanProcessor (some ()) BatchSpanProcessor.smallQueueOptions =
      .ok BatchSpanProcessor.smallProcessor from rfl)).1

/-- A pipeline with a simple processor under 1 and the test's processor with a small queue
under 2. -/
def sampleRegistry : Registry Nat :=
  (empty.register 1 (.simple [] false)).register 2
    (.batch BatchSpanProcessor.smallProcessor invariant_smallProcessor)

/-- Three spans end around a tick and a round of the batch processor's drain. -/
def sampleEvents : List (PipelineEvent Nat) :=
  [.endSpan 1, .endSpan 2, .act 2 .tick, .endSpan 3, .act 2 .exportBatch]

theorem run_lookup_sampleRegistry :
    ∃ r', sampleRegistry.run sampleEvents = some r' ∧
      sampleRegistry.lookup 2 =
        some (.batch BatchSpanProcessor.smallProcessor invariant_smallProcessor) ∧
      (∀ e ∈ sampleEvents, e ≠ .unregister 2) ∧
      ∃ p', r'.lookup 2 = some p' ∧
        (SpanProcessor.batch BatchSpanProcessor.smallProcessor invariant_smallProcessor).run
          (sampleEvents.filterMap (·.seenBy 2)) = some p' :=
  have hs : ∀ e ∈ sampleEvents, e ≠ .unregister 2 := by simp [sampleEvents]
  ⟨_, rfl, rfl, hs, @run_lookup _ sampleRegistry _ sampleEvents rfl 2 _ rfl hs⟩

/-- Events after the three of `sampleEvents`: processor 1 shuts down, then a fourth span
ends. -/
def sampleShutdownEvents : List (PipelineEvent Nat) :=
  sampleEvents ++ [.act 1 .shutdown, .endSpan 4]

/-- **A registered simple processor exports every span ended before its shutdown, alone and at
once**: through a run of the pipeline it stays registered in, it makes one `ExportSpans` call
per span ended before its own `Shutdown`, with that span alone, in the order the spans ended,
and none after it, the exporter being released. -/
theorem run_simple_exported {r r' : Registry σ} {evs : List (PipelineEvent σ)}
    (h : r.run evs = some r') {id : Nat} {ex : List (List σ)}
    (hp : r.lookup id = some (.simple ex false)) (hstay : ∀ e ∈ evs, e ≠ .unregister id) :
    r'.lookup id = some (.simple
      (ex ++ (PipelineEvent.ended (evs.takeWhile (!·.shutsDown id))).map ([·]))
      (evs.any (·.shutsDown id))) := by
  obtain ⟨p', hp', hrun⟩ := run_lookup h hp hstay
  rw [SpanProcessor.run_simple, takeWhile_filterMap_seenBy, any_filterMap_seenBy,
    produced_filterMap_seenBy] at hrun
  rw [hp', ← hrun]

theorem run_simple_exported_sampleRegistry :
    ∃ r', sampleRegistry.run sampleShutdownEvents = some r' ∧
      sampleRegistry.lookup 1 = some (.simple [] false) ∧
      (∀ e ∈ sampleShutdownEvents, e ≠ .unregister 1) ∧
      r'.lookup 1 = some (.simple
        ([] ++ (PipelineEvent.ended (sampleShutdownEvents.takeWhile (!·.shutsDown 1))).map ([·]))
        (sampleShutdownEvents.any (·.shutsDown 1))) :=
  have hs : ∀ e ∈ sampleShutdownEvents, e ≠ .unregister 1 := by
    simp [sampleShutdownEvents, sampleEvents]
  ⟨_, rfl, rfl, hs, @run_simple_exported _ sampleRegistry _ sampleShutdownEvents rfl 1 _ rfl hs⟩

/-- **A registered batch processor loses nothing it should not**: through a run of the
pipeline it stays registered in, it remains a batch processor that keeps its invariant, and
the spans it has exported, followed by those it holds, grow by spans ended, in the order they
ended, none twice and none invented. -/
theorem run_batch_outbox {r r' : Registry σ} {evs : List (PipelineEvent σ)}
    (h : r.run evs = some r') {id : Nat} {p : BatchSpanProcessor σ} {hp : p.Invariant}
    (hlk : r.lookup id = some (.batch p hp)) (hstay : ∀ e ∈ evs, e ≠ .unregister id) :
    ∃ p' hp', r'.lookup id = some (.batch p' hp') ∧
      ∃ acc, acc.Sublist (PipelineEvent.ended evs) ∧ p'.outbox = p.outbox ++ acc := by
  obtain ⟨q, hq, hrun⟩ := run_lookup h hlk hstay
  obtain ⟨p', hp', hrun', rfl⟩ := SpanProcessor.run_batch_eq_some hrun
  refine ⟨p', hp', hq, ?_⟩
  simpa only [produced_filterMap_seenBy] using BatchSpanProcessor.outbox_run hrun'

theorem run_batch_outbox_sampleRegistry :
    ∃ r', sampleRegistry.run sampleEvents = some r' ∧
      sampleRegistry.lookup 2 =
        some (.batch BatchSpanProcessor.smallProcessor invariant_smallProcessor) ∧
      (∀ e ∈ sampleEvents, e ≠ .unregister 2) ∧
      ∃ p' hp', r'.lookup 2 = some (.batch p' hp') ∧
        ∃ acc, acc.Sublist (PipelineEvent.ended sampleEvents) ∧
          p'.outbox = BatchSpanProcessor.smallProcessor.outbox ++ acc :=
  have hs : ∀ e ∈ sampleEvents, e ≠ .unregister 2 := by simp [sampleEvents]
  ⟨_, rfl, rfl, hs, @run_batch_outbox _ sampleRegistry _ sampleEvents rfl 2 _ _ rfl hs⟩

/-- **What holds up the end of a span**: the call that ends a span waits exactly when a
registered batch processor is running with the blocking option and a full queue. No other
processor, and nothing else, keeps it from returning. -/
theorem endSpan_eq_none_iff {r : Registry σ} {s : σ} :
    r.endSpan s = none ↔ ∃ id p hp, r.lookup id = some (.batch p hp) ∧
      p.phase = .running ∧ p.options.maxQueueSize ≤ p.queue.length ∧
      p.options.blockOnQueueFull := by
  unfold endSpan
  rw [fanOut_eq_none_iff]
  constructor
  · rintro ⟨id, q, hq, hs⟩
    cases q with
    | simple ex released => cases released <;> cases hs
    | batch p hp =>
      exact ⟨id, p, hp, hq, BatchSpanProcessor.onEnd_eq_none_iff.1
        (SpanProcessor.step_batch_eq_none.1 hs)⟩
  · rintro ⟨id, p, hp, hq, hfull⟩
    exact ⟨id, _, hq,
      SpanProcessor.step_batch_eq_none.2 (BatchSpanProcessor.onEnd_eq_none_iff.2 hfull)⟩

end Registry

end OtelGo
