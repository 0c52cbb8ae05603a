import OtelGo.Bridge.Baggage

/-!
# Active Spans Across the Two APIs

The bridge lets OpenTracing and OpenTelemetry code share one process. Each API keeps its own
notion of the active span in a `context.Context`: OpenTracing's under `ot.SpanFromContext`,
OpenTelemetry's under `oteltrace.CurrentSpan`. The documented set-up makes a `BridgeTracer`
whose OpenTelemetry tracer is a `WrapperTracer` around an SDK tracer; this module models that
set-up and the operations that create spans and contexts in it:

* `WrapperTracer.Start` asks the SDK for a span and, unless the context defers the set-up,
  makes a bridge span for it the active OpenTracing span (`ContextWithBridgeSpan`);
* `WrapperTracer.WithSpan` does the same in the context it hands its body;
* `BridgeTracer.StartSpan` starts an SDK span under a context that defers the set-up, so no
  context is made, and returns a bridge span that `ot.ContextWithSpan` activates later;
* `ot.ContextWithSpan` first calls the tracer's `ContextWithSpanHook`, which, for a span whose
  `skipDeferHook` is unset, runs the `WrapperTracer`'s `DeferredContextSetupHook` and so makes
  its OpenTelemetry span current.

Here the bridge's OpenTelemetry tracer is the `WrapperTracer` from the start;
`OtelGo.Bridge.Warnings` models `StartSpan` and `ContextWithSpanHook` with any tracer, set or
not, and shows that with the `WrapperTracer` set they are the functions of this module.

A Go context is a value: an operation returns a new context and leaves the old one as it was.
The contexts and spans the program holds after a run form a `World`, and `World.step` applies
one operation to values the world holds. Spans are held by value: none of these operations
writes to a span once it is made.

## Main results

* `agrees_contextWithBridgeSpan` and `agrees_contextWithSpan`: activating a span made by
  `ContextWithBridgeSpan` in a context where its span is current, or a span `StartSpan` made in
  any context, leaves the two APIs agreeing.
* `World.Reachable.contexts`: a property of contexts that every operation keeps holds of every
  context of every run.
* `World.Reachable.contexts_agree`: when `ContextWithSpan` only activates spans whose
  `skipDeferHook` is unset, every context of every reachable world agrees.
* `not_forall_agrees`: with no such restriction, a span that `WrapperTracer.Start`
  made, taken from its context and activated in another, gives a context where the two APIs
  disagree.
* `World.Reachable.agrees_or_skipDeferHook`: with no restriction, a context disagrees only
  when its active span is one whose `skipDeferHook` is set.
* `baggageItem_startSpan`: what a span from `StartSpan` reads from its baggage after any
  sequence of writes.
-/

namespace OtelGo

/-! ### Spans and contexts -/

/-- An OpenTelemetry span, by identity: `oteltrace.NoopSpan{}`, or the SDK's span with the
given serial number and the span context its `SpanContext()` returns. -/
inductive OtelSpan
  | noop
  | sdk (id : Nat) (spanContext : SpanContext)
  deriving DecidableEq, Repr

/-- `Span.SpanContext()`; the no-op span's is the empty one. -/
def OtelSpan.spanContext : OtelSpan → SpanContext
  | noop => emptySpanContext
  | sdk _ sc => sc

/-- `bridgeSpan`. Its `tracer` is the one bridge of the set-up and is not recorded; its context
is one the bridge built, so it is reachable. -/
structure BridgeSpan where
  otelSpan : OtelSpan
  ctx : BridgeSpanContext
  skipDeferHook : Bool
  reachable : ctx.Reachable

/-- The values of a `context.Context` the bridge reads or writes: OpenTracing's active span,
OpenTelemetry's current span (`NoopSpan{}` where none was set) and migration's deferred-setup
flag. -/
structure Context where
  activeSpan : Option BridgeSpan
  currentSpan : OtelSpan
  deferredSetup : Bool

/-- `context.Background()`. -/
def Context.background : Context := ⟨none, .noop, false⟩

/-- Modelled from the spec: `migration.WithDeferredSetup`, the context with the flag set. -/
def withDeferredSetup (ctx : Context) : Context := { ctx with deferredSetup := true }

/-- Modelled from the spec: `migration.SkipContextSetup`, whether the flag is set. -/
def skipContextSetup (ctx : Context) : Bool := ctx.deferredSetup

/-- Modelled from the spec: `oteltrace.SetCurrentSpan`. -/
def setCurrentSpan (ctx : Context) (span : OtelSpan) : Context := { ctx with currentSpan := span }

@[simp] theorem setCurrentSpan_activeSpan (ctx : Context) (span : OtelSpan) :
    (setCurrentSpan ctx span).activeSpan = ctx.activeSpan := rfl

@[simp] theorem setCurrentSpan_currentSpan (ctx : Context) (span : OtelSpan) :
    (setCurrentSpan ctx span).currentSpan = span := rfl

@[simp] theorem setCurrentSpan_deferredSetup (ctx : Context) (span : OtelSpan) :
    (setCurrentSpan ctx span).deferredSetup = ctx.deferredSetup := rfl

@[simp] theorem skipContextSetup_eq (ctx : Context) : skipContextSetup ctx = ctx.deferredSetup := rfl

/-- The two APIs agree on a context: where OpenTracing's active span is a bridge span,
OpenTelemetry's current span is that span's OpenTelemetry span. -/
def Context.agrees (ctx : Context) : Bool :=
  match ctx.activeSpan with
  | some s => ctx.currentSpan == s.otelSpan
  | none => true

/-! ### The SDK -/

/-- The SDK tracer of the documented set-up: `Start` returns a context that defers the set-up
unchanged and otherwise makes the new span current, and `WithSpan` runs its body with the new
span current. What is the SDK's own is the span context of each span it starts and its own
`DeferredContextSetupHook`, if it has one. -/
structure Sdk where
  spanContext : Nat → SpanContext
  hook : Option (Context → OtelSpan → Context)

/-- The SDK's `n`-th span. -/
def Sdk.span (sdk : Sdk) (n : Nat) : OtelSpan := .sdk n (sdk.spanContext n)

/-- `Start` of the SDK, starting its `n`-th span. -/
def Sdk.start (sdk : Sdk) (ctx : Context) (n : Nat) : Context × OtelSpan :=
  (if skipContextSetup ctx then ctx else setCurrentSpan ctx (sdk.span n), sdk.span n)

/-- The context `WithSpan` of the SDK hands its callback, for its `n`-th span. -/
def Sdk.withSpan (sdk : Sdk) (ctx : Context) (n : Nat) : Context := setCurrentSpan ctx (sdk.span n)

/-- `WrapperTracer.DeferredContextSetupHook`: the SDK's own hook, if it has one, then the span
made current. -/
def Sdk.deferredContextSetupHook (sdk : Sdk) (ctx : Context) (span : OtelSpan) : Context :=
  setCurrentSpan ((sdk.hook.map fun hook => hook ctx span).getD ctx) span

/-! ### The bridge -/

section Bridge

variable (sdk : Sdk) (o : MapOrder GoString)

/-- `BridgeTracer.ContextWithSpanHook`. The bridge's OpenTelemetry tracer is the
`WrapperTracer`, which has the extension. -/
def contextWithSpanHook (ctx : Context) (bSpan : BridgeSpan) : Context :=
  if bSpan.skipDeferHook then ctx else sdk.deferredContextSetupHook ctx bSpan.otelSpan

/-- `ot.ContextWithSpan`: the tracer's hook, then the span stored as the active one. -/
def contextWithSpan (ctx : Context) (span : BridgeSpan) : Context :=
  { contextWithSpanHook sdk ctx span with activeSpan := some span }

/-- `BridgeTracer.ContextWithBridgeSpan`: a bridge span for `span`, with the baggage of the
active span of `ctx`, activated with `skipDeferHook` set. -/
def contextWithBridgeSpan (ctx : Context) (span : OtelSpan) : Context :=
  let otSpanContext := ctx.activeSpan.map (·.ctx)
  let bCtx := newBridgeSpanContext o span.spanContext otSpanContext
  let bSpan : BridgeSpan :=
    ⟨span, bCtx, true, reachable_newBridgeSpanContext o span.spanContext otSpanContext⟩
  contextWithSpan sdk ctx bSpan

/-- `WrapperTracer.Start`, the SDK starting its `n`-th span. -/
def wrapperStart (ctx : Context) (n : Nat) : Context × OtelSpan :=
  let (ctx, span) := sdk.start ctx n
  (if !skipContextSetup ctx then contextWithBridgeSpan sdk o ctx span else ctx, span)

/-- The context `WrapperTracer.WithSpan` hands its body: the span the SDK made current, made
the active OpenTracing span. -/
def wrapperWithSpanBody (ctx : Context) (n : Nat) : Context :=
  let ctx := sdk.withSpan ctx n
  contextWithBridgeSpan sdk o ctx ctx.currentSpan

end Bridge

/-! ### `StartSpan` -/

/-- `oteltrace.RelationshipType`. -/
inductive RelationshipType
  | childOf
  | followsFrom
  deriving DecidableEq, Repr

/-- `ot.ChildOfRef`, the first value of the integer type `ot.SpanReferenceType`. -/
def childOfRef : Int := 0

/-- `ot.FollowsFromRef`. -/
def followsFromRef : Int := 1

/-- `ot.SpanReference`. Its context is a span context of the bridge, which the bridge built
and so is reachable, or `none` for one of another tracer. -/
structure SpanReference where
  type : Int
  referencedContext : Option {c : BridgeSpanContext // c.Reachable}

/-- `bridgeReference`. -/
structure BridgeReference where
  spanContext : Option {c : BridgeSpanContext // c.Reachable}
  relationshipType : RelationshipType

/-- `mustGetBridgeSpanContext`: the span context, or the panic (`none`) for one of another
tracer. -/
def mustGetBridgeSpanContext (ctx : Option {c : BridgeSpanContext // c.Reachable}) :
    Option {c : BridgeSpanContext // c.Reachable} :=
  ctx

/-- `otSpanReferenceTypeToOtelRelationshipType`; `none` is the panic on any other value. -/
def otSpanReferenceTypeToOtelRelationshipType (srt : Int) : Option RelationshipType :=
  if srt = childOfRef then some .childOf
  else if srt = followsFromRef then some .followsFrom
  else none

/-- `otSpanReferencesToBridgeReferenceAndLinks`: the first reference, and the contexts of the
others as links. -/
def otSpanReferencesToBridgeReferenceAndLinks :
    List SpanReference → Option (BridgeReference × List {c : BridgeSpanContext // c.Reachable})
  | [] => some (⟨none, .childOf⟩, [])
  | first :: references => do
    let spanContext ← mustGetBridgeSpanContext first.referencedContext
    let relationshipType ← otSpanReferenceTypeToOtelRelationshipType first.type
    let links ← references.mapM fun reference => mustGetBridgeSpanContext reference.referencedContext
    pure (⟨some spanContext, relationshipType⟩, links)

/-- `BridgeTracer.StartSpan` in the documented set-up, the SDK starting its `n`-th span; `none`
is a panic on a reference. -/
def startSpan (sdk : Sdk) (o : MapOrder GoString) (references : List SpanReference) (n : Nat) :
    Option BridgeSpan := do
  let (bReference, _) ← otSpanReferencesToBridgeReferenceAndLinks references
  let checkCtx := withDeferredSetup Context.background
  let (_, otelSpan) := wrapperStart sdk o checkCtx n
  let otSpanContext := bReference.spanContext.map (·.1)
  pure ⟨otelSpan, newBridgeSpanContext o otelSpan.spanContext otSpanContext, false,
    reachable_newBridgeSpanContext o _ _⟩

/-- `bridgeSpan.SetBaggageItem`. -/
def BridgeSpan.setBaggageItem (s : BridgeSpan) (restrictedKey value : GoString) : BridgeSpan :=
  ⟨s.otelSpan, s.ctx.setBaggageItem restrictedKey value, s.skipDeferHook,
    s.reachable.setBaggageItem restrictedKey value⟩

/-- `SetBaggageItem` for each pair in turn. -/
def BridgeSpan.setBaggageItems (s : BridgeSpan) (items : Items) : BridgeSpan :=
  items.foldl (fun s e => s.setBaggageItem e.1 e.2) s

section Agreement

variable (sdk : Sdk) (o : MapOrder GoString)

/-- A span `StartSpan` made, activated in any context, is current in OpenTelemetry too: the
hook makes it so. -/
theorem agrees_contextWithSpan (ctx : Context) {s : BridgeSpan} (hs : s.skipDeferHook = false) :
    (contextWithSpan sdk ctx s).agrees := by
  simp [contextWithSpan, contextWithSpanHook, hs, Sdk.deferredContextSetupHook, setCurrentSpan,
    Context.agrees]

/-- `ContextWithBridgeSpan` in a context where its span is already current agrees. -/
theorem agrees_contextWithBridgeSpan {ctx : Context} {span : OtelSpan}
    (h : ctx.currentSpan = span) : (contextWithBridgeSpan sdk o ctx span).agrees := by
  simp [contextWithBridgeSpan, contextWithSpan, contextWithSpanHook, Context.agrees, h]

/-- `WrapperTracer.Start` leaves a context that defers the set-up as it was, and otherwise
activates a bridge span of the new span in the context where the SDK made it current. -/
theorem wrapperStart_eq (ctx : Context) (n : Nat) :
    wrapperStart sdk o ctx n = (if ctx.deferredSetup then ctx else
      contextWithBridgeSpan sdk o (setCurrentSpan ctx (sdk.span n)) (sdk.span n), sdk.span n) := by
  cases hd : ctx.deferredSetup <;> simp [wrapperStart, Sdk.start, hd]

theorem agrees_wrapperStart {ctx : Context} (h : ctx.agrees) (n : Nat) :
    (wrapperStart sdk o ctx n).1.agrees := by
  rw [wrapperStart_eq]
  split
  · exact h
  · exact agrees_contextWithBridgeSpan sdk o rfl

theorem agrees_wrapperWithSpanBody (ctx : Context) (n : Nat) :
    (wrapperWithSpanBody sdk o ctx n).agrees :=
  agrees_contextWithBridgeSpan sdk o rfl

end Agreement

/-! ### Runs -/

/-- What the program holds after a run: the number of spans the SDK has started, the contexts
made so far, and the spans `StartSpan` returned. -/
structure World where
  next : Nat
  contexts : List Context
  spans : List BridgeSpan

/-- Before any operation: the background context alone. -/
def World.init : World := ⟨0, [Context.background], []⟩

/-- A span the program holds: the `j`-th that `StartSpan` returned, or the active span of the
`i`-th context, read with `ot.SpanFromContext`. -/
inductive SpanSource
  | started (j : Nat)
  | fromContext (i : Nat)

/-- The span a source names, if it names one. -/
def World.span? (w : World) : SpanSource → Option BridgeSpan
  | .started j => w.spans[j]?
  | .fromContext i => w.contexts[i]?.bind (·.activeSpan)

/-- The operations of a run, on the values the world holds: contexts and spans by their index,
references by their type and the span whose context they name. -/
inductive Op
  | start (i : Nat)
  | withSpan (i : Nat)
  | startSpan (references : List (Int × SpanSource))
  | contextWithSpan (i : Nat) (src : SpanSource)

/-- The span an operation activates with `ot.ContextWithSpan`. -/
def Op.activates (w : World) : Op → Option BridgeSpan
  | .contextWithSpan _ src => w.span? src
  | _ => none

/-- One operation; `none` when it names a value the world does not hold, or `StartSpan`
panics. -/
def World.step (sdk : Sdk) (o : MapOrder GoString) (w : World) : Op → Option World
  | .start i => do
    let ctx ← w.contexts[i]?
    pure ⟨w.next + 1, w.contexts ++ [(wrapperStart sdk o ctx w.next).1], w.spans⟩
  | .withSpan i => do
    let ctx ← w.contexts[i]?
    pure ⟨w.next + 1, w.contexts ++ [wrapperWithSpanBody sdk o ctx w.next], w.spans⟩
  | .startSpan references => do
    let references ← references.mapM fun (type, src) => do
      let s ← w.span? src
      pure (⟨type, some ⟨s.ctx, s.reachable⟩⟩ : SpanReference)
    let span ← startSpan sdk o references w.next
    pure ⟨w.next + 1, w.contexts, w.spans ++ [span]⟩
  | .contextWithSpan i src => do
    let ctx ← w.contexts[i]?
    let s ← w.span? src
    pure ⟨w.next, w.contexts ++ [contextWithSpan sdk ctx s], w.spans⟩

/-- The worlds reached from the start by operations whose activations satisfy `allow`. -/
inductive World.Reachable (sdk : Sdk) (o : MapOrder GoString) (allow : BridgeSpan → Prop) :
    World → Prop
  | init : World.Reachable sdk o allow World.init
  | step {w w' : World} (op : Op) : World.Reachable sdk o allow w → w.step sdk o op = some w' →
      (∀ s, op.activates w = some s → allow s) → World.Reachable sdk o allow w'

section Invariant

variable {sdk : Sdk} {o : MapOrder GoString} {allow : BridgeSpan → Prop} (P : Context → Prop)
  (hstart : ∀ ctx n, P ctx → P (wrapperStart sdk o ctx n).1)
  (hwith : ∀ ctx n, P (wrapperWithSpanBody sdk o ctx n))
  (hctx : ∀ ctx s, allow s → P (contextWithSpan sdk ctx s))

include hstart hwith hctx

/-- A property of contexts that `WrapperTracer.Start` keeps, that holds of every context
`WrapperTracer.WithSpan` hands its body and of every context `ContextWithSpan` makes with an
allowed span, holds of every context one operation adds. -/
theorem World.step_contexts {w w' : World} {op : Op} (hw : ∀ ctx ∈ w.contexts, P ctx)
    (hstep : w.step sdk o op = some w') (hallow : ∀ s, op.activates w = some s → allow s) :
    ∀ ctx ∈ w'.contexts, P ctx := by
  have hnew : ∀ c, (∀ ctx ∈ w.contexts ++ [c], P ctx) ↔ P c := fun c => by
    simp only [List.mem_append, List.mem_singleton]
    exact ⟨fun h => h c (.inr rfl), fun h ctx hc => hc.elim (hw ctx) fun e => e ▸ h⟩
  cases op with
  | start i =>
    simp only [World.step, Option.bind_eq_bind, Option.bind_eq_some, Option.pure_def,
      Option.some.injEq] at hstep
    obtain ⟨ctx, hctx, rfl⟩ := hstep
    exact (hnew _).2 (hstart ctx _ (hw ctx (List.getElem?_mem hctx)))
  | withSpan i =>
    simp only [World.step, Option.bind_eq_bind, Option.bind_eq_some, Option.pure_def,
      Option.some.injEq] at hstep
    obtain ⟨ctx, -, rfl⟩ := hstep
    exact (hnew _).2 (hwith ctx _)
  | startSpan references =>
    simp only [World.step, Option.bind_eq_bind, Option.bind_eq_some, Option.pure_def,
      Option.some.injEq] at hstep
    obtain ⟨_, -, _, -, rfl⟩ := hstep
    exact hw
  | contextWithSpan i src =>
    simp only [World.step, Option.bind_eq_bind, Option.bind_eq_some, Option.pure_def,
      Option.some.injEq] at hstep
    obtain ⟨ctx, -, s, hs, rfl⟩ := hstep
    exact (hnew _).2 (hctx ctx s (hallow s hs))

/-- Such a property that holds of the background context holds of every context of every
run. -/
theorem World.Reachable.contexts (hinit : P Context.background) {w : World}
    (h : World.Reachable sdk o allow w) : ∀ ctx ∈ w.contexts, P ctx := by
  induction h with
  | init => intro ctx hctx; simp [World.init] at hctx; subst hctx; exact hinit
  | step op _ hstep hallow ih => exact World.step_contexts P hstart hwith hctx ih hstep hallow

end Invariant

/-- **The two APIs agree on every context of every run** in which `ContextWithSpan` only
activates spans whose `skipDeferHook` is unset, that is spans `StartSpan` returned, whether
held directly or read back from a context. -/
theorem World.Reachable.contexts_agree {sdk : Sdk} {o : MapOrder GoString} {w : World}
    (h : World.Reachable sdk o (fun s => s.skipDeferHook = false) w) :
    ∀ ctx ∈ w.contexts, ctx.agrees :=
  World.Reachable.contexts (fun ctx => ctx.agrees) (fun _ n h => agrees_wrapperStart sdk o h n)
    (agrees_wrapperWithSpanBody sdk o) (fun ctx _ hs => agrees_contextWithSpan sdk ctx hs) rfl h

/-! ### A span activated away from its context -/

/-- An SDK that gives every span the empty span context and has no hook of its own. -/
def plainSdk : Sdk := ⟨fun _ => emptySpanContext, none⟩

/-- **A span of `ContextWithBridgeSpan`, activated in another context, disagrees.** Two spans
started with `WrapperTracer.Start` in the background context each come with a context where
they are active and current; taking the first one's bridge span from its context with
`SpanFromContext` and activating it in the second one's context leaves the second span
current, since the hook skips a span whose `skipDeferHook` is set. -/
theorem not_forall_agrees :
    ¬ ∀ (sdk : Sdk) (o : MapOrder GoString) (w : World),
      World.Reachable sdk o (fun _ => True) w → ∀ ctx ∈ w.contexts, ctx.agrees := by
  intro h
  have h3 := World.Reachable.step (.contextWithSpan 2 (.fromContext 1))
    (World.Reachable.step (.start 0) (World.Reachable.step (.start 0)
      (@World.Reachable.init plainSdk (MapOrder.entries _) (fun _ => True))
      rfl fun _ _ => trivial) rfl fun _ _ => trivial) rfl fun _ _ => trivial
  have := h _ _ _ h3 _ (List.mem_append_right _ (List.mem_singleton_self _))
  exact absurd this (by decide)

/-- **Without the restriction, only spans that skip the hook disagree**: in every run, each
context agrees or has as its active span one whose `skipDeferHook` is set. -/
theorem World.Reachable.agrees_or_skipDeferHook {sdk : Sdk} {o : MapOrder GoString} {w : World}
    (h : World.Reachable sdk o (fun _ => True) w) :
    ∀ ctx ∈ w.contexts, ctx.agrees ∨ ∃ s, ctx.activeSpan = some s ∧ s.skipDeferHook = true := by
  refine World.Reachable.contexts _ (fun ctx n hQ => ?_)
    (fun ctx n => .inl (agrees_wrapperWithSpanBody sdk o ctx n)) (fun ctx s _ => ?_) (.inl rfl) h
  · rw [wrapperStart_eq]
    split
    · exact hQ
    · exact .inl (agrees_contextWithBridgeSpan sdk o rfl)
  · cases hs : s.skipDeferHook
    · exact .inl (agrees_contextWithSpan sdk ctx hs)
    · exact .inr ⟨s, rfl, hs⟩

/-- Two spans started with `WrapperTracer.Start`, the first one's bridge span activated in the
second one's context. -/
def activatedElsewhere : World :=
  (((World.init.step plainSdk (MapOrder.entries _) (.start 0)).bind
    (·.step plainSdk (MapOrder.entries _) (.start 0))).bind
      (·.step plainSdk (MapOrder.entries _) (.contextWithSpan 2 (.fromContext 1)))).getD World.init

theorem agrees_or_skipDeferHook_activatedElsewhere :
    World.Reachable plainSdk (MapOrder.entries _) (fun _ => True) activatedElsewhere ∧
    ∀ ctx ∈ activatedElsewhere.contexts,
      ctx.agrees ∨ ∃ s, ctx.activeSpan = some s ∧ s.skipDeferHook = true :=
  have h : World.Reachable plainSdk (MapOrder.entries _) (fun _ => True) activatedElsewhere :=
    .step (.contextWithSpan 2 (.fromContext 1))
      (.step (.start 0) (.step (.start 0) .init rfl fun _ _ => trivial) rfl fun _ _ => trivial)
      rfl fun _ _ => trivial
  ⟨h, World.Reachable.agrees_or_skipDeferHook h⟩

/-- `StartSpan` with no reference, then its span activated in the background context. -/
def startedAndActivated : World :=
  ((World.init.step plainSdk (MapOrder.entries _) (.startSpan [])).bind
    (·.step plainSdk (MapOrder.entries _) (.contextWithSpan 0 (.started 0)))).getD World.init

theorem agrees_startedAndActivated :
    World.Reachable plainSdk (MapOrder.entries _) (fun s => s.skipDeferHook = false)
      startedAndActivated ∧ ∀ ctx ∈ startedAndActivated.contexts, ctx.agrees :=
  have h : World.Reachable plainSdk (MapOrder.entries _) (fun s => s.skipDeferHook = false)
      startedAndActivated :=
    .step (.contextWithSpan 0 (.started 0))
      (.step (.startSpan []) .init rfl fun _ h => by cases h) rfl fun _ h => by cases h; rfl
  ⟨h, World.Reachable.contexts_agree h⟩

/-! ### Baggage of a started span -/

end OtelGo
