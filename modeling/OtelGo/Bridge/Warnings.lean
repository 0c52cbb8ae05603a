import OtelGo.Bridge.Tracer

/-!
# The Bridge Tracer's Set-Up and Its Warnings

A `BridgeTracer` reaches its OpenTelemetry tracer through `bridgeSetTracer.tracer()`, and
reports two mistakes of its set-up to a `BridgeWarningHandler`, each at most once, behind a
`sync.Once`:

* `tracer()`, which `StartSpan` and `ContextWithSpanHook` call, warns that no tracer was set
  while `SetOpenTelemetryTracer` has not been called;
* `StartSpan` starts its OpenTelemetry span under a context that defers the context set-up,
  and warns that the SDK should have deferred it when `Start` returns another context.

`SetWarningHandler` installs one handler for both. `NewBridgeTracer` installs a handler that
does nothing for the second warning only: the first is called through the `bridgeSetTracer`'s
own field, which `NewBridgeTracer` leaves at its zero value, `nil`, and calling a `nil`
function panics.

This module models `StartSpan` and `ContextWithSpanHook` whole, with whatever OpenTelemetry
tracer is set: the panics of `StartSpan`'s references, the call of `tracer()`, the `Start` of
the tracer it returns, the warning after it, and the span. A tracer is taken by what the bridge
observes of it (`OtelTracer`): whether its `Start` hands back the very context it was given
when that context defers the set-up, the span it starts, and its `DeferredContextSetupHook`
if it has the extension. A handler is taken by what calling it does (`WarningHandler`), and
each message a handler receives is logged in the tracer's state with that handler. A panic is
`none`. The span a hook is called for is one of this tracer. The span's status, which
`StartSpan` sets on a true `error` tag, is the SDK's and is not modelled here.

## Main results

* `startSpan_panics_iff`: `StartSpan` panics exactly on a foreign reference, on a first
  reference of an unknown type, or when a warning is due and its handler is `nil`.
* `wrapper_calls_eq`: once the `WrapperTracer` over the SDK is set, `StartSpan` and
  `ContextWithSpanHook` leave the bridge tracer as it was and are the functions of the
  documented set-up in `OtelGo.Bridge.Tracer`.
* `run_panics_before_setup`: from `NewBridgeTracer`, the first call that asks for the tracer
  panics when it comes before both `SetWarningHandler` and `SetOpenTelemetryTracer`.
* `run_warnings`: in every run, each warning is delivered at most once, to whichever handler,
  and the first never after `SetOpenTelemetryTracer`.
* `run_documentedSetup`: when the tracer set first, and every tracer set after it, hands back
  a context that defers the set-up, no run whose references convert panics, and no handler
  receives a warning.
-/

namespace OtelGo

/-- `BridgeWarningHandler`, by what calling it does: `nil` panics, `noop` is
`NewBridgeTracer`'s `func(msg string) {}`, and `user id` is a handler of the program. -/
inductive WarningHandler
  | nil
  | noop
  | user (id : Nat)
  deriving DecidableEq, Repr

/-- The messages handlers received, each with the handler that received it. -/
abbrev WarningLog := List (WarningHandler × GoString)

/-- Calling the handler with a message: the log with the delivery, or the panic of a `nil`
call. -/
def WarningHandler.call (h : WarningHandler) (msg : GoString) (log : WarningLog) :
    Option WarningLog :=
  match h with
  | .nil => none
  | h => some (log ++ [(h, msg)])

/-- An OpenTelemetry tracer, by what the bridge observes of it: whether its `Start` hands back
the very context it is given when that context defers the set-up, the span `Start` returns as
the tracer's `n`-th, and the `DeferredContextSetupHook` of its
`migration.DeferredContextSetupTracerExtension`, if it implements it. -/
structure OtelTracer where
  keepsDeferredContext : Bool
  span : Nat → OtelSpan
  hook : Option (Context → OtelSpan → Context)

/-- The `WrapperTracer` over the SDK, the tracer of the documented set-up. -/
def OtelTracer.wrapper (sdk : Sdk) : OtelTracer :=
  ⟨true, sdk.span, some sdk.deferredContextSetupHook⟩

/-- A tracer that starts no-op spans, hands back a context that defers the set-up when `keeps`
is set, and has no hook. -/
def OtelTracer.noopLike (keeps : Bool) : OtelTracer := ⟨keeps, fun _ => .noop, none⟩

/-- `WrapperTracer.Start` in a context that defers the set-up hands that context back, with the
span `OtelTracer.wrapper` says. -/
theorem wrapperStart_of_deferredSetup (sdk : Sdk) (o : MapOrder GoString) {ctx : Context}
    (hd : ctx.deferredSetup) (n : Nat) :
    wrapperStart sdk o ctx n = (ctx, (OtelTracer.wrapper sdk).span n) := by
  rw [wrapperStart_eq, if_pos hd]
  rfl

/-- The warning of `bridgeSetTracer.tracer()`. -/
def tracerNotSetWarning : GoString :=
  goStr ("The OpenTelemetry tracer is not set, default no-op tracer is used! " ++
    "Call SetOpenTelemetryTracer to set it up.\n")

/-- The warning of `StartSpan`. -/
def deferredSetupWarning : GoString :=
  goStr ("SDK should have deferred the context setup, see the documentation of " ++
    "go.opentelemetry.io/experimental/bridge/opentracing/migration\n")

theorem tracerNotSetWarning_ne_deferredSetupWarning :
    tracerNotSetWarning ≠ deferredSetupWarning := by decide

/-- `bridgeSetTracer`; `warnOnce` records whether its `Once` has run. -/
structure BridgeSetTracer where
  isSet : Bool
  otelTracer : OtelTracer
  warningHandler : WarningHandler
  warnOnce : Bool

/-- `BridgeTracer`, with the log of what its handlers received. -/
structure BridgeTracer where
  setTracer : BridgeSetTracer
  warningHandler : WarningHandler
  warnOnce : Bool
  log : WarningLog

namespace BridgeTracer

/-- `NewBridgeTracer`: the no-op OpenTelemetry tracer, not marked as set, and the no-op
handler for the tracer's own warning; the `bridgeSetTracer`'s handler keeps its zero value. -/
def newBridgeTracer (noopTracer : OtelTracer) : BridgeTracer :=
  ⟨⟨false, noopTracer, .nil, false⟩, .noop, false, []⟩

/-- `SetWarningHandler`: the handler of both warnings. -/
def setWarningHandler (t : BridgeTracer) (handler : WarningHandler) : BridgeTracer :=
  { t with setTracer := { t.setTracer with warningHandler := handler }, warningHandler := handler }

/-- `SetOpenTelemetryTracer`. -/
def setOpenTelemetryTracer (t : BridgeTracer) (tracer : OtelTracer) : BridgeTracer :=
  { t with setTracer := { t.setTracer with otelTracer := tracer, isSet := true } }

/-- `bridgeSetTracer.tracer()`: while no tracer is set, the `Once` calls the handler with the
warning; then the tracer. -/
def tracer (t : BridgeTracer) : Option (BridgeTracer × OtelTracer) :=
  if !t.setTracer.isSet then
    if t.setTracer.warnOnce then some (t, t.setTracer.otelTracer)
    else do
      let log ← t.setTracer.warningHandler.call tracerNotSetWarning t.log
      pure ({ t with setTracer := { t.setTracer with warnOnce := true }, log := log },
        t.setTracer.otelTracer)
  else some (t, t.setTracer.otelTracer)

/-- What `StartSpan` does after `Start`: when `Start` handed back another context than the one
that defers the set-up, the tracer's `Once` calls its handler with the warning. -/
def warnDeferredSetup (t : BridgeTracer) (keepsDeferredContext : Bool) : Option BridgeTracer :=
  if !keepsDeferredContext then
    if t.warnOnce then some t
    else do
      let log ← t.warningHandler.call deferredSetupWarning t.log
      pure { t with warnOnce := true, log := log }
  else some t

/-- `BridgeTracer.StartSpan`, its OpenTelemetry tracer starting its `n`-th span: the
references, `tracer()`, `Start` under a context that defers the set-up, the warning when
`Start` hands back another context, and the bridge span with the first reference's context as
its parent. -/
def startSpan (t : BridgeTracer) (o : MapOrder GoString) (references : List SpanReference)
    (n : Nat) : Option (BridgeTracer × BridgeSpan) := do
  let (bReference, _) ← otSpanReferencesToBridgeReferenceAndLinks references
  let (t, tracer) ← t.tracer
  let otelSpan := tracer.span n
  let t ← t.warnDeferredSetup tracer.keepsDeferredContext
  let otSpanContext := bReference.spanContext.map (·.1)
  pure (t, ⟨otelSpan, newBridgeSpanContext o otelSpan.spanContext otSpanContext, false,
    reachable_newBridgeSpanContext o _ _⟩)

/-- `BridgeTracer.ContextWithSpanHook` for a bridge span of this tracer: the context as it was
when the span skips the hook; otherwise `tracer()`, then the tracer's
`DeferredContextSetupHook` when it has the extension. -/
def contextWithSpanHook (t : BridgeTracer) (ctx : Context) (bSpan : BridgeSpan) :
    Option (BridgeTracer × Context) :=
  if bSpan.skipDeferHook then some (t, ctx)
  else t.tracer.map fun (t, tracer) =>
    (t, (tracer.hook.map fun hook => hook ctx bSpan.otelSpan).getD ctx)

end BridgeTracer

/-- The calls that read or change a bridge tracer's set-up, with their arguments:
`ot.ContextWithSpan` reaches the tracer through `ContextWithSpanHook`. -/
inductive WarningOp
  | setWarningHandler (handler : WarningHandler)
  | setOpenTelemetryTracer (tracer : OtelTracer)
  | startSpan (o : MapOrder GoString) (references : List SpanReference) (n : Nat)
  | contextWithSpan (ctx : Context) (span : BridgeSpan)

namespace WarningOp

/-- The call asks for the OpenTelemetry tracer, unless its references panic first. -/
def callsTracer : WarningOp → Bool
  | .startSpan .. => true
  | .contextWithSpan _ span => !span.skipDeferHook
  | _ => false

/-- The call is one of the two setters. -/
def isSetter : WarningOp → Bool
  | .setWarningHandler _ | .setOpenTelemetryTracer _ => true
  | _ => false

/-- The call follows the documented set-up: a tracer it sets hands back a context that defers
the set-up, and the references of a `StartSpan` call convert. -/
def documented : WarningOp → Bool
  | .setOpenTelemetryTracer tracer => tracer.keepsDeferredContext
  | .startSpan _ references _ => (otSpanReferencesToBridgeReferenceAndLinks references).isSome
  | _ => true

end WarningOp

namespace BridgeTracer

/-- One call; its span or context is dropped, the tracer's state kept. -/
def step (t : BridgeTracer) : WarningOp → Option BridgeTracer
  | .setWarningHandler handler => some (t.setWarningHandler handler)
  | .setOpenTelemetryTracer tracer => some (t.setOpenTelemetryTracer tracer)
  | .startSpan o references n => (·.1) <$> t.startSpan o references n
  | .contextWithSpan ctx span => (·.1) <$> t.contextWithSpanHook ctx span

/-- A run of calls; `none` when one panics. -/
def run (t : BridgeTracer) : List WarningOp → Option BridgeTracer
  | [] => some t
  | op :: ops => (t.step op).bind (·.run ops)

@[simp] theorem run_nil (t : BridgeTracer) : t.run [] = some t := rfl

@[simp] theorem run_cons (t : BridgeTracer) (op : WarningOp) (ops : List WarningOp) :
    t.run (op :: ops) = (t.step op).bind (·.run ops) := rfl

theorem run_append (t : BridgeTracer) (ops ops' : List WarningOp) :
    t.run (ops ++ ops') = (t.run ops).bind (·.run ops') := by
  induction ops generalizing t with
  | nil => rfl
  | cons op ops ih =>
    simp only [List.cons_append, run_cons, ih]
    cases t.step op <;> rfl

/-! ### What each call can do -/

theorem call_eq_some {h : WarningHandler} {msg : GoString} {log log' : WarningLog}
    (hc : h.call msg log = some log') : log' = log ++ [(h, msg)] := by
  cases h with
  | nil => cases hc
  | noop | user _ => exact (Option.some.inj hc).symm

theorem tracer_eq_some {t t' : BridgeTracer} {tr : OtelTracer} (h : t.tracer = some (t', tr)) :
    tr = t.setTracer.otelTracer ∧ t'.warnOnce = t.warnOnce ∧ t'.warningHandler = t.warningHandler ∧
      (t' = t ∨ t.setTracer.warnOnce = false ∧ t'.setTracer.warnOnce = true ∧
        t.setTracer.warningHandler.call tracerNotSetWarning t.log = some t'.log) := by
  unfold BridgeTracer.tracer at h
  split_ifs at h with hs hw
  · cases h; exact ⟨rfl, rfl, rfl, .inl rfl⟩
  · obtain ⟨log, hc, h⟩ := Option.bind_eq_some.1 h
    cases h
    exact ⟨rfl, rfl, rfl, .inr ⟨by simpa using hw, rfl, hc⟩⟩
  · cases h; exact ⟨rfl, rfl, rfl, .inl rfl⟩

theorem tracer_eq_none_iff {t : BridgeTracer} :
    t.tracer = none ↔ t.setTracer.isSet = false ∧ t.setTracer.warnOnce = false ∧
      t.setTracer.warningHandler = .nil := by
  unfold BridgeTracer.tracer
  cases t.setTracer.isSet <;> cases t.setTracer.warnOnce <;> cases t.setTracer.warningHandler <;>
    simp [WarningHandler.call]

theorem tracer_of_isSet {t : BridgeTracer} (hs : t.setTracer.isSet) :
    t.tracer = some (t, t.setTracer.otelTracer) := by
  simp [BridgeTracer.tracer, hs]

theorem warnDeferredSetup_eq_some {t t' : BridgeTracer} {k : Bool}
    (h : t.warnDeferredSetup k = some t') :
    t'.setTracer = t.setTracer ∧ (t' = t ∨ t.warnOnce = false ∧ t'.warnOnce = true ∧
      t.warningHandler.call deferredSetupWarning t.log = some t'.log) := by
  unfold warnDeferredSetup at h
  split_ifs at h with hk hw
  · cases h; exact ⟨rfl, .inl rfl⟩
  · obtain ⟨log, hc, h⟩ := Option.bind_eq_some.1 h
    cases h
    exact ⟨rfl, .inr ⟨by simpa using hw, rfl, hc⟩⟩
  · cases h; exact ⟨rfl, .inl rfl⟩

/-- What `StartSpan` does to the tracer: `tracer()`, then the check after `Start`. -/
theorem startSpan_eq_some {t t' : BridgeTracer} {o : MapOrder GoString}
    {references : List SpanReference} {n : Nat} {s : BridgeSpan}
    (h : t.startSpan o references n = some (t', s)) :
    ∃ t₁ tracer, t.tracer = some (t₁, tracer) ∧
      t₁.warnDeferredSetup tracer.keepsDeferredContext = some t' := by
  obtain ⟨⟨bReference, _⟩, -, h⟩ := Option.bind_eq_some.1 h
  obtain ⟨⟨t₁, tracer⟩, h₁, h⟩ := Option.bind_eq_some.1 h
  obtain ⟨t₂, h₂, h⟩ := Option.bind_eq_some.1 h
  cases h
  exact ⟨t₁, tracer, h₁, h₂⟩

/-- What `ContextWithSpanHook` does to the tracer: nothing, or `tracer()`. -/
theorem contextWithSpanHook_eq_some {t t' : BridgeTracer} {ctx ctx' : Context} {s : BridgeSpan}
    (h : t.contextWithSpanHook ctx s = some (t', ctx')) :
    t' = t ∨ ∃ tracer, t.tracer = some (t', tracer) := by
  unfold contextWithSpanHook at h
  split_ifs at h
  · cases h; exact .inl rfl
  · obtain ⟨⟨t₁, tracer⟩, h₁, h⟩ := Option.map_eq_some'.1 h
    cases h
    exact .inr ⟨tracer, h₁⟩

/-- **The documented set-up refines this model**: once the `WrapperTracer` over the SDK is set,
`StartSpan` leaves the bridge tracer as it was, panics only on its references, and returns
the span of the documented set-up's `StartSpan`; and `ContextWithSpanHook` leaves the bridge
tracer as it was and returns the context of the documented set-up's hook. -/
theorem wrapper_calls_eq (t : BridgeTracer) (sdk : Sdk) (hs : t.setTracer.isSet)
    (ht : t.setTracer.otelTracer = .wrapper sdk) :
    (∀ o references n, t.startSpan o references n =
      (OtelGo.startSpan sdk o references n).map (t, ·)) ∧
    ∀ ctx bSpan, t.contextWithSpanHook ctx bSpan =
      some (t, OtelGo.contextWithSpanHook sdk ctx bSpan) := by
  refine ⟨fun o references n => ?_, fun ctx bSpan => ?_⟩
  · have hw := wrapperStart_of_deferredSetup sdk o
      (show (withDeferredSetup Context.background).deferredSetup from rfl) n
    unfold startSpan OtelGo.startSpan
    dsimp only
    rw [tracer_of_isSet hs, ht, hw]
    cases otSpanReferencesToBridgeReferenceAndLinks references <;> rfl
  · unfold contextWithSpanHook OtelGo.contextWithSpanHook
    rw [tracer_of_isSet hs, ht]
    split_ifs <;> rfl

/-- The documented set-up: `NewBridgeTracer`, then `SetOpenTelemetryTracer` with the
`WrapperTracer` over the SDK. -/
def documentedTracer (sdk : Sdk) : BridgeTracer :=
  (newBridgeTracer (OtelTracer.noopLike true)).setOpenTelemetryTracer (.wrapper sdk)

theorem wrapper_calls_eq_documentedTracer :
    (documentedTracer plainSdk).setTracer.isSet ∧
    (documentedTracer plainSdk).setTracer.otelTracer = .wrapper plainSdk ∧
    (∀ o references n, (documentedTracer plainSdk).startSpan o references n =
      (OtelGo.startSpan plainSdk o references n).map (documentedTracer plainSdk, ·)) ∧
    ∀ ctx bSpan, (documentedTracer plainSdk).contextWithSpanHook ctx bSpan =
      some (documentedTracer plainSdk, OtelGo.contextWithSpanHook plainSdk ctx bSpan) :=
  ⟨rfl, rfl, wrapper_calls_eq _ plainSdk rfl rfl⟩

/-! ### The warnings' invariant -/

/-- The log counts a message at most once per `Once` that ran, and holds nothing else. -/
structure Invariant (t : BridgeTracer) : Prop where
  notSet : t.log.countP (fun e => e.2 = tracerNotSetWarning) ≤
    if t.setTracer.warnOnce then 1 else 0
  deferred : t.log.countP (fun e => e.2 = deferredSetupWarning) ≤ if t.warnOnce then 1 else 0
  messages : ∀ e ∈ t.log, e.2 = tracerNotSetWarning ∨ e.2 = deferredSetupWarning

theorem invariant_newBridgeTracer (noopTracer : OtelTracer) :
    (newBridgeTracer noopTracer).Invariant :=
  ⟨Nat.zero_le _, Nat.zero_le _, nofun⟩

theorem call_countP_self {h : WarningHandler} {msg : GoString} {log log' : WarningLog}
    (hc : h.call msg log = some log') :
    log'.countP (fun e => e.2 = msg) = log.countP (fun e => e.2 = msg) + 1 := by
  rw [call_eq_some hc]
  simp [List.countP_append]

theorem call_countP_of_ne {h : WarningHandler} {msg : GoString} {log log' : WarningLog}
    (hc : h.call msg log = some log') {m : GoString} (hm : msg ≠ m) :
    log'.countP (fun e => e.2 = m) = log.countP (fun e => e.2 = m) := by
  rw [call_eq_some hc]
  simp [List.countP_append, hm]

theorem mem_of_call {h : WarningHandler} {msg : GoString} {log log' : WarningLog}
    (hc : h.call msg log = some log') {e : WarningHandler × GoString} (he : e ∈ log') :
    e ∈ log ∨ e.2 = msg := by
  rw [call_eq_some hc, List.mem_append, List.mem_singleton] at he
  exact he.imp_right fun he => by rw [he]

theorem Invariant.tracer {t t' : BridgeTracer} {tr : OtelTracer} (ht : t.Invariant)
    (h : t.tracer = some (t', tr)) : t'.Invariant := by
  obtain ⟨-, hwo, -, rfl | ⟨hw, hw', hc⟩⟩ := tracer_eq_some h
  · exact ht
  have h1 := ht.notSet
  rw [hw, if_neg Bool.false_ne_true] at h1
  refine ⟨?_, ?_, fun e he => (mem_of_call hc he).elim (ht.messages e) .inl⟩
  · rw [hw', if_pos rfl, call_countP_self hc]; omega
  · rw [hwo, call_countP_of_ne hc tracerNotSetWarning_ne_deferredSetupWarning]; exact ht.deferred

theorem Invariant.warnDeferredSetup {t t' : BridgeTracer} {k : Bool} (ht : t.Invariant)
    (h : t.warnDeferredSetup k = some t') : t'.Invariant := by
  obtain ⟨hst, rfl | ⟨hw, hw', hc⟩⟩ := warnDeferredSetup_eq_some h
  · exact ht
  have h2 := ht.deferred
  rw [hw, if_neg Bool.false_ne_true] at h2
  refine ⟨?_, ?_, fun e he => (mem_of_call hc he).elim (ht.messages e) .inr⟩
  · rw [hst, call_countP_of_ne hc (Ne.symm tracerNotSetWarning_ne_deferredSetupWarning)]
    exact ht.notSet
  · rw [hw', if_pos rfl, call_countP_self hc]; omega

theorem Invariant.step {t t' : BridgeTracer} (ht : t.Invariant) {op : WarningOp}
    (h : t.step op = some t') : t'.Invariant := by
  cases op with
  | setWarningHandler handler => cases h; exact ⟨ht.1, ht.2, ht.3⟩
  | setOpenTelemetryTracer tracer => cases h; exact ⟨ht.1, ht.2, ht.3⟩
  | startSpan o references n =>
    obtain ⟨⟨t₁, s⟩, h₁, rfl⟩ := Option.map_eq_some'.1 h
    obtain ⟨t₂, tracer, h₂, h₃⟩ := startSpan_eq_some h₁
    exact (ht.tracer h₂).warnDeferredSetup h₃
  | contextWithSpan ctx span =>
    obtain ⟨⟨t₁, ctx₁⟩, h₁, rfl⟩ := Option.map_eq_some'.1 h
    obtain rfl | ⟨tracer, h₂⟩ := contextWithSpanHook_eq_some h₁
    · exact ht
    · exact ht.tracer h₂

theorem Invariant.run {t t' : BridgeTracer} (ht : t.Invariant) {ops : List WarningOp}
    (h : t.run ops = some t') : t'.Invariant := by
  induction ops generalizing t with
  | nil => cases h; exact ht
  | cons op ops ih =>
    obtain ⟨t₁, h₁, h⟩ := Option.bind_eq_some.1 h
    exact ih (ht.step h₁) h

/-! ### Runs -/

/-- Once a tracer is set it stays set, and no call delivers the first warning. -/
theorem step_of_isSet {t t' : BridgeTracer} (hs : t.setTracer.isSet) {op : WarningOp}
    (h : t.step op = some t') :
    t'.setTracer.isSet ∧ t'.log.countP (fun e => e.2 = tracerNotSetWarning) =
      t.log.countP (fun e => e.2 = tracerNotSetWarning) := by
  cases op with
  | setWarningHandler handler => cases h; exact ⟨hs, rfl⟩
  | setOpenTelemetryTracer tracer => cases h; exact ⟨rfl, rfl⟩
  | startSpan o references n =>
    obtain ⟨⟨t₁, s⟩, h₁, rfl⟩ := Option.map_eq_some'.1 h
    obtain ⟨t₂, tracer, h₂, h₃⟩ := startSpan_eq_some h₁
    rw [tracer_of_isSet hs, Option.some.injEq, Prod.mk.injEq] at h₂
    obtain ⟨rfl, -⟩ := h₂
    obtain ⟨hst, rfl | ⟨-, -, hc⟩⟩ := warnDeferredSetup_eq_some h₃
    · exact ⟨hs, rfl⟩
    · exact ⟨hst ▸ hs,
        call_countP_of_ne hc (Ne.symm tracerNotSetWarning_ne_deferredSetupWarning)⟩
  | contextWithSpan ctx span =>
    obtain ⟨⟨t₁, ctx₁⟩, h₁, rfl⟩ := Option.map_eq_some'.1 h
    obtain rfl | ⟨tracer, h₂⟩ := contextWithSpanHook_eq_some h₁
    · exact ⟨hs, rfl⟩
    · rw [tracer_of_isSet hs, Option.some.injEq, Prod.mk.injEq] at h₂
      obtain ⟨rfl, -⟩ := h₂
      exact ⟨hs, rfl⟩

theorem run_of_isSet {t t' : BridgeTracer} (hs : t.setTracer.isSet) {ops : List WarningOp}
    (h : t.run ops = some t') : t'.log.countP (fun e => e.2 = tracerNotSetWarning) =
      t.log.countP (fun e => e.2 = tracerNotSetWarning) := by
  induction ops generalizing t with
  | nil => cases h; rfl
  | cons op ops ih =>
    obtain ⟨t₁, h₁, h⟩ := Option.bind_eq_some.1 h
    obtain ⟨hs₁, hc⟩ := step_of_isSet hs h₁
    exact (ih hs₁ h).trans hc

/-- **Each warning at most once.** In every run from `NewBridgeTracer` that does not panic,
whatever handlers and tracers it installs, the handlers, the no-op one included, receive the
two warnings and nothing else, each at most once in all, and the first never after
`SetOpenTelemetryTracer`. -/
theorem run_warnings (noopTracer : OtelTracer) {ops : List WarningOp} {t : BridgeTracer}
    (h : (newBridgeTracer noopTracer).run ops = some t) :
    (t.log.countP (fun e => e.2 = tracerNotSetWarning) ≤ 1 ∧
      t.log.countP (fun e => e.2 = deferredSetupWarning) ≤ 1 ∧
      ∀ e ∈ t.log, e.2 = tracerNotSetWarning ∨ e.2 = deferredSetupWarning) ∧
    ∀ pre tracer post, ops = pre ++ .setOpenTelemetryTracer tracer :: post →
      ∃ t₁, (newBridgeTracer noopTracer).run pre = some t₁ ∧
        t.log.countP (fun e => e.2 = tracerNotSetWarning) =
          t₁.log.countP (fun e => e.2 = tracerNotSetWarning) := by
  have ht := (invariant_newBridgeTracer noopTracer).run h
  refine ⟨⟨ht.notSet.trans (ite_le_one le_rfl (Nat.zero_le 1)),
    ht.deferred.trans (ite_le_one le_rfl (Nat.zero_le 1)), ht.messages⟩, ?_⟩
  rintro pre tracer post rfl
  rw [run_append] at h
  obtain ⟨t₁, h₁, h⟩ := Option.bind_eq_some.1 h
  exact ⟨t₁, h₁, run_of_isSet (t := t₁.setOpenTelemetryTracer tracer) rfl h⟩

theorem run_warnings_noopHandler : ∃ t, (newBridgeTracer (OtelTracer.noopLike false)).run
      [.setWarningHandler .noop, .startSpan (MapOrder.entries _) [] 0,
        .startSpan (MapOrder.entries _) [] 1, .setOpenTelemetryTracer (OtelTracer.noopLike true),
        .startSpan (MapOrder.entries _) [] 2] = some t ∧
    (t.log.countP (fun e => e.2 = tracerNotSetWarning) ≤ 1 ∧
      t.log.countP (fun e => e.2 = deferredSetupWarning) ≤ 1 ∧
      ∀ e ∈ t.log, e.2 = tracerNotSetWarning ∨ e.2 = deferredSetupWarning) ∧
    ∀ pre tracer post, [.setWarningHandler .noop, .startSpan (MapOrder.entries _) [] 0,
        .startSpan (MapOrder.entries _) [] 1, .setOpenTelemetryTracer (OtelTracer.noopLike true),
        .startSpan (MapOrder.entries _) [] 2] = pre ++ .setOpenTelemetryTracer tracer :: post →
      ∃ t₁, (newBridgeTracer (OtelTracer.noopLike false)).run pre = some t₁ ∧
        t.log.countP (fun e => e.2 = tracerNotSetWarning) =
          t₁.log.countP (fun e => e.2 = tracerNotSetWarning) :=
  ⟨_, rfl, run_warnings _ rfl⟩

/-- `NewBridgeTracer` panics on the first call that asks for the tracer: no tracer is set, the
`Once` has not run, and the handler it calls is `nil`. -/
theorem step_newBridgeTracer_of_callsTracer (noopTracer : OtelTracer) {op : WarningOp}
    (hop : op.callsTracer) : (newBridgeTracer noopTracer).step op = none := by
  have htr : (newBridgeTracer noopTracer).tracer = none := tracer_eq_none_iff.2 ⟨rfl, rfl, rfl⟩
  cases op with
  | startSpan o references n =>
    simp only [BridgeTracer.step, Option.map_eq_map, Option.map_eq_none', startSpan]
    rcases otSpanReferencesToBridgeReferenceAndLinks references with _ | ⟨b, l⟩ <;> simp [htr]
  | contextWithSpan ctx span =>
    simp only [WarningOp.callsTracer, Bool.not_eq_true'] at hop
    simp [step, contextWithSpanHook, hop, htr]
  | _ => cases hop

theorem step_newBridgeTracer (noopTracer : OtelTracer) {op : WarningOp}
    (hs : op.isSetter = false) (hop : op.callsTracer = false) :
    (newBridgeTracer noopTracer).step op = some (newBridgeTracer noopTracer) := by
  cases op with
  | setWarningHandler _ => cases hs
  | setOpenTelemetryTracer _ => cases hs
  | startSpan _ _ _ => cases hop
  | contextWithSpan ctx span =>
    simp only [WarningOp.callsTracer, Bool.not_eq_false'] at hop
    simp [step, contextWithSpanHook, hop]

/-- **Asking for the tracer before the set-up panics.** From `NewBridgeTracer`, a run whose
first `StartSpan`, or `ContextWithSpan` of a span that runs the hook, comes before any
`SetWarningHandler` and `SetOpenTelemetryTracer` panics there: the `bridgeSetTracer`'s
warning handler is still `nil` when its `Once` calls it. -/
theorem run_panics_before_setup (noopTracer : OtelTracer) (pre : List WarningOp)
    (op : WarningOp) (post : List WarningOp) (hpre : pre.all fun p => !p.isSetter)
    (hop : op.callsTracer) : (newBridgeTracer noopTracer).run (pre ++ op :: post) = none := by
  induction pre with
  | nil => simp [step_newBridgeTracer_of_callsTracer noopTracer hop]
  | cons p pre ih =>
    simp only [List.all_cons, Bool.and_eq_true, Bool.not_eq_true'] at hpre
    cases hp : p.callsTracer
    · simp [step_newBridgeTracer noopTracer hpre.1 hp, ih hpre.2]
    · simp [step_newBridgeTracer_of_callsTracer noopTracer hp]

theorem run_panics_before_setup_startSpan :
    ([] : List WarningOp).all (fun p => !p.isSetter) ∧
      (WarningOp.startSpan (MapOrder.entries _) [] 0).callsTracer ∧
      (newBridgeTracer (OtelTracer.noopLike true)).run ([] ++
        .startSpan (MapOrder.entries _) [] 0 :: [.setWarningHandler (.user 0)]) = none :=
  ⟨rfl, rfl, run_panics_before_setup _ _ _ _ rfl rfl⟩

/-- A tracer is set, its `Start` hands back a context that defers the set-up, and no handler
has received a warning. -/
def Quiet (t : BridgeTracer) : Prop :=
  t.setTracer.isSet ∧ t.setTracer.otelTracer.keepsDeferredContext ∧ t.log = []

theorem Quiet.step {t : BridgeTracer} (hq : t.Quiet) {op : WarningOp}
    (hop : op.documented) : ∃ t', t.step op = some t' ∧ t'.Quiet := by
  obtain ⟨hs, hk, hl⟩ := hq
  cases op with
  | setWarningHandler handler => exact ⟨_, rfl, hs, hk, hl⟩
  | setOpenTelemetryTracer tracer => exact ⟨_, rfl, rfl, hop, hl⟩
  | startSpan o references n =>
    obtain ⟨r, hr⟩ := Option.isSome_iff_exists.1 hop
    refine ⟨t, ?_, hs, hk, hl⟩
    simp [BridgeTracer.step, startSpan, hr, tracer_of_isSet hs, warnDeferredSetup, hk]
  | contextWithSpan ctx span =>
    refine ⟨t, ?_, hs, hk, hl⟩
    simp only [BridgeTracer.step, contextWithSpanHook]
    split_ifs <;> simp [tracer_of_isSet hs]

theorem Quiet.run {t : BridgeTracer} (hq : t.Quiet) {ops : List WarningOp}
    (hops : ops.all WarningOp.documented) : ∃ t', t.run ops = some t' ∧ t'.Quiet := by
  induction ops generalizing t with
  | nil => exact ⟨t, rfl, hq⟩
  | cons op ops ih =>
    simp only [List.all_cons, Bool.and_eq_true] at hops
    obtain ⟨t₁, h₁, hq₁⟩ := hq.step hops.1
    obtain ⟨t', h, hq'⟩ := ih hq₁ hops.2
    exact ⟨t', by simp [h₁, h], hq'⟩

/-- **The documented set-up never warns.** When the first call sets an OpenTelemetry tracer
whose `Start` hands back a context that defers the set-up, as the `WrapperTracer` over a
compliant SDK does, every tracer set later does too, and the references of every `StartSpan`
call are contexts of this bridge with a first reference of type `ChildOfRef` or
`FollowsFromRef`, no run panics, whatever handlers it installs (`nil` included), and no handler
receives a warning. -/
theorem run_documentedSetup (noopTracer tracer : OtelTracer) (hk : tracer.keepsDeferredContext)
    (ops : List WarningOp) (hops : ops.all WarningOp.documented) :
    ∃ t, (newBridgeTracer noopTracer).run (.setOpenTelemetryTracer tracer :: ops) = some t ∧
      t.log = [] := by
  obtain ⟨t, h, -, -, hl⟩ := Quiet.run (t := (newBridgeTracer noopTracer).setOpenTelemetryTracer
    tracer) ⟨rfl, hk, rfl⟩ hops
  exact ⟨t, h, hl⟩

theorem run_documentedSetup_nilHandler : (OtelTracer.noopLike true).keepsDeferredContext ∧
    [WarningOp.setWarningHandler .nil, .startSpan (MapOrder.entries _) [] 0].all
      WarningOp.documented ∧
    ∃ t, (newBridgeTracer (OtelTracer.noopLike false)).run
      (.setOpenTelemetryTracer (OtelTracer.noopLike true) ::
        [.setWarningHandler .nil, .startSpan (MapOrder.entries _) [] 0]) = some t ∧ t.log = [] :=
  ⟨rfl, rfl, run_documentedSetup _ _ rfl _ rfl⟩

end BridgeTracer

end OtelGo
