import OtelGo.Go.Strconv

/-!
# Trace and Span Identifiers

`core.SpanContext` is the portable identity of a span: a 128-bit trace ID in two 64-bit
halves, a 64-bit span ID and a byte of trace flags. Its methods live in `api/core`, which is
not part of the sources at hand; the definitions below follow the specification and the
package's own tests (`span_context_test.go`): a trace ID is present when either half is
nonzero, a span ID when it is nonzero, and a context is valid when it has **both**.
`TraceIDString` and `SpanIDString` print the identifiers as fixed-width lowercase hexadecimal,
as `fmt`'s `%.16x` does.

The zero value is the empty context, the sentinel for "no context" that the codecs return on
every input they reject.
-/

namespace OtelGo

/-- Modelled from the spec: `core.TraceID`, two 64-bit halves. -/
structure TraceID where
  high : UInt64
  low : UInt64
  deriving DecidableEq, Repr

/-- Modelled from the spec: `core.SpanContext`. -/
structure SpanContext where
  traceID : TraceID
  spanID : UInt64
  traceFlags : UInt8
  deriving DecidableEq, Repr

attribute [ext] SpanContext

/-- Modelled from the spec: `core.TraceFlagsSampled`, bit 0 of the trace flags. -/
def traceFlagsSampled : UInt8 := 1

/-- Modelled from the spec: `core.EmptySpanContext()`, the zero value. -/
def emptySpanContext : SpanContext := ⟨⟨0, 0⟩, 0, 0⟩

@[simp] theorem emptySpanContext_traceID : emptySpanContext.traceID = ⟨0, 0⟩ := rfl
@[simp] theorem emptySpanContext_spanID : emptySpanContext.spanID = 0 := rfl
@[simp] theorem emptySpanContext_traceFlags : emptySpanContext.traceFlags = 0 := rfl

namespace SpanContext

/-- Modelled from the spec: `HasTraceID`, either half nonzero. -/
def hasTraceID (sc : SpanContext) : Bool := sc.traceID.high != 0 || sc.traceID.low != 0

/-- Modelled from the spec: `HasSpanID`, a nonzero span ID. -/
def hasSpanID (sc : SpanContext) : Bool := sc.spanID != 0

/-- Modelled from the spec: `IsValid`, both a trace ID and a span ID. -/
def isValid (sc : SpanContext) : Bool := sc.hasTraceID && sc.hasSpanID

/-- Modelled from the spec: `IsSampled`, bit 0 of the trace flags; the other bits are
reserved and ignored. -/
def isSampled (sc : SpanContext) : Bool := sc.traceFlags &&& traceFlagsSampled == traceFlagsSampled

theorem isValid_iff (sc : SpanContext) :
    sc.isValid ↔ (sc.traceID.high ≠ 0 ∨ sc.traceID.low ≠ 0) ∧ sc.spanID ≠ 0 := by
  simp [isValid, hasTraceID, hasSpanID]

/-- Modelled from the spec: `TraceIDString`, the high half then the low half, each as 16
lowercase hexadecimal digits. -/
def traceIDString (sc : SpanContext) : GoString :=
  fmtHex 16 sc.traceID.high.toNat ++ fmtHex 16 sc.traceID.low.toNat

/-- Modelled from the spec: `SpanIDString`, the span ID as 16 lowercase hexadecimal digits. -/
def spanIDString (sc : SpanContext) : GoString := fmtHex 16 sc.spanID.toNat

/-- Validity depends on the identifiers only, never on the flags. -/
@[simp] theorem isValid_with_traceFlags (sc : SpanContext) (f : UInt8) :
    { sc with traceFlags := f }.isValid = sc.isValid := rfl

@[simp] theorem isValid_empty : emptySpanContext.isValid = false := rfl

/-- A context without a span ID is never valid. -/
@[simp] theorem isValid_of_spanID_zero (t : TraceID) (f : UInt8) :
    (⟨t, 0, f⟩ : SpanContext).isValid = false := by
  simp [isValid, hasSpanID]

end SpanContext

end OtelGo
