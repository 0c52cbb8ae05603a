import OtelGo.Bridge.Tags

/-!
# Log Fields as Event Attributes

`bridgeSpan.LogFields` turns OpenTracing log fields into the attributes of one OpenTelemetry
event, and `FinishWithOptions` does the same for each log record before it ends the span. Each
field is marshalled into a `bridgeFieldEncoder`, whose `Emit*` methods all hand the key and the
value to `emitCommon`, which appends `otTagToOtelCoreKeyValue` of them: the conversion `SetTag`
applies to a tag.

`otlog.Field` and its `Marshal` belong to opentracing-go. A field makes one encoder call chosen
by its type (an error's text goes out as a string), a lazy logger makes the calls it makes, and
a no-op field makes none; the model takes a field by those calls. A lazy logger is taken by
the value calls it makes, so one that calls `EmitLazyLogger` again is not covered. Time stamps
are numbers, with `0` the zero `time.Time`.

## Main results

* `otLogFieldsToOtelCoreKeyValues_eq`: the attributes are those of the encoder calls the
  fields make, one for each call, in order, each converted by `otTagToOtelCoreKeyValue` as a
  tag's value is; unlike `SetTag`, no key is treated apart, so a field under `span.kind` or
  `error` is an attribute too.
-/

namespace OtelGo

/-! ### The encoder -/

/-- `bridgeFieldEncoder`: the pairs emitted so far. -/
structure BridgeFieldEncoder where
  pairs : List KeyValue

namespace BridgeFieldEncoder

/-- `emitCommon`: the pair `otTagToOtelCoreKeyValue` makes of the key and the value,
appended. -/
def emitCommon (e : BridgeFieldEncoder) (key : GoString) (value : TagValue) :
    BridgeFieldEncoder :=
  ⟨e.pairs ++ [otTagToOtelCoreKeyValue key value]⟩

/-- `EmitString`. -/
def emitString (e : BridgeFieldEncoder) (key value : GoString) : BridgeFieldEncoder :=
  e.emitCommon key (.string value)

/-- `EmitBool`. -/
def emitBool (e : BridgeFieldEncoder) (key : GoString) (value : Bool) : BridgeFieldEncoder :=
  e.emitCommon key (.bool value)

/-- `EmitInt`, on a 64-bit host. -/
def emitInt (e : BridgeFieldEncoder) (key : GoString) (value : BitVec 64) :
    BridgeFieldEncoder :=
  e.emitCommon key (.int value)

/-- `EmitInt32`. -/
def emitInt32 (e : BridgeFieldEncoder) (key : GoString) (value : BitVec 32) :
    BridgeFieldEncoder :=
  e.emitCommon key (.int32 value)

/-- `EmitInt64`. -/
def emitInt64 (e : BridgeFieldEncoder) (key : GoString) (value : BitVec 64) :
    BridgeFieldEncoder :=
  e.emitCommon key (.int64 value)

/-- `EmitUint32`. -/
def emitUint32 (e : BridgeFieldEncoder) (key : GoString) (value : UInt32) :
    BridgeFieldEncoder :=
  e.emitCommon key (.uint32 value)

/-- `EmitUint64`. -/
def emitUint64 (e : BridgeFieldEncoder) (key : GoString) (value : UInt64) :
    BridgeFieldEncoder :=
  e.emitCommon key (.uint64 value)

/-- `EmitFloat32`, given the `float32` by its exact `float64` value. -/
def emitFloat32 (e : BridgeFieldEncoder) (key : GoString) (value : Float) :
    BridgeFieldEncoder :=
  e.emitCommon key (.float32 value)

/-- `EmitFloat64`. -/
def emitFloat64 (e : BridgeFieldEncoder) (key : GoString) (value : Float) :
    BridgeFieldEncoder :=
  e.emitCommon key (.float64 value)

/-- `EmitObject`: the value by its dynamic type. -/
def emitObject (e : BridgeFieldEncoder) (key : GoString) (value : TagValue) :
    BridgeFieldEncoder :=
  e.emitCommon key value

end BridgeFieldEncoder

/-- A call of an `otlog.Encoder` method that emits one value. -/
inductive EncoderCall
  | emitString (key value : GoString)
  | emitBool (key : GoString) (value : Bool)
  | emitInt (key : GoString) (value : BitVec 64)
  | emitInt32 (key : GoString) (value : BitVec 32)
  | emitInt64 (key : GoString) (value : BitVec 64)
  | emitUint32 (key : GoString) (value : UInt32)
  | emitUint64 (key : GoString) (value : UInt64)
  | emitFloat32 (key : GoString) (value : Float)
  | emitFloat64 (key : GoString) (value : Float)
  | emitObject (key : GoString) (value : TagValue)

namespace EncoderCall

/-- The bridge encoder's method for the call. -/
def apply (e : BridgeFieldEncoder) : EncoderCall → BridgeFieldEncoder
  | .emitString k v => e.emitString k v
  | .emitBool k v => e.emitBool k v
  | .emitInt k v => e.emitInt k v
  | .emitInt32 k v => e.emitInt32 k v
  | .emitInt64 k v => e.emitInt64 k v
  | .emitUint32 k v => e.emitUint32 k v
  | .emitUint64 k v => e.emitUint64 k v
  | .emitFloat32 k v => e.emitFloat32 k v
  | .emitFloat64 k v => e.emitFloat64 k v
  | .emitObject k v => e.emitObject k v

/-- The key of the call. -/
def key : EncoderCall → GoString
  | .emitString k _ | .emitBool k _ | .emitInt k _ | .emitInt32 k _ | .emitInt64 k _
  | .emitUint32 k _ | .emitUint64 k _ | .emitFloat32 k _ | .emitFloat64 k _
  | .emitObject k _ => k

/-- The value of the call, as an `interface{}` of the method's parameter type. -/
def value : EncoderCall → TagValue
  | .emitString _ v => .string v
  | .emitBool _ v => .bool v
  | .emitInt _ v => .int v
  | .emitInt32 _ v => .int32 v
  | .emitInt64 _ v => .int64 v
  | .emitUint32 _ v => .uint32 v
  | .emitUint64 _ v => .uint64 v
  | .emitFloat32 _ v => .float32 v
  | .emitFloat64 _ v => .float64 v
  | .emitObject _ v => v

/-- Every `Emit*` method of the bridge's encoder is `emitCommon` of its key and value. -/
theorem apply_eq_emitCommon (e : BridgeFieldEncoder) (c : EncoderCall) :
    apply e c = e.emitCommon c.key c.value := by
  cases c <;> rfl

end EncoderCall

/-- `otlog.LazyLogger`, by the encoder calls it makes. -/
abbrev LazyLogger := List EncoderCall

/-- `EmitLazyLogger`: the logger makes its calls on the encoder. -/
def BridgeFieldEncoder.emitLazyLogger (e : BridgeFieldEncoder) (value : LazyLogger) :
    BridgeFieldEncoder :=
  value.foldl EncoderCall.apply e

/-! ### Fields, events and finishing -/

/-- `otlog.Field`, by what its `Marshal` does with an encoder: one call, a lazy logger's
calls, or nothing (`log.Noop`). -/
inductive Field
  | call (c : EncoderCall)
  | lazyLogger (value : LazyLogger)
  | noop

/-- `Field.Marshal` on the bridge's encoder. -/
def Field.marshal (e : BridgeFieldEncoder) : Field → BridgeFieldEncoder
  | .call c => c.apply e
  | .lazyLogger value => e.emitLazyLogger value
  | .noop => e

/-- The encoder calls a field makes. -/
def Field.calls : Field → List EncoderCall
  | .call c => [c]
  | .lazyLogger value => value
  | .noop => []

/-- `otLogFieldsToOtelCoreKeyValues`: every field marshalled into one encoder, in order. -/
def otLogFieldsToOtelCoreKeyValues (fields : List Field) : List KeyValue :=
  (fields.foldl Field.marshal ⟨[]⟩).pairs

/-- `ot.LogRecord`. -/
structure LogRecord where
  timestamp : Nat
  fields : List Field

/-- `ot.FinishOptions`; each entry of the bulk log data is given by the record its
`ToLogRecord` makes. -/
structure FinishOptions where
  finishTime : Nat
  logRecords : List LogRecord
  bulkLogData : List LogRecord

/-- A call that adds an event to an OpenTelemetry span, or ends it. -/
inductive EventCall
  | addEvent (name : GoString) (attrs : List KeyValue)
  | addEventWithTimestamp (timestamp : Nat) (name : GoString) (attrs : List KeyValue)
  | endSpan (endTime : Option Nat)

/-- `bridgeSpan.LogFields`: one event, without a name. -/
def logFields (fields : List Field) : EventCall :=
  .addEvent [] (otLogFieldsToOtelCoreKeyValues fields)

/-- `bridgeSpan.LogKV`, given what `otlog.InterleavedKVToFields` makes of the alternating keys
and values: nothing when that fails, and otherwise `LogFields` of the fields. -/
def logKV (fields : Option (List Field)) : List EventCall :=
  match fields with
  | none => []
  | some fields => [logFields fields]

/-- `bridgeSpan.Log`, given the record `ToLogRecord` makes of the log data: `LogFields` of its
fields; the record's time stamp is not passed on. -/
def log (record : LogRecord) : EventCall := logFields record.fields

/-- `bridgeSpan.logRecord`: one event at the record's time, without a name. -/
def logRecord (record : LogRecord) : EventCall :=
  .addEventWithTimestamp record.timestamp [] (otLogFieldsToOtelCoreKeyValues record.fields)

/-- `bridgeSpan.FinishWithOptions`: an event for each log record, then for each entry of the
bulk log data, and the end of the span, at the finish time unless it is zero. -/
def finishWithOptions (opts : FinishOptions) : List EventCall :=
  opts.logRecords.map logRecord ++ opts.bulkLogData.map logRecord ++
    [.endSpan (if opts.finishTime = 0 then none else some opts.finishTime)]

/-- `bridgeSpan.Finish`. -/
def finish : List EventCall := [.endSpan none]

/-! ### The attributes of a list of fields -/

theorem pairs_emitLazyLogger (e : BridgeFieldEncoder) (value : LazyLogger) :
    (e.emitLazyLogger value).pairs =
      e.pairs ++ value.map fun c => otTagToOtelCoreKeyValue c.key c.value := by
  induction value generalizing e with
  | nil => simp [BridgeFieldEncoder.emitLazyLogger]
  | cons c value ih =>
    simp only [BridgeFieldEncoder.emitLazyLogger, List.foldl_cons] at ih ⊢
    rw [ih, EncoderCall.apply_eq_emitCommon]
    simp [BridgeFieldEncoder.emitCommon]

theorem pairs_marshal (e : BridgeFieldEncoder) (f : Field) :
    (f.marshal e).pairs = e.pairs ++ f.calls.map fun c => otTagToOtelCoreKeyValue c.key c.value := by
  cases f with
  | call c => simp [Field.marshal, Field.calls, EncoderCall.apply_eq_emitCommon,
      BridgeFieldEncoder.emitCommon]
  | lazyLogger value => exact pairs_emitLazyLogger e value
  | noop => simp [Field.marshal, Field.calls]

/-- **Log fields become attributes as tags do.** The attributes are those of the encoder calls
the fields make, one for each call, in order: each is `otTagToOtelCoreKeyValue` of the call's
key and value, whatever the key. -/
theorem otLogFieldsToOtelCoreKeyValues_eq (fields : List Field) :
    otLogFieldsToOtelCoreKeyValues fields =
      (fields.flatMap Field.calls).map fun c => otTagToOtelCoreKeyValue c.key c.value := by
  suffices h : ∀ e : BridgeFieldEncoder, (fields.foldl Field.marshal e).pairs =
      e.pairs ++ (fields.flatMap Field.calls).map fun c => otTagToOtelCoreKeyValue c.key c.value from
    h ⟨[]⟩
  induction fields with
  | nil => simp
  | cons f fields ih =>
    intro e
    rw [List.foldl_cons, ih, pairs_marshal, List.flatMap_cons, List.map_append, List.append_assoc]

end OtelGo
