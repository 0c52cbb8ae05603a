import OtelGo.Bridge.Baggage
import OtelGo.Core.Value

/-!
# Tags as Attributes and Status

OpenTracing tags reach the bridge two ways: as the `Tags` of `StartSpan`'s options, which
`otTagsToOtelAttributesKindAndError` turns into the new span's attributes and an error flag
in one `range` over the tag map, and one at a time through `bridgeSpan.SetTag`, which makes
the same decisions as calls on the OpenTelemetry span. Both skip the `span.kind` tag, read
the `error` tag as a status when its value is a `bool`, and turn every other tag into a
`core.KeyValue` with `otTagToOtelCoreKeyValue`, a switch on the value's dynamic type.

The attribute values are those of `OtelGo.Core.Value`.

## Main results

* `otTagsToOtelAttributesKindAndError_spec`: in whatever order the map is ranged over, the
  attributes are those of every tag but `span.kind` and `error`, and the error flag is set
  exactly when the `error` tag is the boolean `true`.
* `startSpan_tags_agree_setTag`: `StartSpan` and `SetTag` read a tag map alike: the same
  attributes, up to order, and the error flag set exactly when `SetTag` would set the status
  `Unknown`.
-/

namespace OtelGo

/-! ### Tags -/

/-- A tag's `interface{}` value, by the dynamic types `otTagToOtelCoreKeyValue` tells apart;
`other` is a value of any other type, with the text `fmt.Sprint` gives it. A `float32` is
given by its exact `float64` value. -/
inductive TagValue
  | bool (v : Bool)
  | int64 (v : BitVec 64)
  | uint64 (v : UInt64)
  | float64 (v : Float)
  | int32 (v : BitVec 32)
  | uint32 (v : UInt32)
  | float32 (v : Float)
  | int (v : BitVec 64)
  | uint (v : UInt64)
  | string (v : GoString)
  | bytes (v : List UInt8)
  | other (text : GoString)

/-- A Go `map[string]interface{}` of tags. -/
abbrev TagMap := AList fun _ : GoString => TagValue

/-- `otext.SpanKind`. -/
def spanKindTag : GoString := goStr "span.kind"

/-- `otext.Error`. -/
def errorTag : GoString := goStr "error"

/-- `otTagToOtelCoreKey`. -/
def otTagToOtelCoreKey (k : GoString) : Key := ⟨k⟩

/-- `otTagToOtelCoreKeyValue`: the key, and the value by its dynamic type. -/
def otTagToOtelCoreKeyValue (k : GoString) (v : TagValue) : KeyValue :=
  let key := otTagToOtelCoreKey k
  match v with
  | .bool v => key.bool v
  | .int64 v => key.int64 v
  | .uint64 v => key.uint64 v
  | .float64 v => key.float64 v
  | .int32 v => key.int32 v
  | .uint32 v => key.uint32 v
  | .float32 v => key.float32 v
  | .int v => key.int v
  | .uint v => key.uint v
  | .string v => key.string v
  | .bytes v => key.bytes v
  | .other text => key.string text

/-- `v.(bool)` is `true`. -/
def TagValue.isTrue : TagValue → Bool
  | .bool b => b
  | _ => false

/-- `otTagsToOtelAttributesKindAndError`, ranging over the tags in the order `o`: the
attributes and the error flag (the span kind it returns carries nothing). -/
def otTagsToOtelAttributesKindAndError (o : MapOrder TagValue) (tags : TagMap) :
    List KeyValue × Bool :=
  (o.range tags).foldl (fun (acc : List KeyValue × Bool) e =>
    if e.1 = spanKindTag then acc
    else if e.1 = errorTag then (acc.1, acc.2 || e.2.isTrue)
    else (acc.1 ++ [otTagToOtelCoreKeyValue e.1 e.2], acc.2)) ([], false)

/-- `grpc/codes` values the bridge sets as a span's status. -/
inductive StatusCode
  | ok
  | unknown
  deriving DecidableEq, Repr

/-- A call the bridge makes on an OpenTelemetry span. -/
inductive SpanCall
  | setStatus (code : StatusCode)
  | setAttribute (kv : KeyValue)

/-- The attribute a call sets, if it sets one. -/
def SpanCall.attribute? : SpanCall → Option KeyValue
  | .setAttribute kv => some kv
  | .setStatus _ => none

/-- `bridgeSpan.SetTag`, by the calls it makes on the OpenTelemetry span. -/
def setTag (key : GoString) (value : TagValue) : List SpanCall :=
  if key = spanKindTag then []
  else if key = errorTag then
    match value with
    | .bool b => [.setStatus (if b then .unknown else .ok)]
    | _ => []
  else [.setAttribute (otTagToOtelCoreKeyValue key value)]

/-! ### One range over the tags -/

/-- Whether a tag becomes an attribute. -/
def IsAttributeTag (e : Σ _ : GoString, TagValue) : Prop := e.1 ≠ spanKindTag ∧ e.1 ≠ errorTag

instance (e : Σ _ : GoString, TagValue) : Decidable (IsAttributeTag e) :=
  inferInstanceAs (Decidable (_ ∧ _))

/-- The loop, over any list of entries: the attributes of the entries that make them, in
order, and whether some `error` entry is `true`. -/
theorem foldl_otTags (l : List (Σ _ : GoString, TagValue)) (acc : List KeyValue × Bool) :
    l.foldl (fun (acc : List KeyValue × Bool) e =>
      if e.1 = spanKindTag then acc
      else if e.1 = errorTag then (acc.1, acc.2 || e.2.isTrue)
      else (acc.1 ++ [otTagToOtelCoreKeyValue e.1 e.2], acc.2)) acc =
    (acc.1 ++ (l.filter fun e => IsAttributeTag e).map (fun e => otTagToOtelCoreKeyValue e.1 e.2),
      acc.2 || l.any fun e => e.1 = errorTag && e.2.isTrue) := by
  induction l generalizing acc with
  | nil => simp
  | cons e l ih =>
    have hne : spanKindTag ≠ errorTag := by decide
    rw [List.foldl_cons, ih]
    by_cases hk : e.1 = spanKindTag
    · simp [hk, IsAttributeTag, hne]
    by_cases he : e.1 = errorTag
    · simp [he, IsAttributeTag, Bool.or_assoc, Ne.symm hne]
    · simp [hk, he, IsAttributeTag]

/-- The tag map's entries under the `error` key: the `error` tag, if there is one. -/
theorem any_errorTag (tags : TagMap) :
    (tags.entries.any fun e => e.1 = errorTag && e.2.isTrue) =
      (tags.lookup errorTag).any TagValue.isTrue := by
  cases h : tags.lookup errorTag with
  | none =>
    simp only [Option.any_none, List.any_eq_false, Bool.and_eq_true, decide_eq_true_eq, not_and]
    intro e he hk
    rw [← hk] at h
    exact absurd (AList.mem_lookup_iff.2 he) (by simp [h])
  | some v =>
    have hv := AList.mem_lookup_iff.1 h
    rw [Option.any_some]
    cases hvt : v.isTrue
    · simp only [List.any_eq_false, Bool.and_eq_true, decide_eq_true_eq, not_and, Bool.not_eq_true]
      intro e he hk
      have : e = ⟨errorTag, v⟩ := by
        obtain ⟨k, w⟩ := e
        obtain rfl : k = errorTag := hk
        obtain rfl : w = v := Option.some.inj ((AList.mem_lookup_iff.2 he).symm.trans h)
        rfl
      subst this
      exact hvt
    · exact List.any_eq_true.2 ⟨_, hv, by simp [hvt]⟩

/-- **Tags at `StartSpan`, in any order.** Whatever order the `range` takes, the attributes
are those of every tag other than `span.kind` and `error`, one each, in that order, so the same
up to order for every order; and the error flag is set exactly when the map holds `error` with
the boolean value `true`. -/
theorem otTagsToOtelAttributesKindAndError_spec (o : MapOrder TagValue) (tags : TagMap) :
    (otTagsToOtelAttributesKindAndError o tags).1 =
      ((o.range tags).filter fun e => IsAttributeTag e).map
        (fun e => otTagToOtelCoreKeyValue e.1 e.2) ∧
    (otTagsToOtelAttributesKindAndError o tags).1.Perm
      ((tags.entries.filter fun e => IsAttributeTag e).map
        (fun e => otTagToOtelCoreKeyValue e.1 e.2)) ∧
    (otTagsToOtelAttributesKindAndError o tags).2 = (tags.lookup errorTag).any TagValue.isTrue := by
  have h := foldl_otTags (o.range tags) ([], false)
  simp only [List.nil_append, Bool.false_or] at h
  refine ⟨by rw [otTagsToOtelAttributesKindAndError, h], ?_, ?_⟩
  · rw [otTagsToOtelAttributesKindAndError, h]
    exact ((o.perm tags).filter _).map _
  · rw [otTagsToOtelAttributesKindAndError, h, ← any_errorTag]
    exact Bool.eq_iff_iff.2 (by simp only [List.any_eq_true, (o.perm tags).mem_iff])

/-! ### `SetTag` reads tags as `StartSpan` does -/

theorem filterMap_setTag (e : Σ _ : GoString, TagValue) :
    (setTag e.1 e.2).filterMap SpanCall.attribute? =
      if IsAttributeTag e then [otTagToOtelCoreKeyValue e.1 e.2] else [] := by
  unfold setTag IsAttributeTag
  by_cases hk : e.1 = spanKindTag
  · simp [hk]
  by_cases he : e.1 = errorTag
  · rcases e with ⟨k, v⟩
    cases v <;> simp_all [SpanCall.attribute?]
  · simp [hk, he, SpanCall.attribute?]

theorem mem_setTag_unknown (k : GoString) (v : TagValue) :
    SpanCall.setStatus .unknown ∈ setTag k v ↔ k = errorTag ∧ v.isTrue := by
  unfold setTag
  by_cases hk : k = spanKindTag
  · simp [hk, show spanKindTag ≠ errorTag by decide]
  by_cases he : k = errorTag
  · subst he
    cases v with
    | bool b => cases b <;> simp [hk, TagValue.isTrue]
    | _ => simp [hk, TagValue.isTrue]
  · simp [hk, he]

/-- **`StartSpan` and `SetTag` read a tag map alike.** For every order of the `range`, the
attributes `StartSpan` gives the new span are, up to order, those `SetTag` would set tag by
tag, and its error flag is set exactly when `SetTag` would set the status `Unknown`. -/
theorem startSpan_tags_agree_setTag (o : MapOrder TagValue) (tags : TagMap) :
    (otTagsToOtelAttributesKindAndError o tags).1.Perm
      ((tags.entries.flatMap fun e => setTag e.1 e.2).filterMap SpanCall.attribute?) ∧
    ((otTagsToOtelAttributesKindAndError o tags).2 = true ↔
      SpanCall.setStatus .unknown ∈ tags.entries.flatMap fun e => setTag e.1 e.2) := by
  have h := foldl_otTags (o.range tags) ([], false)
  simp only [List.nil_append, Bool.false_or] at h
  have hcalls : ∀ l : List (Σ _ : GoString, TagValue),
      (l.flatMap fun e => setTag e.1 e.2).filterMap SpanCall.attribute? =
        (l.filter fun e => IsAttributeTag e).map fun e => otTagToOtelCoreKeyValue e.1 e.2 := by
    intro l
    induction l with
    | nil => rfl
    | cons e l ih =>
      rw [List.flatMap_cons, List.filterMap_append, filterMap_setTag, ih]
      by_cases he : IsAttributeTag e <;> simp [he]
  rw [otTagsToOtelAttributesKindAndError, h, hcalls]
  refine ⟨((o.perm tags).filter _).map _, ?_⟩
  simp only [List.any_eq_true, Bool.and_eq_true, decide_eq_true_eq, List.mem_flatMap,
    mem_setTag_unknown, (o.perm tags).mem_iff]

end OtelGo
