import OtelGo.Core.SpanContext
import OtelGo.Core.Value

/-!
# The Text of a Streaming Event

`format.AppendEvent` writes one line for an event of the streaming exporter: the event's time,
a part chosen by the event's type, and a bracketed scope that lists the event's attributes,
its context tags, and the IDs of its span context. Every key-value pair goes out as
` name=value`, the value printed by `Value.Emit`. A tag whose key is also an attribute is
skipped (the callback `f(true)`), so the attribute's value is the one the scope shows. Under
`RECORD_STATS`, each measurement's tags go inside braces, with a comma before each but the
first, which the callback decides by a counter.

The types `AppendEvent` reads belong to packages that are not among the sources. An event
(`reader.Event`) is taken by the fields it reads, with its time, duration and status given by
the text it prints for them (`Time.Format` with the layout `2006/01/02 15-04-05.000000`,
`Duration.String`, `Status.String`). A `tag.Map` is a Go map from key names to values: its
`Foreach` visits every entry once in an order Go leaves open (a `MapOrder`), and every
callback here returns `true`, so no visit stops early. The names of the streaming SDK's
`SpanIDKey` and `TraceIDKey`, the text `String` gives an event type, and the float text of
`Emit` are parameters (`Env`). `Emit` has no text for a value without a type, so a line that
would print one is `none`.

## Main results

* `appendEvent_scope`: the scope prints the attributes, then the tags they do not shadow,
  that is, the entries of the union of the two maps with the attributes first, each once,
  and then the span ID and the trace ID.
* `appendEvent_recordStats`: under `RECORD_STATS`, each measurement is printed as
  ` name=value {k=v,...}`, the tags separated by commas.
-/

namespace OtelGo

namespace Streaming

/-- `tag.Map`: a Go map from key names to values. -/
abbrev TagMap := AList fun _ : GoString => Value

/-- The key-value pair a map entry stands for. -/
def toKeyValue (e : Σ _ : GoString, Value) : KeyValue := ⟨⟨e.1⟩, e.2⟩

namespace TagMap

/-- `HasValue`: whether the map has an entry under the key. -/
def hasValue (m : TagMap) (k : Key) : Bool := (m.lookup k.name).isSome

/-- `Len`: the number of entries. -/
def len (m : TagMap) : Nat := m.entries.length

/-- The pairs `Foreach` hands its callback, in the order of the `range`. -/
def keyValues (o : MapOrder Value) (m : TagMap) : List KeyValue := (o.range m).map toKeyValue

/-- `Foreach` with a callback that writes and returns `true`: what the callback writes for
each entry, in the order of the `range`. -/
def foreach (o : MapOrder Value) (m : TagMap) (g : KeyValue → Option GoString) :
    Option GoString :=
  ((m.keyValues o).mapM g).map List.flatten

end TagMap

/-- `exporter.EventType`, by the cases `AppendEvent` tells apart; any other type by the
number `%d` prints for it. -/
inductive EventType
  | startSpan
  | endSpan
  | addEvent
  | modifyAttr
  | recordStats
  | setStatus
  | setName
  | other (code : Int)
  deriving DecidableEq, Repr

/-- A measurement of `data.Stats`: the measure's name `N()`, the value and the tags. -/
structure Measurement where
  measureName : GoString
  value : Float
  tags : TagMap

/-- `reader.Event`, by the fields `AppendEvent` reads. -/
structure Event where
  type : EventType
  time : GoString
  name : GoString
  message : GoString
  duration : GoString
  status : GoString
  spanContext : SpanContext
  parent : SpanContext
  parentAttributes : TagMap
  attributes : TagMap
  tags : TagMap
  stats : List Measurement

/-- What `AppendEvent` takes from code outside the sources: the streaming SDK's `SpanIDKey`
and `TraceIDKey`, `EventType.String`, and the float text of `Emit`. -/
structure Env where
  spanIDKey : Key
  traceIDKey : Key
  typeString : EventType → GoString
  formatFloat : Float → GoString

/-! ### `AppendEvent` -/

section AppendEvent

variable (env : Env) (o : MapOrder Value)

/-- `parentSpanIDKey`: `key.New("parent_span_id")`. -/
def parentSpanIDKey : Key := ⟨goStr "parent_span_id"⟩

/-- What the callback `f` writes for a pair: a space, the key's name, `=` and the value's
`Emit`. -/
def kvText (kv : KeyValue) : Option GoString :=
  (kv.value.emit env.formatFloat).map fun v => goStr " " ++ kv.key.name ++ goStr "=" ++ v

/-- `AppendEvent`'s callback `f(skipIf)`: nothing when `skipIf` is set and the event's
attributes have the key, and the pair's text otherwise. -/
def appendEvent.f (data : Event) (skipIf : Bool) (kv : KeyValue) : Option GoString :=
  if skipIf && data.attributes.hasValue kv.key then some [] else kvText env kv

/-- The callback `Foreach` runs over a measurement's tags under `RECORD_STATS`, from the
counter `i`: a comma unless the counter is `0`, then the key's name, `=` and the value. -/
def appendEvent.statTags : Nat → List (Σ _ : GoString, Value) → Option GoString
  | _, [] => some []
  | i, e :: es => do
    let v ← e.2.emit env.formatFloat
    let rest ← appendEvent.statTags (i + 1) es
    pure ((if i ≠ 0 then goStr "," else []) ++ e.1 ++ goStr "=" ++ v ++ rest)

/-- The `switch` on the event's type. -/
def appendEvent.body (data : Event) : Option GoString :=
  match data.type with
  | .startSpan =>
    if !data.parent.hasSpanID then some (goStr "start " ++ data.name ++ goStr ", a root span")
    else do
      let p ← appendEvent.f env data false (parentSpanIDKey.string data.parent.spanIDString)
      let a ← (if data.parentAttributes.len > 0 then
          data.parentAttributes.foreach o (appendEvent.f env data false)
        else some [])
      pure (goStr "start " ++ data.name ++ goStr " <" ++ p ++ a ++ goStr " >")
  | .endSpan => some (goStr "end " ++ data.name ++ goStr " (" ++ data.duration ++ goStr ")")
  | .addEvent => do
    let a ← data.attributes.foreach o (kvText env)
    pure (goStr "event: " ++ data.message ++ goStr " (" ++ a ++ goStr ")")
  | .modifyAttr => some (goStr "modify attr " ++ env.typeString data.type)
  | .recordStats => do
    let ss ← data.stats.mapM fun s => do
      let v ← appendEvent.f env data false (Key.float64 ⟨s.measureName⟩ s.value)
      let t ← appendEvent.statTags env 0 (o.range s.tags)
      pure (v ++ goStr " \x7b" ++ t ++ goStr "\x7d")
    pure (goStr "record" ++ ss.flatten)
  | .setStatus => some (goStr "set status " ++ data.status)
  | .setName => some (goStr "set name " ++ data.name)
  | .other code => some (goStr "WAT? " ++ formatInt code)

/-- The scope and context tags, after the `switch`. -/
def appendEvent.scope (data : Event) : Option GoString := do
  let a ← (if data.attributes.len > 0 then
      data.attributes.foreach o (appendEvent.f env data false)
    else some [])
  let t ← (if data.tags.len > 0 then data.tags.foreach o (appendEvent.f env data true)
    else some [])
  let s ← (if data.spanContext.hasSpanID then
      appendEvent.f env data false (env.spanIDKey.string data.spanContext.spanIDString)
    else some [])
  let r ← (if data.spanContext.hasTraceID then
      appendEvent.f env data false (env.traceIDKey.string data.spanContext.traceIDString)
    else some [])
  pure (goStr " [" ++ a ++ t ++ s ++ r ++ goStr " ]\n")

/-- `AppendEvent`: the time, a space, the part for the event's type and the scope, written
after what the buffer holds. -/
def appendEvent (buf : GoString) (data : Event) : Option GoString := do
  let b ← appendEvent.body env o data
  let s ← appendEvent.scope env o data
  pure (buf ++ data.time ++ goStr " " ++ b ++ s)

/-- `EventToString`: `AppendEvent` on an empty builder. -/
def eventToString (data : Event) : Option GoString := appendEvent env o [] data

end AppendEvent

/-! ### Writing pairs -/

section Pairs

variable (env : Env) (o : MapOrder Value)

/-- The text of a list of pairs, each written as the callback `f(false)` writes it. -/
def pairsText (l : List KeyValue) : Option GoString := (l.mapM (kvText env)).map List.flatten

theorem mapM_flatten_cons {α : Type} (g : α → Option GoString) (a : α) (l : List α) :
    ((a :: l).mapM g).map List.flatten =
      (g a).bind fun t => ((l.mapM g).map List.flatten).map (t ++ ·) := by
  rw [List.mapM_cons]
  cases g a <;> cases l.mapM g <;> rfl

/-- A callback that writes nothing for some pairs writes what it writes for the others. -/
theorem mapM_flatten_skip {α : Type} (p : α → Bool) (g : α → Option GoString) (l : List α) :
    (l.mapM fun a => if p a then some [] else g a).map List.flatten =
      ((l.filter fun a => !p a).mapM g).map List.flatten := by
  induction l with
  | nil => rfl
  | cons a l ih =>
    rw [mapM_flatten_cons, List.filter_cons, ih]
    cases hp : p a
    · simp only [Bool.false_eq_true, ite_false, Bool.not_false, ite_true, mapM_flatten_cons]
    · simp only [ite_true, Bool.not_true, Bool.false_eq_true, ite_false, Option.some_bind,
        List.nil_append, Option.map_id']

theorem pairsText_append (l₁ l₂ : List KeyValue) :
    pairsText env (l₁ ++ l₂) =
      (pairsText env l₁).bind fun a => (pairsText env l₂).map (a ++ ·) := by
  simp only [pairsText, List.mapM_append]
  cases l₁.mapM (kvText env) <;> cases l₂.mapM (kvText env) <;> simp

/-- The `Len() > 0` guard around a `Foreach` changes nothing: an empty map has no entries to
visit. -/
theorem TagMap.ite_len_foreach (m : TagMap) (g : KeyValue → Option GoString) :
    (if m.len > 0 then m.foreach o g else some []) = m.foreach o g := by
  split_ifs with h
  · rfl
  · have he : m.entries = [] := List.length_eq_zero.1 (by unfold TagMap.len at h; omega)
    have hr : o.range m = [] := (he ▸ o.perm m).eq_nil
    simp only [TagMap.foreach, TagMap.keyValues, hr]
    rfl

theorem f_false (data : Event) : appendEvent.f env data false = kvText env := rfl

theorem foreach_kvText (m : TagMap) :
    m.foreach o (kvText env) = pairsText env (m.keyValues o) := rfl

/-- `f(true)` writes the pairs whose keys the attributes do not have. -/
theorem foreach_f_true (data : Event) (m : TagMap) :
    m.foreach o (appendEvent.f env data true) =
      pairsText env ((m.keyValues o).filter fun kv => !data.attributes.hasValue kv.key) :=
  mapM_flatten_skip _ _ _

theorem ite_kvText (c : Bool) (kv : KeyValue) :
    (if c then kvText env kv else some []) = pairsText env (if c then [kv] else []) := by
  cases c
  · rfl
  · show kvText env kv = ((List.mapM (kvText env) [kv]).map List.flatten)
    rw [List.mapM_cons, List.mapM_nil]
    cases kvText env kv <;> simp

theorem kvText_float64 (k : Key) (v : Float) :
    kvText env (k.float64 v) = some (goStr " " ++ k.name ++ goStr "=" ++ env.formatFloat v) :=
  rfl

end Pairs

/-! ### The scope -/

section Scope

variable (env : Env) (o : MapOrder Value)

/-- The pairs of the span context's IDs that end the scope, when the context has them. -/
def idPairs (data : Event) : List KeyValue :=
  (if data.spanContext.hasSpanID then [env.spanIDKey.string data.spanContext.spanIDString]
    else []) ++
  (if data.spanContext.hasTraceID then [env.traceIDKey.string data.spanContext.traceIDString]
    else [])

/-- The scope writes the attributes, the tags whose keys the attributes lack, and the IDs. -/
theorem scope_eq (data : Event) :
    appendEvent.scope env o data =
      (pairsText env (data.attributes.keyValues o ++
        (data.tags.keyValues o).filter (fun kv => !data.attributes.hasValue kv.key) ++
          idPairs env data)).map fun ts => goStr " [" ++ ts ++ goStr " ]\n" := by
  simp only [appendEvent.scope, TagMap.ite_len_foreach]
  simp only [foreach_f_true, f_false, foreach_kvText, ite_kvText, idPairs, pairsText_append]
  generalize pairsText env (data.attributes.keyValues o) = A
  generalize pairsText env (List.filter _ _) = T
  generalize pairsText env (if data.spanContext.hasSpanID then _ else []) = S
  generalize pairsText env (if data.spanContext.hasTraceID then _ else []) = R
  -- a missing text gives `none` on both sides; four texts are the same text reassociated
  cases A <;> cases T <;> cases S <;> cases R <;> try rfl
  simp only [Option.bind_eq_bind, Option.some_bind, Option.map_some', List.append_assoc]
  rfl

/-- A range over the first map followed by the entries of a range over the second whose keys
the first lacks lists the union of the two maps, each entry once. -/
theorem perm_range_union (a t : TagMap) :
    (o.range a ++ (o.range t).filter fun e => !(a.lookup e.1).isSome).Perm (a ∪ t).entries := by
  have hA := o.perm a
  have hT := o.perm t
  refine (List.perm_ext_iff_of_nodup ?_ (a ∪ t).nodupKeys.nodup).2 fun ⟨k, v⟩ => ?_
  · refine (hA.nodup_iff.2 a.nodupKeys.nodup).append
      ((hT.nodup_iff.2 t.nodupKeys.nodup).filter _) fun e he1 he2 => ?_
    have hk : (a.lookup e.1).isSome :=
      AList.lookup_isSome.2 (List.mem_keys_of_mem (hA.subset he1))
    exact absurd (List.mem_filter.1 he2).2 (by simp [hk])
  · simp only [List.mem_append, List.mem_filter, hA.mem_iff, hT.mem_iff, ← AList.mem_lookup_iff,
      AList.mem_lookup_union]
    simp [AList.lookup_eq_none, and_comm]

/-- **The scope shows each key once, the attribute's value first.** It prints a list of pairs
that starts with the attributes in the order of the `range` and holds every entry of the
union of the attributes and the tags exactly once, an attribute shadowing a tag of its key,
followed by the span ID and the trace ID when the span context has them. -/
theorem appendEvent_scope (data : Event) : ∃ l : List KeyValue,
    data.attributes.keyValues o <+: l ∧
    l.Perm ((data.attributes ∪ data.tags).entries.map toKeyValue) ∧
    appendEvent.scope env o data =
      (pairsText env (l ++ idPairs env data)).map fun ts => goStr " [" ++ ts ++ goStr " ]\n" := by
  refine ⟨_, List.prefix_append _ _, ?_, scope_eq env o data⟩
  rw [TagMap.keyValues, TagMap.keyValues, List.filter_map, ← List.map_append]
  exact (perm_range_union o _ _).map _

end Scope

/-! ### Measurements -/

section Stats

variable (env : Env) (o : MapOrder Value)

/-- The text of a tag inside the braces: the key's name, `=` and the value. -/
def tagText (e : Σ _ : GoString, Value) : Option GoString :=
  (e.2.emit env.formatFloat).map fun v => e.1 ++ goStr "=" ++ v

theorem intercalate_cons {α : Type} (sep t : List α) (ts : List (List α)) :
    sep.intercalate (t :: ts) = t ++ (ts.map (sep ++ ·)).flatten := by
  induction ts generalizing t with
  | nil => simp [List.intercalate]
  | cons t' ts ih =>
    rw [List.intercalate, List.intersperse_cons₂, List.flatten_cons, List.flatten_cons,
      ← List.intercalate, ih]
    simp

/-- The counter loop over a measurement's tags: from `0` it separates the tags by commas,
and from any other count it puts a comma before each. -/
theorem statTags_eq (i : Nat) (es : List (Σ _ : GoString, Value)) :
    appendEvent.statTags env i es = (es.mapM (tagText env)).map fun ts =>
      if i = 0 then (goStr ",").intercalate ts else (ts.map (goStr "," ++ ·)).flatten := by
  induction es generalizing i with
  | nil => cases i <;> rfl
  | cons e es ih =>
    rw [appendEvent.statTags.eq_2, ih, List.mapM_cons, tagText]
    cases e.2.emit env.formatFloat with
    | none => rfl
    | some v =>
      cases es.mapM (tagText env) with
      | none => rfl
      | some ts => by_cases hi : i = 0 <;> simp [hi, intercalate_cons]

/-- **Measurements print as `name=value {tags}`.** Under `RECORD_STATS`, each measurement
is printed as a space, the measure's name, `=`, the value's text and the tags in braces,
separated by commas with none before the first or after the last. -/
theorem appendEvent_recordStats (data : Event) :
    appendEvent.body env o { data with type := .recordStats } =
      (data.stats.mapM fun s => ((o.range s.tags).mapM (tagText env)).map fun ts =>
        goStr " " ++ s.measureName ++ goStr "=" ++ env.formatFloat s.value ++ goStr " \x7b" ++
          (goStr ",").intercalate ts ++ goStr "\x7d").map
        fun ss => goStr "record" ++ ss.flatten := by
  simp only [appendEvent.body, f_false, statTags_eq, kvText_float64, if_true, Option.some_bind,
    bind_pure_comp, Option.map_eq_map, Option.map_map]
  rfl

end Stats

/-- A streaming set-up whose SDK keys are `span_id` and `trace_id`. -/
def sampleEnv : Env :=
  ⟨⟨goStr "span_id"⟩, ⟨goStr "trace_id"⟩, fun _ => [], fun _ => goStr "0.5"⟩

/-- A `RECORD_STATS` event whose context tag `a` is shadowed by an attribute. -/
def sampleEvent : Event where
  type := .recordStats
  time := goStr "2019/07/01 12-00-00.000000"
  name := []
  message := []
  duration := []
  status := []
  spanContext := ⟨⟨0, 5⟩, 255, 1⟩
  parent := emptySpanContext
  parentAttributes := ∅
  attributes := (∅ : TagMap).insert (goStr "a") (Key.string ⟨[]⟩ (goStr "x")).value
  tags := ((∅ : TagMap).insert (goStr "a") (Key.bool ⟨[]⟩ true).value).insert (goStr "c")
    (Key.int64 ⟨[]⟩ 7).value
  stats :=
    [⟨goStr "latency", 0.5, (∅ : TagMap).insert (goStr "c") (Key.int64 ⟨[]⟩ 7).value⟩]

example : eventToString sampleEnv (MapOrder.entries Value) sampleEvent =
    some (goStr "2019/07/01 12-00-00.000000 record latency=0.5 \x7bc=7\x7d [ a=x c=7" ++
      goStr " span_id=00000000000000ff trace_id=00000000000000000000000000000005 ]\n") := by
  rfl

end Streaming

end OtelGo
