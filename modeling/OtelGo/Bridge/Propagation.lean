import OtelGo.Bridge.Baggage
import OtelGo.Bridge.Ids

/-!
# Span Contexts in HTTP Headers

`Inject` writes a bridge span context into an `ot.HTTPHeadersCarrier`: the trace ID, the span
ID and the flags under three fixed headers, and each baggage item under the baggage prefix
followed by its key. `Extract` reads a carrier back: it canonicalizes each header key, files
the value by a `switch` on the result, and fails with the first error a value gives or, at the
end, when no valid context was found.

The carrier is an `http.Header`, a Go map from keys to lists of values, written through
`http.Header.Set` (one value, under the canonical key) and read through `ForeachKey`, a
`range` over the map in an order Go leaves unspecified (a `MapOrder`). The loop stops at the
first error the handler returns; it is a `foldlM` in `Except`.

Each `interface{}` parameter is read through a type assertion: `some` is a value of the type
asserted, `none` a value of any other type.

## Main results

* `canonicalHeaderKey_baggageHeaderPrefix_append`: the baggage prefix keeps a key's canonical
  form, and a key with the prefix is none of the three fixed headers.
* `lookup_inject` and `inject_errors`: `Inject` checks the context, the format and the
  carrier in turn, and writes the fixed headers and one header per baggage item over the
  carrier, leaving its other headers as they were.
* `extractHandler_ok` and `obs_foldlM`: a header sets one part of the context, and through the
  loop the last header to set a part wins.
* `extract_inject`: a valid reachable context survives the trip through an empty carrier,
  with its flags reduced to the sampled bit and its baggage unchanged as a map.
* `extract_errors`, `extract_isValid_baggageCanonical` and `extract_ids_of_carrier`: what
  `Extract` returns is a valid context with canonical baggage keys, whose identifiers parse
  from headers of the carrier filed under their names.
-/

namespace OtelGo

/-! ### Loops that stop at the first error -/

section Loop

variable {σ α β ε : Type} {f : σ → α → Except ε σ}

theorem foldlM_ok_of_forall {l : List α} (h : ∀ a ∈ l, ∀ s, ∃ s', f s a = .ok s') (s : σ) :
    ∃ s', l.foldlM f s = .ok s' := by
  induction l generalizing s with
  | nil => exact ⟨s, rfl⟩
  | cons a l ih =>
    obtain ⟨s₁, h₁⟩ := h a (List.mem_cons_self _ _) s
    obtain ⟨s', h'⟩ := ih (fun b hb => h b (List.mem_cons_of_mem _ hb)) s₁
    exact ⟨s', by rw [List.foldlM_cons, h₁]; exact h'⟩

theorem foldlM_invariant (P : σ → Prop) (h : ∀ s a s', P s → f s a = .ok s' → P s') :
    ∀ {l : List α} {s s' : σ}, l.foldlM f s = .ok s' → P s → P s'
  | [], _, _, hl, hs => by cases hl; exact hs
  | a :: _, _, _, hl, hs => by
    obtain ⟨s₁, h₁, hl⟩ := Except.bind_eq_ok.1 hl
    exact foldlM_invariant P h hl (h _ _ _ hs h₁)

/-- **The last write wins through the loop**: when each step that returns sets the observed
part of the state to what `w` says, or leaves it where `w` says nothing, the whole loop leaves
it at the value of the last step that sets it. -/
theorem obs_foldlM (obs : σ → β) (w : α → Option β)
    (h : ∀ s a s', f s a = .ok s' → obs s' = (w a).getD (obs s)) :
    ∀ {l : List α} {s s' : σ}, l.foldlM f s = .ok s' →
      obs s' = (l.reverse.findSome? w).getD (obs s)
  | [], _, _, hl => by cases hl; rfl
  | a :: _, _, _, hl => by
    obtain ⟨s₁, h₁, hl⟩ := Except.bind_eq_ok.1 hl
    rw [obs_foldlM obs w h hl, h _ _ _ h₁, List.reverse_cons, List.findSome?_append]
    cases hw : w a <;> cases (List.findSome? w _) <;> simp [List.findSome?, hw]

/-- The one element of the list that `w` answers for gives the answer of the search. -/
theorem findSome?_eq_of_unique {l : List α} {w : α → Option β} {a : α} {b : β} (ha : a ∈ l)
    (hb : w a = some b) (hu : ∀ a' ∈ l, w a' ≠ none → a' = a) : l.findSome? w = some b := by
  induction l with
  | nil => cases ha
  | cons x l ih =>
    cases hx : w x with
    | some b' =>
      obtain rfl := hu x (List.mem_cons_self _ _) (by simp [hx])
      exact (List.findSome?_cons_of_isSome _ (by simp [hx])).trans hb
    | none =>
      have hax : a ≠ x := by rintro rfl; simp [hb] at hx
      rw [List.findSome?_cons_of_isNone _ (by simp [hx])]
      exact ih ((List.mem_cons.1 ha).resolve_left hax)
        fun a' h' hw => hu a' (List.mem_cons_of_mem _ h') hw

end Loop

/-! ### The carrier -/

/-- `http.Header`, the map under `ot.HTTPHeadersCarrier`: a list of values for each key. -/
abbrev Header := AList fun _ : GoString => List GoString

/-- `HTTPHeadersCarrier.Set`, that is `http.Header.Set`: the value alone, under the canonical
form of the key. -/
def Header.set (h : Header) (key value : GoString) : Header :=
  h.insert (canonicalHeaderKey key) [value]

/-- The handler calls `HTTPHeadersCarrier.ForeachKey` makes when `range` presents the carrier's
entries in the order `entries`: one call per value of each key. -/
def foreachKeyCalls (entries : List (Σ _ : GoString, List GoString)) : Items :=
  entries.flatMap fun e => e.2.map fun v => ⟨e.1, v⟩

@[simp] theorem Header.lookup_set (h : Header) (k v x : GoString) :
    (h.set k v).lookup x = if x = canonicalHeaderKey k then some [v] else h.lookup x := by
  unfold Header.set
  split_ifs with hx
  · subst hx; exact AList.lookup_insert _
  · exact AList.lookup_insert_ne hx

theorem Header.foldl_set {ι : Type} (f g : ι → GoString) (l : List ι) (h : Header) :
    l.foldl (fun h e => h.set (f e) (g e)) h =
      l.foldl (fun m e => m.insert (canonicalHeaderKey (f e)) [g e]) h := rfl

theorem mem_foreachKeyCalls {entries : List (Σ _ : GoString, List GoString)} {k v : GoString} :
    (⟨k, v⟩ : Σ _ : GoString, GoString) ∈ foreachKeyCalls entries ↔
      ∃ vs, ⟨k, vs⟩ ∈ entries ∧ v ∈ vs := by
  simp only [foreachKeyCalls, List.mem_flatMap, List.mem_map, Sigma.mk.inj_iff, heq_eq_eq]
  constructor
  · rintro ⟨⟨k', vs⟩, he, v', hv', rfl, rfl⟩
    exact ⟨vs, he, hv'⟩
  · rintro ⟨vs, he, hv⟩
    exact ⟨⟨k, vs⟩, he, v, hv, rfl, rfl⟩

/-- `ot.BuiltinFormat`. -/
inductive BuiltinFormat
  | binary
  | textMap
  | httpHeaders
  deriving DecidableEq, Repr

/-! ### Header names -/

/-- `traceIDHeader`. -/
def traceIDHeader : GoString := canonicalHeaderKey (goStr "x-otelbridge-trace-id")

/-- `spanIDHeader`. -/
def spanIDHeader : GoString := canonicalHeaderKey (goStr "x-otelbridge-span-id")

/-- `traceFlagsHeader`. -/
def traceFlagsHeader : GoString := canonicalHeaderKey (goStr "x-otelbridge-trace-flags")

/-- `baggageHeaderPrefix`. -/
def baggageHeaderPrefix : GoString := canonicalHeaderKey (goStr "x-otelbridge-baggage-")

example : traceIDHeader = goStr "X-Otelbridge-Trace-Id" ∧
    spanIDHeader = goStr "X-Otelbridge-Span-Id" ∧
    traceFlagsHeader = goStr "X-Otelbridge-Trace-Flags" ∧
    baggageHeaderPrefix = goStr "X-Otelbridge-Baggage-" := by decide

@[simp] theorem traceIDHeader_ne_spanIDHeader : traceIDHeader ≠ spanIDHeader := by decide
@[simp] theorem traceIDHeader_ne_traceFlagsHeader : traceIDHeader ≠ traceFlagsHeader := by decide
@[simp] theorem spanIDHeader_ne_traceFlagsHeader : spanIDHeader ≠ traceFlagsHeader := by decide
@[simp] theorem spanIDHeader_ne_traceIDHeader : spanIDHeader ≠ traceIDHeader := by decide
@[simp] theorem traceFlagsHeader_ne_traceIDHeader : traceFlagsHeader ≠ traceIDHeader := by decide
@[simp] theorem traceFlagsHeader_ne_spanIDHeader : traceFlagsHeader ≠ spanIDHeader := by decide

@[simp] theorem canonicalHeaderKey_traceIDHeader :
    canonicalHeaderKey traceIDHeader = traceIDHeader := canonicalHeaderKey_idem _

@[simp] theorem canonicalHeaderKey_spanIDHeader :
    canonicalHeaderKey spanIDHeader = spanIDHeader := canonicalHeaderKey_idem _

@[simp] theorem canonicalHeaderKey_traceFlagsHeader :
    canonicalHeaderKey traceFlagsHeader = traceFlagsHeader := canonicalHeaderKey_idem _

/-- **The baggage prefix keeps a key's canonical form**: it is canonical and ends in a dash, so
the loop leaves it as it is and starts the key as it would start it alone. -/
theorem canonicalHeaderKey_baggageHeaderPrefix_append (k : GoString) :
    canonicalHeaderKey (baggageHeaderPrefix ++ k) = baggageHeaderPrefix ++ canonicalHeaderKey k := by
  have hall : (baggageHeaderPrefix ++ k).all validHeaderFieldByte = k.all validHeaderFieldByte := by
    rw [List.all_append]; rfl
  rw [canonicalHeaderKey_eq, canonicalHeaderKey_eq, Textproto.canonicalMIMEHeaderKeySlice,
    Textproto.canonicalMIMEHeaderKeySlice, hall]
  split_ifs
  · rfl
  · rfl

/-- A key with the baggage prefix is none of the three fixed headers: they part at the
fourteenth byte. -/
theorem ne_of_hasPrefix {s : GoString} (h : hasPrefix s baggageHeaderPrefix) :
    s ≠ traceIDHeader ∧ s ≠ spanIDHeader ∧ s ≠ traceFlagsHeader := by
  refine ⟨?_, ?_, ?_⟩ <;> rintro rfl <;> revert h <;> decide

/-! ### Inject -/

/-- `BridgeTracer.Inject`, with the baggage presented in the order `o`. -/
def inject (o : MapOrder GoString) (sm : Option BridgeSpanContext)
    (format : Option BuiltinFormat) (carrier : Option Header) : Except BridgeError Header := do
  let some bridgeSC := sm | throw .errInvalidSpanContext
  if !bridgeSC.otelSpanContext.isValid then throw .errInvalidSpanContext
  if format ≠ some .httpHeaders then throw .errUnsupportedFormat
  let some hhcarrier := carrier | throw .errInvalidCarrier
  let sc := bridgeSC.otelSpanContext
  let hhcarrier := hhcarrier.set traceIDHeader (traceIDString sc.traceID)
  let hhcarrier := hhcarrier.set spanIDHeader (spanIDToString sc.spanID)
  let hhcarrier := hhcarrier.set traceFlagsHeader (traceFlagsToString sc.traceFlags)
  pure ((bridgeSC.foreachBaggageItem o).foldl
    (fun h e => h.set (baggageHeaderPrefix ++ e.1) e.2) hhcarrier)

/-- The value `Inject` leaves under the key `k` of an empty carrier. -/
def injectedValue (c : BridgeSpanContext) (k : GoString) : Option (List GoString) :=
  if k = traceIDHeader then some [traceIDString c.otelSpanContext.traceID]
  else if k = spanIDHeader then some [spanIDToString c.otelSpanContext.spanID]
  else if k = traceFlagsHeader then some [traceFlagsToString c.otelSpanContext.traceFlags]
  else if hasPrefix k baggageHeaderPrefix then
    (c.baggageItems.lookup (trimPrefix k baggageHeaderPrefix)).map ([·])
  else none

theorem inject_eq_ok {c : BridgeSpanContext} (hv : c.otelSpanContext.isValid)
    (o : MapOrder GoString) (h : Header) :
    inject o (some c) (some .httpHeaders) (some h) =
      .ok ((c.foreachBaggageItem o).foldl (fun h e => h.set (baggageHeaderPrefix ++ e.1) e.2)
        (((h.set traceIDHeader (traceIDString c.otelSpanContext.traceID)).set spanIDHeader
          (spanIDToString c.otelSpanContext.spanID)).set traceFlagsHeader
            (traceFlagsToString c.otelSpanContext.traceFlags))) := by
  delta inject
  simp only [hv, Bool.not_true]
  rfl

/-- **What `Inject` writes**: the three fixed headers and, for each baggage item, the prefix
followed by its key; every other header of the carrier is left as it was. -/
theorem lookup_inject {c : BridgeSpanContext} (hc : c.BaggageCanonical)
    (hv : c.otelSpanContext.isValid) (o : MapOrder GoString) {h₀ h : Header}
    (hinj : inject o (some c) (some .httpHeaders) (some h₀) = .ok h) (k : GoString) :
    h.lookup k = (injectedValue c k).or (h₀.lookup k) := by
  rw [inject_eq_ok hv, Except.ok.injEq] at hinj
  subst hinj
  rw [BridgeSpanContext.foreachBaggageItem_eq]
  have hkey : ∀ e ∈ o.range c.baggageItems,
      canonicalHeaderKey (baggageHeaderPrefix ++ e.1) = baggageHeaderPrefix ++ e.1 := fun e he => by
    rw [canonicalHeaderKey_baggageHeaderPrefix_append,
      hc e.1 (AList.mem_keys.2 (List.mem_keys_of_mem ((o.perm _).subset he)))]
  rw [Header.foldl_set, lookup_foldl_insert]
  unfold injectedValue
  by_cases hp : hasPrefix k baggageHeaderPrefix
  · obtain ⟨y, rfl⟩ : ∃ y, k = baggageHeaderPrefix ++ y :=
      ⟨_, (List.prefix_iff_eq_append.1 (List.isPrefixOf_iff_prefix.1 hp)).symm⟩
    obtain ⟨h1, h2, h3⟩ := ne_of_hasPrefix hp
    have hfind := @find?_reverse_eq_lookup c.baggageItems _ (o.perm _) y
      (fun e => canonicalHeaderKey (baggageHeaderPrefix ++ e.1) = baggageHeaderPrefix ++ y)
      fun e he => by simp [hkey e he, eq_comm]
    rw [show (fun e : Σ _ : GoString, GoString => [e.2]) = (fun v => [v]) ∘ Sigma.snd from rfl,
      ← Option.map_map, hfind, trimPrefix_append]
    simp [h1, h2, h3]
  · have hnone : ((o.range c.baggageItems).reverse.find? fun e =>
        canonicalHeaderKey (baggageHeaderPrefix ++ e.1) = k) = none :=
      List.find?_eq_none.2 fun e he hk => hp <| by
        rw [← of_decide_eq_true hk, hkey e (List.mem_reverse.1 he)]; exact hasPrefix_append _ _
    rw [hnone, Option.map_none', Option.none_or]
    by_cases h1 : k = traceIDHeader
    · subst h1; simp
    by_cases h2 : k = spanIDHeader
    · subst h2; simp
    by_cases h3 : k = traceFlagsHeader
    · subst h3; simp
    simp [h1, h2, h3, hp]

/-- **`Inject`'s contract**: it checks the span context, then the format, then the carrier,
each failure with its own error, and on success writes its headers over the carrier. -/
theorem inject_errors (o : MapOrder GoString) (format : Option BuiltinFormat)
    (carrier : Option Header) :
    inject o none format carrier = .error .errInvalidSpanContext ∧
    (∀ c : BridgeSpanContext, c.otelSpanContext.isValid = false →
      inject o (some c) format carrier = .error .errInvalidSpanContext) ∧
    (∀ c : BridgeSpanContext, c.otelSpanContext.isValid → format ≠ some .httpHeaders →
      inject o (some c) format carrier = .error .errUnsupportedFormat) ∧
    (∀ c : BridgeSpanContext, c.otelSpanContext.isValid →
      inject o (some c) (some .httpHeaders) none = .error .errInvalidCarrier) ∧
    (∀ (c : BridgeSpanContext) h₀ h, c.BaggageCanonical →
      inject o (some c) format (some h₀) = .ok h →
        ∀ k, h.lookup k = (injectedValue c k).or (h₀.lookup k)) := by
  refine ⟨rfl, fun c hv => ?_, fun c hv hf => ?_, fun c hv => ?_, fun c h₀ h hc hinj => ?_⟩
  · delta inject; simp [hv]
  · delta inject; simp [hv, hf]
  · delta inject; simp [hv]
  · by_cases hv : c.otelSpanContext.isValid
    · by_cases hf : format = some .httpHeaders
      · subst hf; exact lookup_inject hc hv o hinj
      · revert hinj; delta inject; simp [hv, hf]
    · revert hinj; delta inject; simp [hv]

/-! ### Extract -/

/-- The handler `Extract` passes to `ForeachKey`, acting on the context being built. -/
def extractHandler (bridgeSC : BridgeSpanContext) (k v : GoString) :
    Except BridgeError BridgeSpanContext := do
  let ck := canonicalHeaderKey k
  if ck = traceIDHeader then
    let traceID ← traceIDFromString v
    pure { bridgeSC with otelSpanContext.traceID := traceID }
  else if ck = spanIDHeader then
    let spanID ← spanIDFromString v
    pure { bridgeSC with otelSpanContext.spanID := spanID }
  else if ck = traceFlagsHeader then
    pure { bridgeSC with otelSpanContext.traceFlags := stringToTraceFlags v }
  else if hasPrefix ck baggageHeaderPrefix then
    pure (bridgeSC.setBaggageItem (trimPrefix ck baggageHeaderPrefix) v)
  else pure bridgeSC

/-- `BridgeTracer.Extract`, with the carrier's entries presented in the order `o`. -/
def extract (o : MapOrder (List GoString)) (format : Option BuiltinFormat)
    (carrier : Option Header) : Except BridgeError BridgeSpanContext := do
  if format ≠ some .httpHeaders then throw .errUnsupportedFormat
  let some hhcarrier := carrier | throw .errInvalidCarrier
  let bridgeSC ← (foreachKeyCalls (o.range hhcarrier)).foldlM
    (fun c e => extractHandler c e.1 e.2) ⟨∅, emptySpanContext⟩
  if !bridgeSC.otelSpanContext.isValid then throw .errSpanContextNotFound
  pure bridgeSC

/-- A header gives an error only when it is filed as the trace ID or the span ID and its value
does not parse. -/
theorem extractHandler_ok_of {s : BridgeSpanContext} {k v : GoString}
    (hT : canonicalHeaderKey k = traceIDHeader → ∃ t, traceIDFromString v = .ok t)
    (hS : canonicalHeaderKey k = spanIDHeader → ∃ x, spanIDFromString v = .ok x) :
    ∃ s', extractHandler s k v = .ok s' := by
  dsimp only [extractHandler]
  split_ifs with h1 h2
  · obtain ⟨t, ht⟩ := hT h1
    exact ⟨_, by rw [ht]; rfl⟩
  · obtain ⟨x, hx⟩ := hS h2
    exact ⟨_, by rw [hx]; rfl⟩
  all_goals exact ⟨_, rfl⟩

/-- **What `Extract` returns**: the context the loop over the carrier's headers builds, when
the format and the carrier have the right types, no header gives an error, and the context is
valid. -/
theorem extract_eq_ok {o : MapOrder (List GoString)} {format : Option BuiltinFormat}
    {carrier : Option Header} {c : BridgeSpanContext} :
    extract o format carrier = .ok c ↔ format = some .httpHeaders ∧ ∃ hh, carrier = some hh ∧
      (foreachKeyCalls (o.range hh)).foldlM (fun c e => extractHandler c e.1 e.2)
        ⟨∅, emptySpanContext⟩ = .ok c ∧ c.otelSpanContext.isValid := by
  unfold extract
  by_cases hf : format = some .httpHeaders
  · subst hf
    cases carrier with
    | none => simp
    | some hh =>
      cases hfold : (foreachKeyCalls (o.range hh)).foldlM (fun c e => extractHandler c e.1 e.2)
          ⟨∅, emptySpanContext⟩ with
      | error e => simp [hfold]
      | ok s =>
        by_cases hs : s.otelSpanContext.isValid
        · simp [hfold, hs]
          rintro rfl; exact hs
        · simp [hfold, hs]
          rintro rfl; simpa using hs
  · simp [hf, ]

/-- The trace ID a header sets: one filed under `traceIDHeader` whose value parses. -/
def traceIDWrite (k v : GoString) : Option TraceID :=
  if canonicalHeaderKey k = traceIDHeader then (traceIDFromString v).toOption else none

/-- The span ID a header sets. -/
def spanIDWrite (k v : GoString) : Option UInt64 :=
  if canonicalHeaderKey k = spanIDHeader then (spanIDFromString v).toOption else none

/-- The flags a header sets. -/
def traceFlagsWrite (k v : GoString) : Option UInt8 :=
  if canonicalHeaderKey k = traceFlagsHeader then some (stringToTraceFlags v) else none

/-- What a header writes under the baggage key `x`: its value, when its canonical key is the
prefix followed by a key that canonicalizes to `x`. -/
def baggageWrite (x k v : GoString) : Option (Option GoString) :=
  if hasPrefix (canonicalHeaderKey k) baggageHeaderPrefix ∧
      canonicalHeaderKey (trimPrefix (canonicalHeaderKey k) baggageHeaderPrefix) = x then
    some (some v)
  else none

/-- **What one header does**: it sets the part of the context its canonical key names, and
leaves every other part as it was. -/
theorem extractHandler_ok {c c' : BridgeSpanContext} {k v : GoString}
    (h : extractHandler c k v = .ok c') :
    c'.otelSpanContext.traceID = (traceIDWrite k v).getD c.otelSpanContext.traceID ∧
    c'.otelSpanContext.spanID = (spanIDWrite k v).getD c.otelSpanContext.spanID ∧
    c'.otelSpanContext.traceFlags = (traceFlagsWrite k v).getD c.otelSpanContext.traceFlags ∧
    ∀ x, c'.baggageItems.lookup x = (baggageWrite x k v).getD (c.baggageItems.lookup x) := by
  unfold extractHandler at h
  simp only [traceIDWrite, spanIDWrite, traceFlagsWrite, baggageWrite]
  by_cases hT : canonicalHeaderKey k = traceIDHeader
  · rw [if_pos hT] at h
    obtain ⟨t, ht, h⟩ := Except.bind_eq_ok.1 h
    cases h
    have hp : ¬hasPrefix traceIDHeader baggageHeaderPrefix := by decide
    simp [hT, ht, Except.toOption, hp]
  by_cases hS : canonicalHeaderKey k = spanIDHeader
  · rw [if_neg hT, if_pos hS] at h
    obtain ⟨s, hs, h⟩ := Except.bind_eq_ok.1 h
    cases h
    have hp : ¬hasPrefix spanIDHeader baggageHeaderPrefix := by decide
    simp [hS, hs, Except.toOption, hp, Ne.symm traceIDHeader_ne_spanIDHeader]
  by_cases hF : canonicalHeaderKey k = traceFlagsHeader
  · rw [if_neg hT, if_neg hS, if_pos hF] at h
    cases h
    have hp : ¬hasPrefix traceFlagsHeader baggageHeaderPrefix := by decide
    simp [hF, hp, Ne.symm traceIDHeader_ne_traceFlagsHeader,
      Ne.symm spanIDHeader_ne_traceFlagsHeader]
  rw [if_neg hT, if_neg hS, if_neg hF] at h
  simp only [hT, hS, hF, if_false, Option.getD_none, true_and]
  split_ifs at h with hp
  · cases h
    refine ⟨rfl, rfl, rfl, fun x => ?_⟩
    rw [BridgeSpanContext.lookup_setBaggageItem]
    by_cases hx : x = canonicalHeaderKey (trimPrefix (canonicalHeaderKey k) baggageHeaderPrefix)
    · simp [hx, hp]
    · simp [hx, Ne.symm hx]
  · cases h
    simp [hp]

/-- Every context `Extract` returns is one the bridge can reach. -/
theorem BridgeSpanContext.Reachable.extract {o : MapOrder (List GoString)}
    {format : Option BuiltinFormat} {carrier : Option Header} {c : BridgeSpanContext}
    (h : OtelGo.extract o format carrier = .ok c) : c.Reachable := by
  have hstep : ∀ (s : BridgeSpanContext) (a : Σ _ : GoString, GoString) s',
      s.Reachable → extractHandler s a.1 a.2 = .ok s' → s'.Reachable := by
    intro s a s' hs ha
    dsimp only [extractHandler] at ha
    split_ifs at ha
    · obtain ⟨_, _, ha⟩ := Except.bind_eq_ok.1 ha
      cases ha; exact hs.setOtelSpanContext _
    · obtain ⟨_, _, ha⟩ := Except.bind_eq_ok.1 ha
      cases ha; exact hs.setOtelSpanContext _
    · cases ha; exact hs.setOtelSpanContext _
    · cases ha; exact hs.setBaggageItem _ _
    · cases ha; exact hs
  obtain ⟨-, hh, -, hs, -⟩ := extract_eq_ok.1 h
  exact foldlM_invariant _ (fun s a s' => hstep s a s') hs (.empty _)

/-- **What `Extract` returns is well formed**: a valid span context whose baggage keys are
canonical, as in every context the bridge builds. -/
theorem extract_isValid_baggageCanonical {o : MapOrder (List GoString)}
    {format : Option BuiltinFormat} {carrier : Option Header} {c : BridgeSpanContext}
    (h : extract o format carrier = .ok c) : c.otelSpanContext.isValid ∧ c.BaggageCanonical := by
  obtain ⟨-, -, -, -, hv⟩ := extract_eq_ok.1 h
  exact ⟨hv, (BridgeSpanContext.Reachable.extract h).baggageCanonical⟩

/-- A part of the context that no header of the carrier writes keeps its value through
`Extract`'s loop. -/
theorem obs_foldlM_extractHandler_of_none {β : Type} (obs : BridgeSpanContext → β)
    (w : GoString → GoString → Option β)
    (hw : ∀ s k v s', extractHandler s k v = .ok s' → obs s' = (w k v).getD (obs s))
    {o : MapOrder (List GoString)} {hh : Header} {s c : BridgeSpanContext}
    (hc : (foreachKeyCalls (o.range hh)).foldlM (fun c e => extractHandler c e.1 e.2) s = .ok c)
    (hnone : ∀ k ∈ hh.keys, ∀ v, w k v = none) : obs c = obs s := by
  have hw' : ∀ e ∈ (foreachKeyCalls (o.range hh)).reverse, w e.1 e.2 = none := by
    rintro ⟨k, v⟩ he
    obtain ⟨vs, hkvs, -⟩ := mem_foreachKeyCalls.1 (List.mem_reverse.1 he)
    exact hnone k (List.mem_keys_of_mem ((o.perm hh).subset hkvs)) v
  rw [obs_foldlM obs (fun e => w e.1 e.2) (fun s a s' he => hw s a.1 a.2 s' he) hc,
    List.findSome?_eq_none_iff.2 hw']
  rfl

/-- **`Extract`'s errors**: a wrong format and a missing carrier each fail with their own
error, in that order, whatever else is passed; and a carrier with no header filed as the
trace ID, or none filed as the span ID, fails with `ErrSpanContextNotFound` in every order of
its headers, when its identifier headers parse. -/
theorem extract_errors (o : MapOrder (List GoString)) (format : Option BuiltinFormat)
    (carrier : Option Header) :
    (format ≠ some .httpHeaders → extract o format carrier = .error .errUnsupportedFormat) ∧
    extract o (some .httpHeaders) none = .error .errInvalidCarrier ∧
    ∀ hh : Header,
      (∀ k vs, hh.lookup k = some vs → ∀ v ∈ vs,
        (canonicalHeaderKey k = traceIDHeader → ∃ t, traceIDFromString v = .ok t) ∧
        (canonicalHeaderKey k = spanIDHeader → ∃ x, spanIDFromString v = .ok x)) →
      ((∀ k ∈ hh.keys, canonicalHeaderKey k ≠ traceIDHeader) ∨
        ∀ k ∈ hh.keys, canonicalHeaderKey k ≠ spanIDHeader) →
      extract o (some .httpHeaders) (some hh) = .error .errSpanContextNotFound := by
  refine ⟨fun hf => by simp [extract, hf], rfl, fun hh hparse hmiss => ?_⟩
  -- every header parses, so the loop returns a context
  have hloop : ∀ e ∈ foreachKeyCalls (o.range hh), ∀ s,
      ∃ s', extractHandler s e.1 e.2 = .ok s' := by
    rintro ⟨k, v⟩ he s
    obtain ⟨vs, hkvs, hv⟩ := mem_foreachKeyCalls.1 he
    have hp := hparse k vs (AList.mem_lookup_iff.2 ((o.perm hh).subset hkvs)) v hv
    exact extractHandler_ok_of hp.1 hp.2
  obtain ⟨c, hc⟩ := foldlM_ok_of_forall hloop (⟨∅, emptySpanContext⟩ : BridgeSpanContext)
  -- and the identifier the carrier lacks stays zero in it
  have hinv : c.otelSpanContext.isValid = false := by
    rcases hmiss with hmiss | hmiss
    · have hT := obs_foldlM_extractHandler_of_none (fun s => s.otelSpanContext.traceID)
        traceIDWrite (fun _ _ _ _ he => (extractHandler_ok he).1) hc
        fun k hk _ => if_neg (hmiss k hk)
      simp [SpanContext.isValid, SpanContext.hasTraceID, hT, emptySpanContext]
    · have hS := obs_foldlM_extractHandler_of_none (fun s => s.otelSpanContext.spanID)
        spanIDWrite (fun _ _ _ _ he => (extractHandler_ok he).2.1) hc
        fun k hk _ => if_neg (hmiss k hk)
      simp [SpanContext.isValid, SpanContext.hasSpanID, hS, emptySpanContext]
  simp [extract, hc, hinv]

/-- A carrier with the trace ID and no span ID. -/
def traceOnlyHeader : Header :=
  (∅ : Header).set traceIDHeader (goStr "0000000000000000000000000000002a")

theorem extract_errors_traceOnlyHeader :
    (∀ k vs, traceOnlyHeader.lookup k = some vs → ∀ v ∈ vs,
      (canonicalHeaderKey k = traceIDHeader → ∃ t, traceIDFromString v = .ok t) ∧
      (canonicalHeaderKey k = spanIDHeader → ∃ x, spanIDFromString v = .ok x)) ∧
    (∀ k ∈ traceOnlyHeader.keys, canonicalHeaderKey k ≠ spanIDHeader) ∧
    extract (MapOrder.entries _) (some .httpHeaders) (some traceOnlyHeader) =
      .error .errSpanContextNotFound :=
  have hkeys : traceOnlyHeader.keys = [traceIDHeader] := rfl
  have hparse : ∀ k vs, traceOnlyHeader.lookup k = some vs → ∀ v ∈ vs,
      (canonicalHeaderKey k = traceIDHeader → ∃ t, traceIDFromString v = .ok t) ∧
      (canonicalHeaderKey k = spanIDHeader → ∃ x, spanIDFromString v = .ok x) := by
    intro k vs hk v hv
    simp only [traceOnlyHeader, Header.lookup_set, canonicalHeaderKey_traceIDHeader] at hk
    split_ifs at hk with hk'
    · subst hk'
      cases hk
      rw [List.mem_singleton.1 hv, canonicalHeaderKey_traceIDHeader]
      exact ⟨fun _ => ⟨_, rfl⟩, fun h => absurd h traceIDHeader_ne_spanIDHeader⟩
    · cases hk
  have hmiss : ∀ k ∈ traceOnlyHeader.keys, canonicalHeaderKey k ≠ spanIDHeader := by
    simp [hkeys]
  ⟨hparse, hmiss, (extract_errors (MapOrder.entries _) none none).2.2 traceOnlyHeader hparse
    (.inr hmiss)⟩

/-- A part of the context that `Extract` returns differently from the empty context was
written by a header of the carrier. -/
theorem exists_header_of_extract {β : Type} (obs : BridgeSpanContext → β)
    (w : GoString → GoString → Option β)
    (hw : ∀ s k v s', extractHandler s k v = .ok s' → obs s' = (w k v).getD (obs s))
    {o : MapOrder (List GoString)} {format : Option BuiltinFormat} {hh : Header}
    {c : BridgeSpanContext} (h : extract o format (some hh) = .ok c)
    (hne : obs c ≠ obs ⟨∅, emptySpanContext⟩) :
    ∃ k vs, hh.lookup k = some vs ∧ ∃ v ∈ vs, w k v = some (obs c) := by
  obtain ⟨-, _, hcar, hfold, -⟩ := extract_eq_ok.1 h
  cases hcar
  have hobs := obs_foldlM obs (fun e : Σ _ : GoString, GoString => w e.1 e.2)
    (fun s a s' he => hw s a.1 a.2 s' he) hfold
  cases hf : (foreachKeyCalls (o.range hh)).reverse.findSome? fun e => w e.1 e.2 with
  | none => rw [hf] at hobs; exact absurd hobs hne
  | some b =>
    obtain ⟨⟨k, v⟩, he, hb⟩ := List.exists_of_findSome?_eq_some hf
    obtain ⟨vs, hkvs, hv⟩ := mem_foreachKeyCalls.1 (List.mem_reverse.1 he)
    refine ⟨k, vs, AList.mem_lookup_iff.2 ((o.perm hh).subset hkvs), v, hv, ?_⟩
    rw [hobs, hf, hb]
    rfl

theorem Except.eq_ok_of_toOption {x : Except ε α} {a : α} (h : x.toOption = some a) :
    x = .ok a := by
  cases x <;> simp_all [Except.toOption]

/-- **`Extract` reads its identifiers from the carrier**: the trace ID and the span ID of the
context it returns parse from values of headers filed under their names. -/
theorem extract_ids_of_carrier {o : MapOrder (List GoString)} {format : Option BuiltinFormat}
    {hh : Header} {c : BridgeSpanContext} (h : extract o format (some hh) = .ok c) :
    (∃ k vs, hh.lookup k = some vs ∧ canonicalHeaderKey k = traceIDHeader ∧
      ∃ v ∈ vs, traceIDFromString v = .ok c.otelSpanContext.traceID) ∧
    (∃ k vs, hh.lookup k = some vs ∧ canonicalHeaderKey k = spanIDHeader ∧
      ∃ v ∈ vs, spanIDFromString v = .ok c.otelSpanContext.spanID) := by
  obtain ⟨-, -, -, -, hv⟩ := extract_eq_ok.1 h
  obtain ⟨hT, hS⟩ := (SpanContext.isValid_iff _).1 hv
  constructor
  · obtain ⟨k, vs, hk, v, hv, hw⟩ := exists_header_of_extract (fun s => s.otelSpanContext.traceID)
      traceIDWrite (fun _ _ _ _ he => (extractHandler_ok he).1) h
      fun he => by simp_all
    unfold traceIDWrite at hw
    split_ifs at hw with hkT
    exact ⟨k, vs, hk, hkT, v, hv, Except.eq_ok_of_toOption hw⟩
  · obtain ⟨k, vs, hk, v, hv, hw⟩ := exists_header_of_extract (fun s => s.otelSpanContext.spanID)
      spanIDWrite (fun _ _ _ _ he => (extractHandler_ok he).2.1) h hS
    unfold spanIDWrite at hw
    split_ifs at hw with hkS
    exact ⟨k, vs, hk, hkS, v, hv, Except.eq_ok_of_toOption hw⟩

/-- A carrier with the two identifiers, filed under lower-case names. -/
def sampleHeader : Header :=
  ((∅ : Header).set (goStr "x-otelbridge-trace-id") (goStr "0000000000000000000000000000002a")).set
    (goStr "x-otelbridge-span-id") (goStr "0000000000000007")

theorem extract_ids_of_carrier_sampleHeader :
    extract (MapOrder.entries _) (some .httpHeaders) (some sampleHeader) =
      .ok ⟨∅, ⟨⟨0, 42⟩, 7, 0⟩⟩ ∧
    (∃ k vs, sampleHeader.lookup k = some vs ∧ canonicalHeaderKey k = traceIDHeader ∧
      ∃ v ∈ vs, traceIDFromString v = .ok ⟨0, 42⟩) ∧
    (∃ k vs, sampleHeader.lookup k = some vs ∧ canonicalHeaderKey k = spanIDHeader ∧
      ∃ v ∈ vs, spanIDFromString v = .ok 7) :=
  have h : extract (MapOrder.entries _) (some .httpHeaders) (some sampleHeader) =
      .ok ⟨∅, ⟨⟨0, 42⟩, 7, 0⟩⟩ := rfl
  ⟨h, extract_ids_of_carrier h⟩

theorem extract_isValid_baggageCanonical_sampleHeader :
    extract (MapOrder.entries _) (some .httpHeaders) (some sampleHeader) =
      .ok ⟨∅, ⟨⟨0, 42⟩, 7, 0⟩⟩ ∧
    (⟨∅, ⟨⟨0, 42⟩, 7, 0⟩⟩ : BridgeSpanContext).otelSpanContext.isValid ∧
    (⟨∅, ⟨⟨0, 42⟩, 7, 0⟩⟩ : BridgeSpanContext).BaggageCanonical :=
  have h : extract (MapOrder.entries _) (some .httpHeaders) (some sampleHeader) =
      .ok ⟨∅, ⟨⟨0, 42⟩, 7, 0⟩⟩ := rfl
  ⟨h, extract_isValid_baggageCanonical h⟩

/-- Every value `Inject` writes is a single string. -/
theorem injectedValue_eq_some {c : BridgeSpanContext} {k : GoString} {vs : List GoString}
    (h : injectedValue c k = some vs) : ∃ v, vs = [v] := by
  unfold injectedValue at h
  split_ifs at h
  all_goals first
    | (cases h; exact ⟨_, rfl⟩)
    | (obtain ⟨v, -, rfl⟩ := Option.map_eq_some'.1 h; exact ⟨v, rfl⟩)

/-- Every key `Inject` writes is canonical. -/
theorem canonicalHeaderKey_of_injectedValue {c : BridgeSpanContext} (hc : c.BaggageCanonical)
    {k : GoString} {vs : List GoString} (h : injectedValue c k = some vs) :
    canonicalHeaderKey k = k := by
  unfold injectedValue at h
  split_ifs at h with h1 h2 h3 hp
  · rw [h1, canonicalHeaderKey_traceIDHeader]
  · rw [h2, canonicalHeaderKey_spanIDHeader]
  · rw [h3, canonicalHeaderKey_traceFlagsHeader]
  · obtain ⟨y, rfl⟩ : ∃ y, k = baggageHeaderPrefix ++ y :=
      ⟨_, (List.prefix_iff_eq_append.1 (List.isPrefixOf_iff_prefix.1 hp)).symm⟩
    rw [trimPrefix_append] at h
    obtain ⟨v, hy, -⟩ := Option.map_eq_some'.1 h
    rw [canonicalHeaderKey_baggageHeaderPrefix_append,
      hc y (AList.lookup_isSome.1 (by simp [hy]))]

/-- The only header filed under the baggage key `x` is the prefix followed by `x`. -/
theorem canonicalHeaderKey_of_baggageWrite {x k v : GoString} (h : baggageWrite x k v ≠ none) :
    canonicalHeaderKey k = baggageHeaderPrefix ++ x := by
  unfold baggageWrite at h
  split_ifs at h with hw
  · obtain ⟨hp, hy⟩ := hw
    obtain ⟨y, hky⟩ : ∃ y, canonicalHeaderKey k = baggageHeaderPrefix ++ y :=
      ⟨_, (List.prefix_iff_eq_append.1 (List.isPrefixOf_iff_prefix.1 hp)).symm⟩
    have hcy : canonicalHeaderKey y = y := by
      have := canonicalHeaderKey_idem k
      rwa [hky, canonicalHeaderKey_baggageHeaderPrefix_append, List.append_cancel_left_eq] at this
    rw [hky, trimPrefix_append, hcy] at hy
    rw [hky, hy]
  · exact absurd rfl h

/-! ### The round trip -/

section RoundTrip

variable {c : BridgeSpanContext} (hc : c.BaggageCanonical) (hv : c.otelSpanContext.isValid)
  (o : MapOrder GoString) {h : Header}
  (hinj : inject o (some c) (some .httpHeaders) (some ∅) = .ok h)
  (o' : MapOrder (List GoString))

include hc hv hinj

/-- Into an empty carrier, `Inject` writes its headers and nothing else. -/
theorem lookup_inject_empty (k : GoString) : h.lookup k = injectedValue c k := by
  rw [lookup_inject hc hv o hinj, AList.lookup_empty, Option.or_none]

/-- The calls `ForeachKey` makes on the injected carrier, in any order, are its headers. -/
theorem mem_foreachKeyCalls_inject {k v : GoString} :
    ⟨k, v⟩ ∈ foreachKeyCalls (o'.range h) ↔ injectedValue c k = some [v] := by
  rw [mem_foreachKeyCalls]
  constructor
  · rintro ⟨vs, he, hv'⟩
    have hl := (lookup_inject_empty hc hv o hinj k).symm.trans
      (AList.mem_lookup_iff.2 ((o'.perm h).subset he))
    obtain ⟨w, rfl⟩ := injectedValue_eq_some hl
    rwa [List.mem_singleton.1 hv']
  · intro hk
    exact ⟨[v], (o'.perm h).symm.subset
      (AList.mem_lookup_iff.1 ((lookup_inject_empty hc hv o hinj k).trans hk)),
      List.mem_singleton_self _⟩

/-- No header of the injected carrier gives an error. -/
theorem foldlM_extractHandler_inject :
    ∃ c', (foreachKeyCalls (o'.range h)).foldlM (fun c e => extractHandler c e.1 e.2)
      ⟨∅, emptySpanContext⟩ = .ok c' := by
  refine foldlM_ok_of_forall (fun e he s => ?_) _
  obtain ⟨k, v⟩ := e
  have hk := (mem_foreachKeyCalls_inject hc hv o hinj o').1 he
  refine extractHandler_ok_of ?_ ?_
  all_goals
    intro hck
    rw [canonicalHeaderKey_of_injectedValue hc hk] at hck
    subst hck
    simp only [injectedValue, if_true, if_neg, traceIDHeader_ne_spanIDHeader,
      spanIDHeader_ne_traceIDHeader, not_false_eq_true, Option.some.injEq, List.cons.injEq,
      and_true] at hk
    subst hk
  · exact ⟨_, traceIDFromString_traceIDString _⟩
  · exact ⟨_, spanIDFromString_spanIDToString _⟩

/-- Through the loop, a part of the context that only the header under the key `K` sets ends
at what that header sets it to. -/
theorem findSome?_inject_of_key {β : Type} {w : (Σ _ : GoString, GoString) → Option β}
    (K v₀ : GoString) {b : β} (hK : injectedValue c K = some [v₀]) (hb : w ⟨K, v₀⟩ = some b)
    (hw : ∀ k v, w ⟨k, v⟩ ≠ none → canonicalHeaderKey k = K) :
    (foreachKeyCalls (o'.range h)).reverse.findSome? w = some b := by
  have hmem := @mem_foreachKeyCalls_inject c hc hv o h hinj o'
  refine findSome?_eq_of_unique (List.mem_reverse.2 (hmem.2 hK)) hb fun ⟨k, v⟩ hm hne => ?_
  have hk := hmem.1 (List.mem_reverse.1 hm)
  have hkK : k = K := (canonicalHeaderKey_of_injectedValue hc hk).symm.trans (hw k v hne)
  subst hkK
  rw [hK, Option.some.injEq, List.cons.injEq] at hk
  rw [hk.1]

variable {c' : BridgeSpanContext}
  (hc' : (foreachKeyCalls (o'.range h)).foldlM (fun c e => extractHandler c e.1 e.2)
    ⟨∅, emptySpanContext⟩ = .ok c')

include hc'

theorem traceID_extract_inject : c'.otelSpanContext.traceID = c.otelSpanContext.traceID := by
  have hfind : (foreachKeyCalls (o'.range h)).reverse.findSome?
      (fun e => traceIDWrite e.1 e.2) = some c.otelSpanContext.traceID :=
    findSome?_inject_of_key hc hv o hinj o' traceIDHeader
      (traceIDString c.otelSpanContext.traceID) (by simp [injectedValue])
      (by simp [traceIDWrite, traceIDFromString_traceIDString, Except.toOption])
      fun k v hne => by_contra fun hk => hne (by simp [traceIDWrite, hk])
  rw [obs_foldlM (fun s : BridgeSpanContext => s.otelSpanContext.traceID) _
    (fun s a s' (he : extractHandler s a.1 a.2 = .ok s') => (extractHandler_ok he).1) hc', hfind, Option.getD_some]

theorem spanID_extract_inject : c'.otelSpanContext.spanID = c.otelSpanContext.spanID := by
  have hfind : (foreachKeyCalls (o'.range h)).reverse.findSome?
      (fun e => spanIDWrite e.1 e.2) = some c.otelSpanContext.spanID :=
    findSome?_inject_of_key hc hv o hinj o' spanIDHeader
      (spanIDToString c.otelSpanContext.spanID) (by simp [injectedValue])
      (by simp [spanIDWrite, spanIDFromString_spanIDToString, Except.toOption])
      fun k v hne => by_contra fun hk => hne (by simp [spanIDWrite, hk])
  rw [obs_foldlM (fun s : BridgeSpanContext => s.otelSpanContext.spanID) _
    (fun s a s' (he : extractHandler s a.1 a.2 = .ok s') => (extractHandler_ok he).2.1) hc', hfind, Option.getD_some]

theorem traceFlags_extract_inject :
    c'.otelSpanContext.traceFlags = c.otelSpanContext.traceFlags &&& traceFlagsSampled := by
  have hfind : (foreachKeyCalls (o'.range h)).reverse.findSome?
      (fun e => traceFlagsWrite e.1 e.2) = some (c.otelSpanContext.traceFlags &&& traceFlagsSampled) :=
    findSome?_inject_of_key hc hv o hinj o' traceFlagsHeader
      (traceFlagsToString c.otelSpanContext.traceFlags) (by simp [injectedValue])
      (by simp [traceFlagsWrite, stringToTraceFlags_traceFlagsToString])
      fun k v hne => by_contra fun hk => hne (by simp [traceFlagsWrite, hk])
  rw [obs_foldlM (fun s : BridgeSpanContext => s.otelSpanContext.traceFlags) _
    (fun s a s' (he : extractHandler s a.1 a.2 = .ok s') => (extractHandler_ok he).2.2.1) hc', hfind, Option.getD_some]

theorem lookup_extract_inject (x : GoString) :
    c'.baggageItems.lookup x = c.baggageItems.lookup x := by
  have hobs := obs_foldlM (fun s : BridgeSpanContext => s.baggageItems.lookup x)
    (fun e : Σ _ : GoString, GoString => baggageWrite x e.1 e.2)
    (fun s a s' (he : extractHandler s a.1 a.2 = .ok s') => (extractHandler_ok he).2.2.2 x) hc'
  dsimp only at hobs
  have hK : ∀ v, injectedValue c (baggageHeaderPrefix ++ x) = some [v] ↔
      c.baggageItems.lookup x = some v := fun v => by
    obtain ⟨h1, h2, h3⟩ := ne_of_hasPrefix (hasPrefix_append baggageHeaderPrefix x)
    rw [injectedValue, if_neg h1, if_neg h2, if_neg h3, if_pos (hasPrefix_append _ _),
      trimPrefix_append]
    cases c.baggageItems.lookup x <;> simp
  cases hx : c.baggageItems.lookup x with
  | some v₀ =>
    have hcx : canonicalHeaderKey x = x := hc x (AList.lookup_isSome.1 (by simp [hx]))
    have hb : baggageWrite x (baggageHeaderPrefix ++ x) v₀ = some (some v₀) := by
      simp [baggageWrite, canonicalHeaderKey_baggageHeaderPrefix_append, hcx]
    rw [hobs, findSome?_inject_of_key hc hv o hinj o' (baggageHeaderPrefix ++ x) v₀
      ((hK v₀).2 hx) hb fun k v hne => canonicalHeaderKey_of_baggageWrite hne, Option.getD_some]
  | none =>
    have hnone : ∀ e ∈ (foreachKeyCalls (o'.range h)).reverse, baggageWrite x e.1 e.2 = none := by
      rintro ⟨k, v⟩ hm
      by_contra hne
      have hk := (mem_foreachKeyCalls_inject hc hv o hinj o').1 (List.mem_reverse.1 hm)
      have hkx := canonicalHeaderKey_of_baggageWrite hne
      rw [canonicalHeaderKey_of_injectedValue hc hk] at hkx
      subst hkx
      simp [(hK v).1 hk] at hx
    rw [hobs, List.findSome?_eq_none_iff.2 hnone]
    exact AList.lookup_empty x

end RoundTrip

/-- **The round trip through HTTP headers.** A valid context the bridge can reach, injected
into an empty carrier, is injected without error, and `Extract`, reading the headers in any
order, returns a context with its trace ID and span ID, the sampled bit of its flags, and the
same baggage as a map. -/
theorem extract_inject (o : MapOrder GoString) (o' : MapOrder (List GoString))
    {c : BridgeSpanContext} (hc : c.Reachable) (hv : c.otelSpanContext.isValid) :
    ∃ h, inject o (some c) (some .httpHeaders) (some ∅) = .ok h ∧
      ∃ c', extract o' (some .httpHeaders) (some h) = .ok c' ∧
        c'.otelSpanContext.traceID = c.otelSpanContext.traceID ∧
        c'.otelSpanContext.spanID = c.otelSpanContext.spanID ∧
        c'.otelSpanContext.traceFlags = c.otelSpanContext.traceFlags &&& traceFlagsSampled ∧
        ∀ k, c'.baggageItems.lookup k = c.baggageItems.lookup k := by
  have hcan := hc.baggageCanonical
  obtain ⟨h, hinj⟩ : ∃ h, inject o (some c) (some .httpHeaders) (some ∅) = .ok h :=
    ⟨_, inject_eq_ok hv o ∅⟩
  obtain ⟨c', hc'⟩ := foldlM_extractHandler_inject hcan hv o hinj o'
  have htr := traceID_extract_inject hcan hv o hinj o' hc'
  have hsp := spanID_extract_inject hcan hv o hinj o' hc'
  have hvalid : c'.otelSpanContext.isValid := by
    unfold SpanContext.isValid SpanContext.hasTraceID SpanContext.hasSpanID at hv ⊢
    rwa [htr, hsp]
  exact ⟨h, hinj, c', extract_eq_ok.2 ⟨rfl, h, rfl, hc', hvalid⟩, htr, hsp,
    traceFlags_extract_inject hcan hv o hinj o' hc', lookup_extract_inject hcan hv o hinj o' hc'⟩

/-- **The round trip keeps the sampled bit, and no other.** Through `Inject` into an empty
carrier and `Extract` in any order, `IsSampled` is kept, and the trace flags come back
unchanged exactly when none of the reserved bits is set. -/
theorem isSampled_extract_inject (o : MapOrder GoString) (o' : MapOrder (List GoString))
    {c : BridgeSpanContext} (hc : c.Reachable) (hv : c.otelSpanContext.isValid) {h : Header}
    (hinj : inject o (some c) (some .httpHeaders) (some ∅) = .ok h) {c' : BridgeSpanContext}
    (hext : extract o' (some .httpHeaders) (some h) = .ok c') :
    c'.otelSpanContext.isSampled = c.otelSpanContext.isSampled ∧
    (c'.otelSpanContext.traceFlags = c.otelSpanContext.traceFlags ↔
      c.otelSpanContext.traceFlags.toNat < 2) := by
  obtain ⟨-, _, ⟨⟩, hfold, -⟩ := extract_eq_ok.1 hext
  have hF := traceFlags_extract_inject hc.baggageCanonical hv o hinj o' hfold
  refine ⟨?_, by rw [hF, and_traceFlagsSampled_eq_self_iff]⟩
  unfold SpanContext.isSampled
  rw [hF]
  exact isSampled_and_traceFlagsSampled c.otelSpanContext

/-- A sampled context whose flags also set a reserved bit. -/
def reservedBitContext : BridgeSpanContext := ⟨∅, ⟨⟨0, 1⟩, 1, 3⟩⟩

theorem isSampled_extract_inject_reservedBitContext :
    reservedBitContext.Reachable ∧ reservedBitContext.otelSpanContext.isValid ∧
    ∃ h, inject (MapOrder.entries _) (some reservedBitContext) (some .httpHeaders) (some ∅) =
        .ok h ∧
      ∃ c', extract (MapOrder.entries _) (some .httpHeaders) (some h) = .ok c' ∧
        c'.otelSpanContext.isSampled = reservedBitContext.otelSpanContext.isSampled ∧
        (c'.otelSpanContext.traceFlags = reservedBitContext.otelSpanContext.traceFlags ↔
          reservedBitContext.otelSpanContext.traceFlags.toNat < 2) :=
  have hc : reservedBitContext.Reachable := BridgeSpanContext.Reachable.empty _
  have hv : reservedBitContext.otelSpanContext.isValid := rfl
  ⟨hc, hv, _, rfl, _, rfl, isSampled_extract_inject (MapOrder.entries _) (MapOrder.entries _)
    hc hv rfl rfl⟩

/-- A sampled context with one baggage item, as `SetBaggageItem` stores it. -/
def sampleBridgeSpanContext : BridgeSpanContext :=
  (⟨∅, ⟨⟨0, 1⟩, 1, 1⟩⟩ : BridgeSpanContext).setBaggageItem (goStr "user-id") (goStr "42")

theorem extract_inject_sampleBridgeSpanContext :
    sampleBridgeSpanContext.Reachable ∧ sampleBridgeSpanContext.otelSpanContext.isValid ∧
    ∃ h, inject (MapOrder.entries _) (some sampleBridgeSpanContext) (some .httpHeaders)
        (some ∅) = .ok h ∧
      ∃ c', extract (MapOrder.entries _) (some .httpHeaders) (some h) = .ok c' ∧
        c'.otelSpanContext.traceID = sampleBridgeSpanContext.otelSpanContext.traceID ∧
        c'.otelSpanContext.spanID = sampleBridgeSpanContext.otelSpanContext.spanID ∧
        c'.otelSpanContext.traceFlags =
          sampleBridgeSpanContext.otelSpanContext.traceFlags &&& traceFlagsSampled ∧
        ∀ k, c'.baggageItems.lookup k = sampleBridgeSpanContext.baggageItems.lookup k :=
  have hc : sampleBridgeSpanContext.Reachable := (BridgeSpanContext.Reachable.empty _).setBaggageItem _ _
  have hv : sampleBridgeSpanContext.otelSpanContext.isValid := rfl
  ⟨hc, hv, extract_inject (MapOrder.entries _) (MapOrder.entries _) hc hv⟩

end OtelGo
