import OtelGo.Bridge.Propagation

/-!
# Extract and the Order of the Carrier

`Extract` reads the carrier with `ForeachKey`, a `range` over an `http.Header`, in an order
Go leaves unspecified, and when two headers set the same part of the context the later one
wins. A carrier whose keys are canonical, as `http.Header.Set` and `Inject` write them, has at
most one key for each part, so the order cannot matter. A carrier filled by assigning to the
map directly can hold two keys that canonicalize to the same header, and then it does.

## Main results

* `extract_order_independent`: on a carrier with canonical keys, `Extract` succeeds in one
  order exactly when it does in every other, with the same span context and the same
  baggage. The hypothesis is needed: on a carrier with two spellings of the trace-ID header,
  two orders give two trace IDs (the example at the end).
-/

namespace OtelGo

/-! ### The last write under one key -/

/-- When only the calls of the key `K` can write, the last write through the calls of a map
without repeated keys is the last write among `K`'s values. -/
theorem findSome?_foreachKeyCalls {β : Type} {l : List (Σ _ : GoString, List GoString)}
    (hl : l.NodupKeys) {K : GoString} {w : (Σ _ : GoString, GoString) → Option β}
    (hw : ∀ k ∈ l.keys, ∀ v, w ⟨k, v⟩ ≠ none → k = K) :
    (foreachKeyCalls l).reverse.findSome? w =
      ((l.dlookup K).getD []).reverse.findSome? fun v => w ⟨K, v⟩ := by
  induction l with
  | nil => rfl
  | cons e l ih =>
    obtain ⟨hek, hl'⟩ := List.nodupKeys_cons.1 hl
    have hcalls : foreachKeyCalls (e :: l) =
        e.2.map (fun v => (⟨e.1, v⟩ : Σ _ : GoString, GoString)) ++ foreachKeyCalls l := rfl
    rw [hcalls, List.reverse_append, List.findSome?_append,
      ih hl' fun k hk => hw k (List.mem_cons_of_mem _ hk)]
    by_cases hK : e.1 = K
    · rcases e with ⟨k, vs⟩
      obtain rfl : k = K := hK
      rw [List.dlookup_eq_none.2 hek, List.dlookup_cons_eq, Option.getD_none, Option.getD_some,
        List.reverse_nil, List.findSome?_nil, Option.none_or, ← List.map_reverse,
        List.findSome?_map]
      rfl
    · have hnone : (e.2.map fun v => (⟨e.1, v⟩ : Σ _ : GoString, GoString)).reverse.findSome? w =
          none := List.findSome?_eq_none_iff.2 fun a ha => by
        obtain ⟨v, -, rfl⟩ := List.mem_map.1 (List.mem_reverse.1 ha)
        by_contra hv
        exact hK (hw e.1 (List.mem_cons_self _ _) v hv)
      rw [hnone, Option.or_none, List.dlookup_cons_ne _ _ (Ne.symm hK)]

/-- The same for the order `range` presents a carrier in: the answer is the carrier's own. -/
theorem findSome?_foreachKeyCalls_range {β : Type} (o : MapOrder (List GoString)) (hh : Header)
    {K : GoString} {w : (Σ _ : GoString, GoString) → Option β}
    (hw : ∀ k ∈ hh, ∀ v, w ⟨k, v⟩ ≠ none → k = K) :
    (foreachKeyCalls (o.range hh)).reverse.findSome? w =
      ((hh.lookup K).getD []).reverse.findSome? fun v => w ⟨K, v⟩ := by
  have hnd : (o.range hh).NodupKeys := (List.perm_nodupKeys (o.perm hh)).2 hh.nodupKeys
  rw [findSome?_foreachKeyCalls hnd fun k hk =>
      hw k (AList.mem_keys.1 (((o.perm hh).map Sigma.fst).mem_iff.1 hk)),
    List.perm_dlookup K hnd hh.nodupKeys (o.perm hh)]
  rfl

/-! ### Each header parses or not, whatever came before -/

/-- A call that returns from one state returns from every state. -/
theorem extractHandler_ok_of_ok {s s' : BridgeSpanContext} {k v : GoString}
    (h : extractHandler s k v = .ok s') (t : BridgeSpanContext) :
    ∃ t', extractHandler t k v = .ok t' := by
  refine extractHandler_ok_of (fun hT => ?_) fun hS => ?_
  · unfold extractHandler at h
    rw [if_pos hT] at h
    obtain ⟨x, hx, -⟩ := Except.bind_eq_ok.1 h
    exact ⟨x, hx⟩
  · unfold extractHandler at h
    have hT : canonicalHeaderKey k ≠ traceIDHeader := hS ▸ Ne.symm traceIDHeader_ne_spanIDHeader
    rw [if_neg hT, if_pos hS] at h
    obtain ⟨x, hx, -⟩ := Except.bind_eq_ok.1 h
    exact ⟨x, hx⟩

/-- A loop that returns took a returning step at every element. -/
theorem exists_ok_of_foldlM_ok {σ α ε : Type} {f : σ → α → Except ε σ} :
    ∀ {l : List α} {s s' : σ}, l.foldlM f s = .ok s' → ∀ a ∈ l, ∃ t t', f t a = .ok t'
  | [], _, _, _, _, ha => absurd ha (List.not_mem_nil _)
  | _ :: _, _, _, hl, a, ha => by
    obtain ⟨s₁, h₁, hl⟩ := Except.bind_eq_ok.1 hl
    rcases List.mem_cons.1 ha with rfl | ha
    · exact ⟨_, _, h₁⟩
    · exact exists_ok_of_foldlM_ok hl a ha

/-! ### Canonical carriers -/

theorem Header.canonical_empty : ∀ k ∈ (∅ : Header), canonicalHeaderKey k = k :=
  fun k hk => absurd hk (AList.not_mem_empty k)

/-- `Set` keeps a carrier's keys canonical. -/
theorem Header.canonical_set {h : Header} (hcanon : ∀ k ∈ h, canonicalHeaderKey k = k)
    (key value : GoString) : ∀ k ∈ h.set key value, canonicalHeaderKey k = k := by
  intro k hk
  rcases (AList.mem_insert _).1 hk with rfl | hk
  · exact canonicalHeaderKey_idem key
  · exact hcanon k hk

section Canonical

variable {hh : Header} (hcanon : ∀ k ∈ hh, canonicalHeaderKey k = k)

include hcanon

/-- The part of the context a canonical carrier sets does not depend on the order. -/
theorem obs_extract_eq {β : Type} (obs : BridgeSpanContext → β)
    (w : GoString → GoString → Option β)
    (hw : ∀ s k v s', extractHandler s k v = .ok s' → obs s' = (w k v).getD (obs s))
    (K : GoString) (hK : ∀ k v, w k v ≠ none → canonicalHeaderKey k = K)
    {o₁ o₂ : MapOrder (List GoString)} {c₁ c₂ : BridgeSpanContext}
    (h₁ : (foreachKeyCalls (o₁.range hh)).foldlM (fun c e => extractHandler c e.1 e.2)
      ⟨∅, emptySpanContext⟩ = .ok c₁)
    (h₂ : (foreachKeyCalls (o₂.range hh)).foldlM (fun c e => extractHandler c e.1 e.2)
      ⟨∅, emptySpanContext⟩ = .ok c₂) : obs c₂ = obs c₁ := by
  have hobs := fun {c} (o : MapOrder (List GoString))
      (h : (foreachKeyCalls (o.range hh)).foldlM (fun c e => extractHandler c e.1 e.2)
        ⟨∅, emptySpanContext⟩ = .ok c) =>
    (obs_foldlM obs (fun e : Σ _ : GoString, GoString => w e.1 e.2)
      (fun s a s' he => hw s a.1 a.2 s' he) h).trans
      (congrArg (Option.getD · _) (findSome?_foreachKeyCalls_range o hh
        fun k hk v hv => (hcanon k hk).symm.trans (hK k v hv)))
  rw [hobs o₂ h₂, hobs o₁ h₁]

/-- **`Extract` does not depend on the order of a canonical carrier.** When every key of
the carrier is canonical, as `Set` writes them, `Extract` succeeding under one order of the
`range` succeeds under every other, with the same span context and the same baggage. -/
theorem extract_order_independent {o₁ o₂ : MapOrder (List GoString)}
    {format : Option BuiltinFormat} {c₁ : BridgeSpanContext}
    (h₁ : extract o₁ format (some hh) = .ok c₁) :
    ∃ c₂, extract o₂ format (some hh) = .ok c₂ ∧ c₂.otelSpanContext = c₁.otelSpanContext ∧
      ∀ x, c₂.baggageItems.lookup x = c₁.baggageItems.lookup x := by
  obtain ⟨hf, _, hcar, hfold₁, hv⟩ := extract_eq_ok.1 h₁
  cases hcar
  have hperm : (foreachKeyCalls (o₁.range hh)).Perm (foreachKeyCalls (o₂.range hh)) :=
    ((o₁.perm hh).trans (o₂.perm hh).symm).flatMap_right _
  obtain ⟨c₂, hfold₂⟩ := foldlM_ok_of_forall (fun a ha s => by
    obtain ⟨t, t', ht⟩ := exists_ok_of_foldlM_ok hfold₁ a (hperm.mem_iff.2 ha)
    exact extractHandler_ok_of_ok ht s) (⟨∅, emptySpanContext⟩ : BridgeSpanContext)
  have hsc : c₂.otelSpanContext = c₁.otelSpanContext := SpanContext.ext
    (obs_extract_eq hcanon _ traceIDWrite (fun _ _ _ _ he => (extractHandler_ok he).1)
      traceIDHeader (fun _ _ hw => (ite_ne_right_iff.1 hw).1) hfold₁ hfold₂)
    (obs_extract_eq hcanon _ spanIDWrite (fun _ _ _ _ he => (extractHandler_ok he).2.1)
      spanIDHeader (fun _ _ hw => (ite_ne_right_iff.1 hw).1) hfold₁ hfold₂)
    (obs_extract_eq hcanon _ traceFlagsWrite (fun _ _ _ _ he => (extractHandler_ok he).2.2.1)
      traceFlagsHeader (fun _ _ hw => (ite_ne_right_iff.1 hw).1) hfold₁ hfold₂)
  refine ⟨c₂, extract_eq_ok.2 ⟨hf, hh, rfl, hfold₂, hsc ▸ hv⟩, hsc, fun x => ?_⟩
  exact obs_extract_eq hcanon (fun s => s.baggageItems.lookup x) (baggageWrite x)
    (fun _ _ _ _ he => (extractHandler_ok he).2.2.2 x) (baggageHeaderPrefix ++ x)
    (fun _ _ hw => canonicalHeaderKey_of_baggageWrite hw) hfold₁ hfold₂

end Canonical

/-- The reverse of the order a map keeps its entries in. -/
def MapOrder.reversed (β : Type) : MapOrder β :=
  ⟨fun m => m.entries.reverse, fun _ => List.reverse_perm _⟩

theorem extract_order_independent_sampleHeader :
    (∀ k ∈ sampleHeader, canonicalHeaderKey k = k) ∧
    extract (MapOrder.entries _) (some .httpHeaders) (some sampleHeader) =
      .ok ⟨∅, ⟨⟨0, 42⟩, 7, 0⟩⟩ ∧
    ∃ c₂, extract (MapOrder.reversed _) (some .httpHeaders) (some sampleHeader) = .ok c₂ ∧
      c₂.otelSpanContext = ⟨⟨0, 42⟩, 7, 0⟩ ∧
      ∀ x, c₂.baggageItems.lookup x = (∅ : GoMap).lookup x :=
  have hcanon : ∀ k ∈ sampleHeader, canonicalHeaderKey k = k :=
    Header.canonical_set (Header.canonical_set Header.canonical_empty _ _) _ _
  have h : extract (MapOrder.entries _) (some .httpHeaders) (some sampleHeader) =
      .ok ⟨∅, ⟨⟨0, 42⟩, 7, 0⟩⟩ := rfl
  ⟨hcanon, h, extract_order_independent hcanon h⟩

/-! ### Two spellings of one header -/

/-- A carrier filled by assigning to the map: the trace ID under its canonical name and again
in lower case, and a span ID. -/
def twoTraceIDs : Header :=
  (((∅ : Header).insert (goStr "X-Otelbridge-Trace-Id")
    [goStr "00000000000000000000000000000001"]).insert (goStr "x-otelbridge-trace-id")
    [goStr "00000000000000000000000000000002"]).insert (goStr "X-Otelbridge-Span-Id")
    [goStr "0000000000000007"]

-- Without canonical keys the order matters: the map's order and its reverse give different
-- trace IDs.
example : extract (MapOrder.entries _) (some .httpHeaders) (some twoTraceIDs) =
      .ok ⟨∅, ⟨⟨0, 1⟩, 7, 0⟩⟩ ∧
    extract (MapOrder.reversed _) (some .httpHeaders) (some twoTraceIDs) =
      .ok ⟨∅, ⟨⟨0, 2⟩, 7, 0⟩⟩ :=
  ⟨rfl, rfl⟩

end OtelGo
