import OtelGo.Core.SpanContext

/-!
# The Binary Context Codec

`binaryPropagator` turns a `SpanContext` into bytes and back. `ToBytes` writes a fixed
29-byte layout: a version byte, then three tagged fields,

* tag `0` and the trace ID (`High`, then `Low`, big-endian) at bytes `[1, 18)`,
* tag `1` and the span ID at bytes `[18, 27)`,
* tag `2` and the trace flags at bytes `[27, 29)`,

and `nil` for the empty context. `FromBytes` drops the version byte, requires the trace-id
field, takes the span-id and flags fields only when their tags match, and collapses every
invalid result to the empty context.

`fromBytes` below follows the Go function statement by statement, one helper per field
(`readTraceID`, `readSpanID`, `readTraceFlags`), with every index and slice expression
checked (`Go.Bytes`). Each helper has one equation lemma giving its value in closed form;
`fromBytes_eq` assembles them into the reference decoder `decodeSpec`, which reads the
grammar at positions of the whole input.

## Main results

* `fromBytes_eq`: on every input the decoder returns, without panicking, `decodeSpec b`.
* `fromBytes_toBytes`: decoding an encoding gives the context back when it is valid, and
  the empty context otherwise.
* `fromBytes_toBytes_take`: an encoding cut short loses its flags first, then everything.
-/

namespace OtelGo

namespace BinaryPropagator

open BigEndian

/-- `ToBytes`: `nil` for the empty context, otherwise the 29 bytes of `var b [29]byte` after
its writes (bytes 0 and 1 keep their zero value: the version and the trace-id tag). -/
def toBytes (sc : SpanContext) : List UInt8 :=
  if sc = emptySpanContext then []
  else [0, 0] ++ putUint64 sc.traceID.high ++ putUint64 sc.traceID.low ++
    1 :: putUint64 sc.spanID ++ [2, sc.traceFlags]

/-- `len(b) >= n && b[0] == tag`; Go's `&&` reads `b[0]` only once the length test passed. -/
def hasField (b : List UInt8) (n : Nat) (tag : UInt8) : Option Bool :=
  if n ≤ b.length then (· == tag) <$> index b 0 else pure false

/-- The trace-id field, which must be there: `some none` is the early
`return core.EmptySpanContext()`, `some (some (id, rest))` the field and what follows it. -/
def readTraceID (b : List UInt8) : Option (Option (TraceID × List UInt8)) := do
  if ← hasField b 17 0 then
    let high ← uint64 (← slice b 1 9)
    let low ← uint64 (← slice b 9 17)
    let b ← sliceFrom b 17
    pure (some (⟨high, low⟩, b))
  else pure none

/-- The optional span-id field. -/
def readSpanID (sc : SpanContext) (b : List UInt8) : Option (SpanContext × List UInt8) := do
  if ← hasField b 9 1 then
    let spanID ← uint64 (← slice b 1 9)
    let b ← sliceFrom b 9
    pure ({ sc with spanID }, b)
  else pure (sc, b)

/-- The optional trace-flags field. -/
def readTraceFlags (sc : SpanContext) (b : List UInt8) : Option SpanContext := do
  if ← hasField b 2 2 then pure { sc with traceFlags := ← index b 1 } else pure sc

/-- `FromBytes`; `none` is a run-time panic. -/
def fromBytes (b : List UInt8) : Option SpanContext := do
  if b.length = 0 then return emptySpanContext
  let b ← sliceFrom b 1
  match ← readTraceID b with
  | none => pure emptySpanContext
  | some (traceID, b) =>
    let (sc, b) ← readSpanID { emptySpanContext with traceID } b
    let sc ← readTraceFlags sc b
    pure (if sc.isValid then sc else emptySpanContext)

/-! ### The reference decoder -/

/-- The big-endian 64-bit number at bytes `[i, i + 8)`. -/
def be64At (b : List UInt8) (i : Nat) : UInt64 := UInt64.ofNat (beNat ((b.drop i).take 8))

/-- The wire grammar, positions counted in the whole input: a non-empty context exactly when
the input is at least 27 bytes long, carries the tags `0` at byte 1 and `1` at byte 18, and
holds a valid trace ID (bytes `[2, 18)`) and span ID (bytes `[19, 27)`); its flags are byte
28 when byte 27 is the tag `2`. -/
def decodeSpec (b : List UInt8) : SpanContext :=
  let sc : SpanContext := ⟨⟨be64At b 2, be64At b 10⟩, be64At b 19,
    if 29 ≤ b.length ∧ b[27]? = some 2 then b[28]?.getD 0 else 0⟩
  if 27 ≤ b.length ∧ b[1]? = some 0 ∧ b[18]? = some 1 ∧ sc.isValid then sc
  else emptySpanContext

theorem be64At_cons (x : UInt8) (b : List UInt8) (i : Nat) :
    be64At (x :: b) (i + 1) = be64At b i := rfl

theorem be64At_drop (b : List UInt8) (i j : Nat) : be64At (b.drop i) j = be64At b (i + j) := by
  simp [be64At, List.drop_drop, Nat.add_comm]

/-- An in-bounds `Uint64(b[i:j])`, with `j = i + 8`, reads the number at `i`. -/
theorem slice_bind_uint64 {α : Type} {b : List UInt8} {i j : Nat} (hj : i + 8 = j)
    (h : j ≤ b.length) (f : UInt64 → Option α) :
    (slice b i j).bind (fun s => (uint64 s).bind f) = f (be64At b i) := by
  subst hj
  rw [slice_of_le (by omega) h, Option.some_bind, uint64_of_le (by simp; omega),
    Option.some_bind, List.drop_take, Nat.add_sub_cancel_left, List.take_take, Nat.min_self]
  rfl

/-! ### One equation per field -/

theorem hasField_eq (b : List UInt8) {n : Nat} (hn : 0 < n) (tag : UInt8) :
    hasField b n tag = some (decide (n ≤ b.length ∧ b[0]? = some tag)) := by
  unfold hasField
  split
  · next hlen =>
    have h0 : 0 < b.length := by omega
    simp [index_of_lt h0, List.getElem?_eq_getElem h0, Bool.beq_eq_decide_eq, hlen]
  · simp [*]

theorem readTraceID_eq (b : List UInt8) :
    readTraceID b = some (if 17 ≤ b.length ∧ b[0]? = some 0
      then some (⟨be64At b 1, be64At b 9⟩, b.drop 17) else none) := by
  simp only [readTraceID, hasField_eq b (show 0 < 17 by decide), Option.bind_eq_bind,
    Option.some_bind, decide_eq_true_eq]
  split_ifs with h
  · rw [slice_bind_uint64 rfl (by omega), slice_bind_uint64 rfl (by omega), sliceFrom_of_le h.1]
    rfl
  · rfl

theorem readSpanID_eq (sc : SpanContext) (b : List UInt8) :
    readSpanID sc b = some (if 9 ≤ b.length ∧ b[0]? = some 1
      then ({ sc with spanID := be64At b 1 }, b.drop 9) else (sc, b)) := by
  simp only [readSpanID, hasField_eq b (show 0 < 9 by decide), Option.bind_eq_bind,
    Option.some_bind, decide_eq_true_eq]
  split_ifs with h
  · rw [slice_bind_uint64 rfl (by omega), sliceFrom_of_le h.1]
    rfl
  · rfl

theorem readTraceFlags_eq (sc : SpanContext) (b : List UInt8) :
    readTraceFlags sc b = some { sc with traceFlags :=
      (if 2 ≤ b.length ∧ b[0]? = some 2 then b[1]?.getD 0 else sc.traceFlags) } := by
  simp only [readTraceFlags, hasField_eq b (show 0 < 2 by decide), Option.bind_eq_bind,
    Option.some_bind, decide_eq_true_eq]
  split_ifs with h
  · have h1 : 1 < b.length := by omega
    simp [index_of_lt h1, List.getElem?_eq_getElem h1]
  · rfl

/-! ### The decoder computes the grammar -/

/-- `fromBytes` past the version byte: the three field readers in turn. -/
theorem fromBytes_cons (x : UInt8) (t : List UInt8) :
    fromBytes (x :: t) = (readTraceID t).bind fun
      | none => some emptySpanContext
      | some (traceID, b) => (readSpanID { emptySpanContext with traceID } b).bind fun p =>
          (readTraceFlags p.1 p.2).bind fun sc =>
            some (if sc.isValid then sc else emptySpanContext) := by
  simp only [fromBytes, List.length_cons, Nat.add_one_ne_zero, if_false, Option.bind_eq_bind,
    sliceFrom_of_le (show 1 ≤ (x :: t).length by simp), List.drop_succ_cons, List.drop_zero]
  rfl

/-- `decodeSpec` past the version byte. -/
theorem decodeSpec_cons (x : UInt8) (t : List UInt8) :
    decodeSpec (x :: t) =
      let sc : SpanContext := ⟨⟨be64At t 1, be64At t 9⟩, be64At t 18,
        if 28 ≤ t.length ∧ t[26]? = some 2 then t[27]?.getD 0 else 0⟩
      if 26 ≤ t.length ∧ t[0]? = some 0 ∧ t[17]? = some 1 ∧ sc.isValid then sc
      else emptySpanContext := by
  have e27 : 27 ≤ t.length + 1 ↔ 26 ≤ t.length := by omega
  have e29 : 29 ≤ t.length + 1 ↔ 28 ≤ t.length := by omega
  simp only [decodeSpec, List.length_cons, e27, e29, List.getElem?_cons_succ, be64At_cons]

/-- **The decoder never panics and computes the grammar.** Each field reader is replaced
by its equation; a missing trace-id field returns early, a missing span-id field leaves the
span ID zero, which the final validity test rejects. -/
theorem fromBytes_eq (b : List UInt8) : fromBytes b = some (decodeSpec b) := by
  rcases b with _ | ⟨x, t⟩
  · rfl
  rw [fromBytes_cons, readTraceID_eq, Option.some_bind, decodeSpec_cons]
  by_cases h1 : 17 ≤ t.length ∧ t[0]? = some 0
  swap
  · rw [if_neg h1, if_neg fun h => h1 ⟨by omega, h.2.1⟩]
  rw [if_pos h1]
  dsimp only
  rw [readSpanID_eq, Option.some_bind]
  by_cases h2 : 9 ≤ (t.drop 17).length ∧ (t.drop 17)[0]? = some 1
  · have h2' : 26 ≤ t.length ∧ t[17]? = some 1 :=
      ⟨by simp at h2; omega, by simpa [List.getElem?_drop] using h2.2⟩
    have e2 : 2 ≤ t.length - 26 ↔ 28 ≤ t.length := by omega
    rw [if_pos h2, readTraceFlags_eq, Option.some_bind]
    simp only [h1.2, h2'.1, h2'.2, true_and, List.drop_drop, List.length_drop,
      List.getElem?_drop, Nat.reduceAdd, e2, be64At_drop]
    rfl
  · have h2' : ¬(26 ≤ t.length ∧ t[17]? = some 1) :=
      fun h => h2 ⟨by simp; omega, by simpa [List.getElem?_drop] using h.2⟩
    rw [if_neg h2, readTraceFlags_eq, Option.some_bind, eq_comm,
      if_neg fun h => h2' ⟨h.1, h.2.2.1⟩]
    simp

/-- The grammar never yields a partially populated context. -/
theorem decodeSpec_eq_empty_or_isValid (b : List UInt8) :
    decodeSpec b = emptySpanContext ∨ (decodeSpec b).isValid := by
  unfold decodeSpec
  generalize (if 29 ≤ b.length ∧ b[27]? = some 2 then b[28]?.getD 0 else 0) = f
  dsimp only
  split
  · next h => exact .inr h.2.2.2
  · exact .inl rfl

theorem be64At_take {t : List UInt8} {i n : Nat} (h : i + 8 ≤ n) :
    be64At (t.take n) i = be64At t i := by
  rw [be64At, be64At, List.drop_take, List.take_take, Nat.min_eq_left (by omega)]

/-- The grammar reads neither the version byte nor anything past byte 28. -/
theorem decodeSpec_cons_take (x y : UInt8) (t : List UInt8) :
    decodeSpec (x :: t) = decodeSpec (y :: t.take 28) := by
  have e26 : 26 ≤ (t.take 28).length ↔ 26 ≤ t.length := by rw [List.length_take]; omega
  have e28 : 28 ≤ (t.take 28).length ↔ 28 ≤ t.length := by rw [List.length_take]; omega
  simp only [decodeSpec_cons, e26, e28, be64At_take (show 1 + 8 ≤ 28 by decide),
    be64At_take (show 9 + 8 ≤ 28 by decide), be64At_take (show 18 + 8 ≤ 28 by decide),
    List.getElem?_take_of_lt (show 0 < 28 by decide), List.getElem?_take_of_lt
    (show 17 < 28 by decide), List.getElem?_take_of_lt (show 26 < 28 by decide),
    List.getElem?_take_of_lt (show 27 < 28 by decide)]

/-- **`FromBytes` is the grammar.** On every byte string the decoder returns, without
panicking, the reference decoder's answer; that answer is empty or valid, and it depends
neither on byte 0 nor on any byte from index 29 on. -/
theorem fromBytes_eq_decodeSpec :
    (∀ b, fromBytes b = some (decodeSpec b)) ∧
    (∀ b, decodeSpec b = emptySpanContext ∨ (decodeSpec b).isValid) ∧
    (∀ (x y : UInt8) (t : List UInt8), fromBytes (x :: t) = fromBytes (y :: t.take 28)) :=
  ⟨fromBytes_eq, decodeSpec_eq_empty_or_isValid, fun x y t => by
    rw [fromBytes_eq, fromBytes_eq, decodeSpec_cons_take x y]⟩

/-- **No input makes `FromBytes` panic**: every index and slice expression it evaluates is
in bounds. -/
theorem fromBytes_isSome (b : List UInt8) : (fromBytes b).isSome := by
  rw [fromBytes_eq]
  rfl

/-! ### The round trip -/

theorem be64At_putUint64 (l r : List UInt8) (v : UInt64) :
    be64At (l ++ putUint64 v ++ r) l.length = v := by
  rw [be64At, List.append_assoc, List.drop_left, List.take_append_of_le_length (by simp),
    List.take_of_length_le (by simp), ofNat_beNat_putUint64]

/-- The layout `ToBytes` writes, followed by any tail, decodes to the context it was written
from, with the flags the tail carries, or to the empty context when that one is invalid. -/
theorem decodeSpec_layout (sc : SpanContext) (r : List UInt8) :
    decodeSpec ([0, 0] ++ putUint64 sc.traceID.high ++ putUint64 sc.traceID.low ++
      1 :: putUint64 sc.spanID ++ r) =
      if sc.isValid then
        { sc with traceFlags := if 2 ≤ r.length ∧ r[0]? = some 2 then r[1]?.getD 0 else 0 }
      else emptySpanContext := by
  have e2 := be64At_putUint64 [0, 0]
    (putUint64 sc.traceID.low ++ 1 :: putUint64 sc.spanID ++ r) sc.traceID.high
  have e10 := be64At_putUint64 ([0, 0] ++ putUint64 sc.traceID.high)
    (1 :: putUint64 sc.spanID ++ r) sc.traceID.low
  have e19 := be64At_putUint64 ([0, 0] ++ putUint64 sc.traceID.high ++
    putUint64 sc.traceID.low ++ [1]) r sc.spanID
  simp only [List.length_append, length_putUint64, List.length_cons, List.length_nil,
    Nat.reduceAdd, List.append_assoc, List.cons_append, List.singleton_append,
    List.nil_append] at e2 e10 e19
  set b := 0 :: 0 :: (putUint64 sc.traceID.high ++ (putUint64 sc.traceID.low ++
    1 :: (putUint64 sc.spanID ++ r)))
  have hb : b = (0 :: 0 :: (putUint64 sc.traceID.high ++ (putUint64 sc.traceID.low ++
      1 :: putUint64 sc.spanID))) ++ r := by simp [b]
  have hpre : (0 :: 0 :: (putUint64 sc.traceID.high ++ (putUint64 sc.traceID.low ++
      1 :: putUint64 sc.spanID))).length = 27 := by simp
  have hlen : b.length = 27 + r.length := by rw [hb, List.length_append, hpre]
  have h1 : b[1]? = some 0 := by simp [b]
  have h18 : b[18]? = some 1 := by
    simp only [b, List.getElem?_cons_succ]
    rw [List.getElem?_append_right (by simp), List.getElem?_append_right (by simp)]
    simp
  have h27 : b[27]? = r[0]? := by rw [hb, List.getElem?_append_right (by omega), hpre]
  have h28 : b[28]? = r[1]? := by rw [hb, List.getElem?_append_right (by omega), hpre]
  have e29 : 29 ≤ 27 + r.length ↔ 2 ≤ r.length := by omega
  simp only [decodeSpec, List.append_assoc, List.cons_append, List.singleton_append,
    List.nil_append, e2, e10, e19, hlen, h1, h18, h27, h28, e29]
  simp only [Nat.le_add_right, true_and]
  rfl

/-- **The codec round trip.** Decoding what `ToBytes` wrote gives the context back, flags
included, when it is valid, and the empty context otherwise (the empty context itself
travels as `nil`). -/
theorem fromBytes_toBytes (sc : SpanContext) :
    fromBytes (toBytes sc) = some (if sc.isValid then sc else emptySpanContext) := by
  by_cases h : sc = emptySpanContext
  · subst h
    rfl
  rw [fromBytes_eq, toBytes, if_neg h, decodeSpec_layout]
  simp

/-- **A truncated encoding loses its flags first**: cut below 27 bytes it decodes to the
empty context, cut to 27 or 28 bytes it decodes to the context with its flags cleared, and
otherwise to the context itself, as long as that one is valid. -/
theorem fromBytes_toBytes_take (sc : SpanContext) (n : Nat) :
    fromBytes ((toBytes sc).take n) = some (if sc.isValid ∧ 27 ≤ n then
      (if 29 ≤ n then sc else { sc with traceFlags := 0 }) else emptySpanContext) := by
  by_cases h : sc = emptySpanContext
  · subst h
    simp [toBytes, fromBytes_eq, decodeSpec]
  rw [fromBytes_eq, toBytes, if_neg h]
  by_cases hn : 27 ≤ n
  · have hpre : ([0, 0] ++ putUint64 sc.traceID.high ++ putUint64 sc.traceID.low ++
        1 :: putUint64 sc.spanID).length = 27 := by simp
    rw [List.take_append_eq_append_take, List.take_of_length_le (by omega), hpre,
      decodeSpec_layout]
    obtain ⟨k, rfl⟩ := Nat.exists_eq_add_of_le hn
    rcases k with _ | _ | k <;> simp [Nat.add_comm 27]
  · simp [decodeSpec, hn, Nat.le_min]

end BinaryPropagator

end OtelGo
