import OtelGo.Core.SpanContext
import OtelGo.Go.Strconv

/-!
# Identifier and Flag Strings of the OpenTracing Bridge

The bridge carries a span context through HTTP headers as text: the trace ID as 32 hex
digits (`traceIDString`, `%.16x%.16x`), the span ID as 16 (`spanIDToString`), and the flags
as the word `sampled` or nothing. Reading them back, `traceIDFromString` and
`spanIDFromString` check the length and hand the digits to `ParseUint`, and
`stringToTraceFlags` looks for `sampled` among the comma-separated parts.

## Main results

* `parseUint_fmtHex` and `fmtHex_of_parseUint`: on sixteen bytes, printing inverts parsing
  up to case, and parsing inverts printing.
* `idStrings_spec`: the printers and parsers of both identifiers accept exactly the strings
  of hex digits of the right length and are inverse to each other.
* `idStrings_errors`: a wrong length gives the parser's own error text, and a bad digit
  `ParseUint`'s syntax error on the half that holds it.
* `stringToTraceFlags_eq` and `stringToTraceFlags_traceFlagsToString`: the flags are read as
  their sampled bit alone, and survive the trip as that bit.
-/

namespace OtelGo

/-- The errors the bridge returns: `fmt.Errorf` values, `strconv` errors passed through, and
the sentinel errors of `opentracing`. -/
inductive BridgeError
  | errorf (msg : String)
  | numError (e : NumError)
  | errInvalidSpanContext
  | errUnsupportedFormat
  | errInvalidCarrier
  | errSpanContextNotFound
  deriving DecidableEq, Repr

/-- `traceIDString`: `fmt.Sprintf("%.16x%.16x", traceID.High, traceID.Low)`. -/
def traceIDString (traceID : TraceID) : GoString :=
  fmtHex 16 traceID.high.toNat ++ fmtHex 16 traceID.low.toNat

/-- `spanIDToString`: `fmt.Sprintf("%.16x", spanID)`. -/
def spanIDToString (spanID : UInt64) : GoString := fmtHex 16 spanID.toNat

/-- `traceIDFromString`: 32 bytes, whose halves `s[0:16]` and `s[16:32]` are parsed. -/
def traceIDFromString (s : GoString) : Except BridgeError TraceID := do
  if s.length ≠ 32 then throw (.errorf "invalid trace ID")
  let high ← (parseUint (s.take 16)).mapError .numError
  let low ← (parseUint ((s.take 32).drop 16)).mapError .numError
  pure ⟨high, low⟩

/-- `spanIDFromString`: 16 bytes, parsed. -/
def spanIDFromString (s : GoString) : Except BridgeError UInt64 :=
  if s.length ≠ 16 then .error (.errorf "invalid span ID")
  else (parseUint s).mapError .numError

/-- `traceFlagsToString`: the parts `["sampled"]` or `[]`, joined with commas. -/
def traceFlagsToString (opts : UInt8) : GoString :=
  let parts := if opts &&& traceFlagsSampled = traceFlagsSampled then [goStr "sampled"] else []
  (goStr ",").intercalate parts

/-- `stringToTraceFlags`: the sampled bit for every part `sampled` of `strings.Split(s, ",")`. -/
def stringToTraceFlags (s : GoString) : UInt8 :=
  (s.splitOn (goStr ",").head!).foldl
    (fun opts part => if part = goStr "sampled" then opts ||| traceFlagsSampled else opts) 0

/-! ### Sixteen hex digits -/

theorem fmtHex_toNat (v : UInt64) : fmtHex 16 v.toNat = hexFixed v.toNat 16 :=
  fmtHex_eq_hexFixed (by decide) (UInt64.toNat_lt_size v)

/-- Parsing what `%.16x` printed gives the value back. -/
theorem parseUint_fmtHex (v : UInt64) : parseUint (fmtHex 16 v.toNat) = .ok v := by
  have hv : v.toNat < 16 ^ 16 := UInt64.toNat_lt_size v
  rw [fmtHex_toNat, parseUint_eq (length_hexFixed _ _), if_pos (all_isHexDigit_hexFixed _ _),
    hexValue_hexFixed, Nat.mod_eq_of_lt hv]
  exact congrArg Except.ok (UInt64.toNat.inj (UInt64.toNat_ofNat_of_lt hv))

theorem parseUint_ok_iff {s : GoString} (hs : s.length = 16) :
    (∃ v, parseUint s = .ok v) ↔ s.all isHexDigit := by
  rw [parseUint_eq hs]
  split_ifs with h <;> simp [h]

/-- Printing what was parsed from sixteen bytes gives them back in lower case. -/
theorem fmtHex_of_parseUint {s : GoString} {v : UInt64} (hs : s.length = 16)
    (h : parseUint s = .ok v) : fmtHex 16 v.toNat = s.map asciiLower := by
  rw [parseUint_eq hs] at h
  split_ifs at h with hall
  · cases h
    have hlt : hexValue s < 16 ^ 16 := hs ▸ hexValue_lt hall
    rw [UInt64.toNat_ofNat_of_lt hlt, fmtHex_eq_hexFixed (by decide) hlt, ← hs,
      hexFixed_hexValue hall]

/-! ### Trace and span IDs -/

theorem traceIDFromString_eq_ok {s : GoString} {t : TraceID} :
    traceIDFromString s = .ok t ↔
      s.length = 32 ∧ parseUint (s.take 16) = .ok t.high ∧ parseUint (s.drop 16) = .ok t.low := by
  rcases t with ⟨high, low⟩
  unfold traceIDFromString
  by_cases hs : s.length = 32
  · rw [List.take_of_length_le (by omega : s.length ≤ 32)]
    cases h1 : parseUint (s.take 16) <;> cases h2 : parseUint (s.drop 16) <;>
      simp [hs, Except.mapError]
  · simp [hs]

theorem spanIDFromString_eq_ok {s : GoString} {x : UInt64} :
    spanIDFromString s = .ok x ↔ s.length = 16 ∧ parseUint s = .ok x := by
  unfold spanIDFromString
  by_cases hs : s.length = 16
  · cases h : parseUint s <;> simp [hs, h, Except.mapError]
  · simp [hs]

theorem length_fmtHex (v : UInt64) : (fmtHex 16 v.toNat).length = 16 := by
  rw [fmtHex_toNat, length_hexFixed]

theorem traceIDFromString_ok_iff (s : GoString) :
    (∃ t, traceIDFromString s = .ok t) ↔ s.length = 32 ∧ s.all isHexDigit := by
  have halves : s.length = 32 → (s.take 16).length = 16 ∧ (s.drop 16).length = 16 :=
    fun hs => by simp [hs]
  simp only [traceIDFromString_eq_ok]
  constructor
  · rintro ⟨t, hs, h1, h2⟩
    refine ⟨hs, ?_⟩
    rw [← List.take_append_drop 16 s, List.all_append,
      (parseUint_ok_iff (halves hs).1).1 ⟨_, h1⟩, (parseUint_ok_iff (halves hs).2).1 ⟨_, h2⟩]
    rfl
  · rintro ⟨hs, hall⟩
    rw [← List.take_append_drop 16 s, List.all_append, Bool.and_eq_true] at hall
    obtain ⟨high, h1⟩ := (parseUint_ok_iff (halves hs).1).2 hall.1
    obtain ⟨low, h2⟩ := (parseUint_ok_iff (halves hs).2).2 hall.2
    exact ⟨⟨high, low⟩, hs, h1, h2⟩

theorem traceIDString_of_traceIDFromString {s : GoString} {t : TraceID}
    (h : traceIDFromString s = .ok t) : traceIDString t = s.map asciiLower := by
  obtain ⟨hs, h1, h2⟩ := traceIDFromString_eq_ok.1 h
  rw [traceIDString, fmtHex_of_parseUint (by simp [hs]) h1, fmtHex_of_parseUint (by simp [hs]) h2,
    ← List.map_append, List.take_append_drop]

theorem traceIDFromString_traceIDString (t : TraceID) :
    traceIDFromString (traceIDString t) = .ok t := by
  have hlen := length_fmtHex t.high
  refine traceIDFromString_eq_ok.2 ⟨by simp [traceIDString, length_fmtHex], ?_, ?_⟩
  · rw [traceIDString, List.take_left' hlen, parseUint_fmtHex]
  · rw [traceIDString, List.drop_left' hlen, parseUint_fmtHex]

theorem spanIDFromString_ok_iff (s : GoString) :
    (∃ x, spanIDFromString s = .ok x) ↔ s.length = 16 ∧ s.all isHexDigit := by
  simp only [spanIDFromString_eq_ok]
  constructor
  · rintro ⟨x, hs, h⟩
    exact ⟨hs, (parseUint_ok_iff hs).1 ⟨x, h⟩⟩
  · rintro ⟨hs, hall⟩
    obtain ⟨x, h⟩ := (parseUint_ok_iff hs).2 hall
    exact ⟨x, hs, h⟩

theorem spanIDToString_of_spanIDFromString {s : GoString} {x : UInt64}
    (h : spanIDFromString s = .ok x) : spanIDToString x = s.map asciiLower :=
  fmtHex_of_parseUint (spanIDFromString_eq_ok.1 h).1 (spanIDFromString_eq_ok.1 h).2

theorem spanIDFromString_spanIDToString (x : UInt64) :
    spanIDFromString (spanIDToString x) = .ok x :=
  spanIDFromString_eq_ok.2 ⟨length_fmtHex x, parseUint_fmtHex x⟩

/-- **The bridge's identifier strings.** `traceIDFromString` accepts exactly the strings of
32 hex digits, `traceIDString` of what it parsed is its input in lower case, and it inverts
`traceIDString` on every trace ID; `spanIDFromString` and `spanIDToString` behave likewise
on 16 digits. -/
theorem idStrings_spec :
    (∀ s, (∃ t, traceIDFromString s = .ok t) ↔ s.length = 32 ∧ s.all isHexDigit) ∧
    (∀ s t, traceIDFromString s = .ok t → traceIDString t = s.map asciiLower) ∧
    (∀ t, traceIDFromString (traceIDString t) = .ok t) ∧
    (∀ s, (∃ x, spanIDFromString s = .ok x) ↔ s.length = 16 ∧ s.all isHexDigit) ∧
    (∀ s x, spanIDFromString s = .ok x → spanIDToString x = s.map asciiLower) ∧
    (∀ x, spanIDFromString (spanIDToString x) = .ok x) :=
  ⟨traceIDFromString_ok_iff, fun _ _ => traceIDString_of_traceIDFromString,
    traceIDFromString_traceIDString, spanIDFromString_ok_iff,
    fun _ _ => spanIDToString_of_spanIDFromString, spanIDFromString_spanIDToString⟩

/-- **Every error of the identifier parsers names its cause**: a wrong length gives the
`fmt.Errorf` text of the parser, and a bad digit gives `ParseUint`'s syntax error on the very
half it lies in, the first half checked first. -/
theorem idStrings_errors (s : GoString) :
    (s.length ≠ 32 → traceIDFromString s = .error (.errorf "invalid trace ID")) ∧
    (s.length = 32 → (s.take 16).all isHexDigit = false →
      traceIDFromString s = .error (.numError ⟨"ParseUint", s.take 16, .errSyntax⟩)) ∧
    (s.length = 32 → (s.take 16).all isHexDigit → (s.drop 16).all isHexDigit = false →
      traceIDFromString s = .error (.numError ⟨"ParseUint", s.drop 16, .errSyntax⟩)) ∧
    (s.length ≠ 16 → spanIDFromString s = .error (.errorf "invalid span ID")) ∧
    (s.length = 16 → s.all isHexDigit = false →
      spanIDFromString s = .error (.numError ⟨"ParseUint", s, .errSyntax⟩)) := by
  have h1 : s.length = 32 → (s.take 16).length = 16 := fun hs => by simp [hs]
  have h2 : s.length = 32 → (s.drop 16).length = 16 := fun hs => by simp [hs]
  refine ⟨fun hs => ?_, fun hs hbad => ?_, fun hs hgood hbad => ?_, fun hs => ?_, fun hs hbad => ?_⟩
  · simp [traceIDFromString, hs]
  · simp [traceIDFromString, hs, parseUint_eq (h1 hs), hbad, Except.mapError]
  · simp [traceIDFromString, hs, parseUint_eq (h1 hs), parseUint_eq (h2 hs), hgood, hbad,
      Except.mapError, List.take_of_length_le hs.le]
  · simp [spanIDFromString, hs]
  · simp [spanIDFromString, hs, parseUint_eq hs, hbad, Except.mapError]

/-! ### Flags -/

theorem toNat_and_traceFlagsSampled (f : UInt8) :
    (f &&& traceFlagsSampled).toNat = f.toNat % 2 := by
  rw [UInt8.and_toNat]
  exact Nat.and_one_is_mod _

theorem and_traceFlagsSampled (f : UInt8) :
    f &&& traceFlagsSampled = 1 ∨ f &&& traceFlagsSampled = 0 := by
  have h := toNat_and_traceFlagsSampled f
  rcases Nat.mod_two_eq_zero_or_one f.toNat with h2 | h2
  · exact .inr (UInt8.toNat.inj (h.trans h2))
  · exact .inl (UInt8.toNat.inj (h.trans h2))

/-- Masking the flags to the sampled bit keeps them exactly when no reserved bit is set. -/
theorem and_traceFlagsSampled_eq_self_iff (f : UInt8) :
    f &&& traceFlagsSampled = f ↔ f.toNat < 2 := by
  have h := toNat_and_traceFlagsSampled f
  constructor
  · intro he
    have := congrArg UInt8.toNat he
    omega
  · exact fun hf => UInt8.toNat.inj (by omega)

/-- Masking the flags to the sampled bit keeps `IsSampled`. -/
theorem isSampled_and_traceFlagsSampled (sc : SpanContext) :
    { sc with traceFlags := sc.traceFlags &&& traceFlagsSampled }.isSampled = sc.isSampled := by
  rcases and_traceFlagsSampled sc.traceFlags with h | h <;>
    simp only [SpanContext.isSampled, h] <;> rfl

/-- **The flags travel as their sampled bit**: `traceFlagsToString` writes `sampled` or
nothing, and `stringToTraceFlags` reads that bit back alone. -/
theorem stringToTraceFlags_traceFlagsToString (f : UInt8) :
    stringToTraceFlags (traceFlagsToString f) = f &&& traceFlagsSampled := by
  rcases and_traceFlagsSampled f with h | h <;> simp only [traceFlagsToString, h] <;> decide

/-- `stringToTraceFlags` keeps the flags set once `sampled` has been seen. -/
theorem foldl_sampled_one (parts : List GoString) :
    parts.foldl (fun opts part =>
      if part = goStr "sampled" then opts ||| traceFlagsSampled else opts) traceFlagsSampled =
      traceFlagsSampled := by
  induction parts with
  | nil => rfl
  | cons p parts ih => by_cases hp : p = goStr "sampled" <;> simp only [List.foldl_cons, hp,
      if_true, if_false, ih, show traceFlagsSampled ||| traceFlagsSampled = traceFlagsSampled
        from rfl]

/-- **`stringToTraceFlags` reads the sampled bit and nothing else**: it is set exactly when one
of the comma-separated parts of the string is `sampled`. -/
theorem stringToTraceFlags_eq (s : GoString) :
    stringToTraceFlags s =
      if goStr "sampled" ∈ s.splitOn (goStr ",").head! then traceFlagsSampled else 0 := by
  unfold stringToTraceFlags
  induction s.splitOn (goStr ",").head! with
  | nil => rfl
  | cons p parts ih =>
    by_cases hp : p = goStr "sampled"
    · simp only [List.foldl_cons, hp, if_true, List.mem_cons, true_or,
        show (0 : UInt8) ||| traceFlagsSampled = traceFlagsSampled from rfl, foldl_sampled_one]
    · simp only [List.foldl_cons, hp, if_false, ih, List.mem_cons, Ne.symm hp, false_or]

end OtelGo
