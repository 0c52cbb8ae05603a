import OtelGo.Go.Bytes

/-!
# Attribute Values

`core.Value` is a tagged union: a type tag, and the value in the field of the 64-bit type that
holds it. The constructors on `core.Key` widen 32-bit integers and floats to that field and
keep the narrower type in the tag, and `Emit` renders a value as text. The package itself is
not among the sources; its test (`key_test.go`) is, and fixes what each constructor stores and
what `Emit` prints. The definitions follow the specification and say so. Signed integers are
bit vectors, so the widening of an `int32` is a sign extension; floats are carried as they
are, and their text is left to a formatting function. The host is taken to be 64-bit.
-/

namespace OtelGo

/-- Modelled from the spec: `core.ValueType`. -/
inductive ValueType
  | invalid
  | bool
  | int32
  | int64
  | uint32
  | uint64
  | float32
  | float64
  | string
  | bytes
  deriving DecidableEq, Repr

/-- Modelled from the spec: `core.Value`, a type tag and the 64-bit field that stores the
value; the other fields keep their zero values. -/
structure Value where
  type : ValueType := .invalid
  bool : Bool := false
  int64 : BitVec 64 := 0
  uint64 : UInt64 := 0
  float64 : Float := 0
  string : GoString := []
  bytes : List UInt8 := []

/-- Modelled from the spec: `core.Key`, by its name. -/
structure Key where
  name : GoString

/-- Modelled from the spec: `core.KeyValue`. -/
structure KeyValue where
  key : Key
  value : Value

namespace Key

/-- Modelled from the spec: `Key.Bool`. -/
def bool (k : Key) (v : Bool) : KeyValue := ⟨k, { type := .bool, bool := v }⟩

/-- Modelled from the spec: `Key.Int64`. -/
def int64 (k : Key) (v : BitVec 64) : KeyValue := ⟨k, { type := .int64, int64 := v }⟩

/-- Modelled from the spec: `Key.Uint64`. -/
def uint64 (k : Key) (v : UInt64) : KeyValue := ⟨k, { type := .uint64, uint64 := v }⟩

/-- Modelled from the spec: `Key.Float64`. -/
def float64 (k : Key) (v : Float) : KeyValue := ⟨k, { type := .float64, float64 := v }⟩

/-- Modelled from the spec: `Key.Int32`, stored sign-extended in the 64-bit field. -/
def int32 (k : Key) (v : BitVec 32) : KeyValue :=
  ⟨k, { type := .int32, int64 := v.signExtend 64 }⟩

/-- Modelled from the spec: `Key.Uint32`, stored in the 64-bit field. -/
def uint32 (k : Key) (v : UInt32) : KeyValue := ⟨k, { type := .uint32, uint64 := v.toUInt64 }⟩

/-- Modelled from the spec: `Key.Float32`, given the `float32` by its exact `float64`
value. -/
def float32 (k : Key) (v : Float) : KeyValue := ⟨k, { type := .float32, float64 := v }⟩

/-- Modelled from the spec: `Key.Int` on a 64-bit host. -/
def int (k : Key) (v : BitVec 64) : KeyValue := ⟨k, { type := .int64, int64 := v }⟩

/-- Modelled from the spec: `Key.Uint` on a 64-bit host. -/
def uint (k : Key) (v : UInt64) : KeyValue := ⟨k, { type := .uint64, uint64 := v }⟩

/-- Modelled from the spec: `Key.String`. -/
def string (k : Key) (v : GoString) : KeyValue := ⟨k, { type := .string, string := v }⟩

/-- Modelled from the spec: `Key.Bytes`. -/
def bytes (k : Key) (v : List UInt8) : KeyValue := ⟨k, { type := .bytes, bytes := v }⟩

end Key

/-- Modelled from the spec: `Key.Defined`, a non-empty name. -/
def Key.defined (k : Key) : Bool := !k.name.isEmpty

/-! ### Rendering -/

/-- `strconv.FormatUint(n, 10)`: the decimal digits, without leading zeros. -/
def formatUint (n : Nat) : GoString := (Nat.toDigits 10 n).map Char.toUInt8

/-- `strconv.FormatInt(i, 10)`: the digits of a negative number after a minus sign. -/
def formatInt (i : Int) : GoString :=
  if i < 0 then goStr "-" ++ formatUint i.natAbs else formatUint i.natAbs

/-- Modelled from the spec: `Value.Emit`, the text of a value: `true` or `false`, integers in
decimal, floats by `formatFloat` (the shortest decimal that reads back as the same float, which
`strconv` computes), strings as they are, and bytes read as text. The spec gives no text for a
value without a type. -/
def Value.emit (formatFloat : Float → GoString) (v : Value) : Option GoString :=
  match v.type with
  | .invalid => none
  | .bool => some (if v.bool then goStr "true" else goStr "false")
  | .int32 | .int64 => some (formatInt v.int64.toInt)
  | .uint32 | .uint64 => some (formatUint v.uint64.toNat)
  | .float32 | .float64 => some (formatFloat v.float64)
  | .string => some v.string
  | .bytes => some v.bytes

example : (Key.int32 ⟨[]⟩ 42).value.emit (fun _ => []) = some (goStr "42") := by decide

end OtelGo
