import Mathlib.Data.List.Basic
import Mathlib.Data.List.AList
import Mathlib.Algebra.Group.Nat.Basic

/-!
# Go Byte Slices, Strings and `encoding/binary`

The Go code reads its inputs through index and slice expressions, each of which panics when
it is out of range. A slice is modelled as the list of its elements, and the three access
forms return `Option`, with `none` standing for the run-time panic:

* `sliceFrom b lo` is `b[lo:]`, `slice b lo hi` is `b[lo:hi]` and `index b i` is `b[i]`.

Go checks a slice expression against the capacity of the underlying array, which is never
smaller than its length. Checking against the length, as here, panics in more places, so a
proof that nothing panics in this model carries over to the Go program.

`hasPrefix` and `trimPrefix` are `strings.HasPrefix` and `strings.TrimPrefix`.

A Go map is an association list with distinct keys (`AList`). Go leaves the order of a
`range` over a map unspecified: a `MapOrder` is any way of listing a map's entries, each once,
and the results that use one hold for every `MapOrder`.

`BigEndian.uint64` and `BigEndian.putUint64` are `binary.BigEndian.Uint64` and
`binary.BigEndian.PutUint64`: eight bytes, most significant first. Both are stated through
`beNat`, the big-endian value of a byte list, and `bytesBE`, its fixed-width inverse
(`beNat_bytesBE`).
-/

namespace OtelGo

/-- A Go string is the sequence of its bytes: `len(s)` counts bytes, `s[i:j]` slices bytes. -/
abbrev GoString := List UInt8

/-- The bytes of a Go string literal (every literal modelled here is ASCII). -/
def goStr (s : String) : GoString := s.toList.map Char.toUInt8

/-! ### Checked access -/

/-- `b[lo:]`; `none` is the slice-bounds panic. -/
def sliceFrom (b : List UInt8) (lo : Nat) : Option (List UInt8) :=
  if lo ≤ b.length then some (b.drop lo) else none

/-- `b[lo:hi]`; `none` is the slice-bounds panic. -/
def slice (b : List UInt8) (lo hi : Nat) : Option (List UInt8) :=
  if lo ≤ hi ∧ hi ≤ b.length then some ((b.take hi).drop lo) else none

/-- `b[i]`; `none` is the index-out-of-range panic. -/
def index (b : List UInt8) (i : Nat) : Option UInt8 := b[i]?

theorem sliceFrom_of_le {b : List UInt8} {lo : Nat} (h : lo ≤ b.length) :
    sliceFrom b lo = some (b.drop lo) := if_pos h

theorem slice_of_le {b : List UInt8} {lo hi : Nat} (h₁ : lo ≤ hi) (h₂ : hi ≤ b.length) :
    slice b lo hi = some ((b.take hi).drop lo) := if_pos ⟨h₁, h₂⟩

theorem index_of_lt {b : List UInt8} {i : Nat} (h : i < b.length) :
    index b i = some b[i] := List.getElem?_eq_getElem h

/-! ### Prefixes -/

/-- `strings.HasPrefix(s, prefix)`. -/
def hasPrefix (s pre : GoString) : Bool := pre.isPrefixOf s

/-- `strings.TrimPrefix(s, prefix)`: `s` without the prefix, or `s` itself when it lacks it. -/
def trimPrefix (s pre : GoString) : GoString := if hasPrefix s pre then s.drop pre.length else s

@[simp] theorem hasPrefix_append (pre s : GoString) : hasPrefix (pre ++ s) pre := by
  simp [hasPrefix]

@[simp] theorem trimPrefix_append (pre s : GoString) : trimPrefix (pre ++ s) pre = s := by
  simp [trimPrefix]

/-! ### Maps -/

/-- An order in which `for k, v := range m` may present the entries of maps with values in
`β`: every entry exactly once. -/
structure MapOrder (β : Type) where
  range : (AList fun _ : GoString => β) → List (Σ _ : GoString, β)
  perm : ∀ m, (range m).Perm m.entries

/-- The order the map keeps its entries in is one `range` may use. -/
def MapOrder.entries (β : Type) : MapOrder β := ⟨AList.entries, fun _ => List.Perm.refl _⟩

/-! ### Loops that may stop -/

/-- `mapM` in `Option` fails exactly when `f` fails on some element. -/
theorem mapM_option_eq_none {α β : Type} (f : α → Option β) (l : List α) :
    l.mapM f = none ↔ ∃ a ∈ l, f a = none := by
  induction l with
  | nil => simp only [List.mapM_nil, Option.pure_def, List.not_mem_nil, false_and, exists_false,
      iff_false]; exact Option.some_ne_none _
  | cons a l ih =>
    simp only [List.mapM_cons, List.mem_cons, exists_eq_or_imp]
    cases h : f a with
    | none => simp only [Option.bind_eq_bind, Option.none_bind, true_or]
    | some b =>
      rw [← ih]
      cases l.mapM f <;> simp

/-! ### Big-endian numbers -/

/-- The number a byte list denotes, most significant byte first. -/
def beNat (b : List UInt8) : Nat := b.foldl (fun n x => 256 * n + x.toNat) 0

/-- The `k` low-order bytes of `n`, most significant first. -/
def bytesBE (n : Nat) : Nat → List UInt8
  | 0 => []
  | k + 1 => bytesBE (n / 256) k ++ [UInt8.ofNat n]

@[simp] theorem beNat_nil : beNat [] = 0 := rfl

theorem beNat_append_singleton (l : List UInt8) (x : UInt8) :
    beNat (l ++ [x]) = 256 * beNat l + x.toNat := List.foldl_append ..

@[simp] theorem length_bytesBE (n k : Nat) : (bytesBE n k).length = k := by
  induction k generalizing n with
  | zero => rfl
  | succ k ih => simp [bytesBE, ih]

/-- **Decoding inverts encoding** at every width, up to the bytes that do not fit. -/
theorem beNat_bytesBE (n k : Nat) : beNat (bytesBE n k) = n % 256 ^ k := by
  induction k generalizing n with
  | zero => simp [bytesBE, Nat.mod_one]
  | succ k ih =>
      rw [bytesBE, beNat_append_singleton, ih, Nat.pow_succ, Nat.mul_comm (256 ^ k),
        Nat.mod_mul, Nat.add_comm]
      rfl

namespace BigEndian

/-- `binary.BigEndian.Uint64(b)`: the bounds check `_ = b[7]`, then the first eight bytes. -/
def uint64 (b : List UInt8) : Option UInt64 := do
  let _ ← index b 7
  pure (UInt64.ofNat (beNat (b.take 8)))

/-- `binary.BigEndian.PutUint64(b, v)`: the eight bytes it writes. -/
def putUint64 (v : UInt64) : List UInt8 := bytesBE v.toNat 8

@[simp] theorem length_putUint64 (v : UInt64) : (putUint64 v).length = 8 :=
  length_bytesBE _ _

theorem beNat_putUint64 (v : UInt64) : beNat (putUint64 v) = v.toNat := by
  rw [putUint64, beNat_bytesBE]
  exact Nat.mod_eq_of_lt (UInt64.toNat_lt_size v)

theorem ofNat_beNat_putUint64 (v : UInt64) : UInt64.ofNat (beNat (putUint64 v)) = v :=
  UInt64.toNat.inj <| by rw [beNat_putUint64, UInt64.toNat_ofNat_of_lt (UInt64.toNat_lt_size v)]

theorem uint64_of_le {b : List UInt8} (h : 8 ≤ b.length) :
    uint64 b = some (UInt64.ofNat (beNat (b.take 8))) := by
  simp [uint64, index_of_lt (show 7 < b.length by omega)]

end BigEndian

end OtelGo
