import OtelGo.Go.Bytes
import Mathlib.Tactic.IntervalCases

/-!
# Hexadecimal Printing and Parsing

The bridge prints identifiers with `fmt.Sprintf("%.16x", v)` and reads them back with
`strconv.ParseUint(s, 16, 64)`. Both are modelled as the standard library computes them:

* `fmtHex prec u` is `fmtInteger` for the verb `x`: the digits of `u` taken from the table
  `ldigits`, least significant first until the value is used up, then zeros in front up to
  the precision;
* `parseUint s` is the digit loop of `ParseUint` for base 16 and 64 bits, with its
  classification of each byte, its `d >= base` test and both overflow checks. The
  accumulator is a natural number below `2 ^ 64`, and the wrap-around of `n *= base` and
  `n + d` is written out as `% 2 ^ 64`. On a range error `ParseUint` also returns the maximal
  value, which every caller here discards, so a failure is just the error.

The fixed-width digit string `hexFixed k u` is the specification of both: `%.16x` prints
exactly `hexFixed 16 u` (`fmtHex_eq_hexFixed`), and on a 16-byte input the parser succeeds
exactly on hex digits, with the value `hexValue s` (`parseUint_eq`).
-/

namespace OtelGo

/-! ### `Except` in simp normal form -/

section Except

variable {ε α β : Type}

@[simp] theorem Except.throw_eq_error (e : ε) : (throw e : Except ε α) = .error e := rfl

@[simp] theorem Except.pure_eq_ok (a : α) : (pure a : Except ε α) = .ok a := rfl

@[simp] theorem Except.ok_bind (a : α) (g : α → Except ε β) : (Except.ok a >>= g) = g a := rfl

@[simp] theorem Except.error_bind (e : ε) (g : α → Except ε β) :
    (Except.error e : Except ε α) >>= g = .error e := rfl

theorem Except.bind_eq_ok {x : Except ε α} {g : α → Except ε β} {b : β} :
    x >>= g = .ok b ↔ ∃ a, x = .ok a ∧ g a = .ok b := by
  cases x <;> simp

end Except

/-- A byte is a hexadecimal digit: `0-9`, `a-f` or `A-F`. -/
def isHexDigit (c : UInt8) : Bool :=
  (48 ≤ c.toNat && c.toNat ≤ 57) || (97 ≤ c.toNat && c.toNat ≤ 102) ||
    (65 ≤ c.toNat && c.toNat ≤ 70)

/-- ASCII lower case: `A-Z` are shifted to `a-z`, every other byte is kept. -/
def asciiLower (c : UInt8) : UInt8 := if 65 ≤ c.toNat ∧ c.toNat ≤ 90 then c + 32 else c

/-! ### `fmt`: the `%.16x` verb -/

/-- `fmt`'s `ldigits`, the lower-case digit table. -/
def ldigits : GoString := goStr "0123456789abcdefx"

/-- `digits[d]` for a digit value `d`. -/
def ldigit (d : Nat) : UInt8 := ldigits.getD d 0

/-- `fmtInteger`'s digit loop (`for u >= base { ... u = next }`, then the last digit), with
`fuel` bounding its turns. -/
def hexDigitsAux : Nat → Nat → GoString
  | 0, _ => []
  | fuel + 1, u => if u < 16 then [ldigit u] else hexDigitsAux fuel (u / 16) ++ [ldigit (u % 16)]

/-- The base-16 digits of `u`, most significant first, as `fmtInteger` leaves them in its
buffer: `0` has the single digit `0`. The loop turns once per digit, so `u + 1` turns are
always enough. -/
def hexDigits (u : Nat) : GoString := hexDigitsAux (u + 1) u

/-- `fmtInteger` with verb `x` and precision `prec` (`%.<prec>x`) on a nonzero precision:
the digits, preceded by zeros up to `prec` of them. -/
def fmtHex (prec u : Nat) : GoString :=
  let ds := hexDigits u
  List.replicate (prec - ds.length) (ldigit 0) ++ ds

/-- The `k` low-order base-16 digits of `u`, most significant first. -/
def hexFixed (u : Nat) : Nat → GoString
  | 0 => []
  | k + 1 => hexFixed (u / 16) k ++ [ldigit (u % 16)]

/-! ### `strconv`: `ParseUint(s, 16, 64)` -/

/-- Why `ParseUint` failed: `strconv.ErrSyntax` or `strconv.ErrRange`. -/
inductive NumErr
  | errSyntax
  | errRange
  deriving DecidableEq, Repr

/-- `*strconv.NumError`: the function, the input, and the cause. -/
structure NumError where
  func : String
  num : GoString
  err : NumErr
  deriving DecidableEq, Repr

/-- The value of a digit byte as `ParseUint`'s switch computes it (`c - '0'`,
`c - 'a' + 10`, `c - 'A' + 10`), or `none` for a byte outside `0-9`, `a-z`, `A-Z`. -/
def digitVal (c : UInt8) : Option Nat :=
  if 48 ≤ c.toNat ∧ c.toNat ≤ 57 then some (c.toNat - 48)
  else if 97 ≤ c.toNat ∧ c.toNat ≤ 122 then some (c.toNat - 97 + 10)
  else if 65 ≤ c.toNat ∧ c.toNat ≤ 90 then some (c.toNat - 65 + 10)
  else none

/-- `maxUint64/16 + 1`: a value at or above it overflows when multiplied by 16. -/
def cutoff : Nat := (2 ^ 64 - 1) / 16 + 1

/-- `uint64(1)<<64 - 1`. -/
def maxVal : Nat := 2 ^ 64 - 1

/-- The digit loop of `ParseUint` from the accumulated value `n`; `s0` is the whole input,
which the errors carry. -/
def parseUintLoop (s0 : GoString) (n : Nat) : GoString → Except NumError Nat
  | [] => .ok n
  | c :: cs =>
    match digitVal c with
    | none => .error ⟨"ParseUint", s0, .errSyntax⟩
    | some d =>
      if d ≥ 16 then .error ⟨"ParseUint", s0, .errSyntax⟩
      else if n ≥ cutoff then .error ⟨"ParseUint", s0, .errRange⟩
      else
        let n := n * 16 % 2 ^ 64
        let n1 := (n + d) % 2 ^ 64
        if n1 < n ∨ n1 > maxVal then .error ⟨"ParseUint", s0, .errRange⟩
        else parseUintLoop s0 n1 cs

/-- `strconv.ParseUint(s, 16, 64)`: the empty string is a syntax error. -/
def parseUint (s : GoString) : Except NumError UInt64 :=
  if s = [] then .error ⟨"ParseUint", s, .errSyntax⟩
  else UInt64.ofNat <$> parseUintLoop s 0 s

/-- One turn of the digit loop when nothing overflows. -/
def hexStep (n : Nat) (c : UInt8) : Nat := 16 * n + (digitVal c).getD 0

/-- The value of a string of hex digits, most significant first. -/
def hexValue (s : GoString) : Nat := s.foldl hexStep 0

/-! ### Digits -/

theorem UInt8.toNat_add_of_lt {a b : UInt8} (h : a.toNat + b.toNat < 256) :
    (a + b).toNat = a.toNat + b.toNat :=
  (BitVec.toNat_add _ _).trans (Nat.mod_eq_of_lt h)

theorem ldigit_toNat {d : Nat} (h : d < 16) :
    (ldigit d).toNat = if d < 10 then 48 + d else 87 + d := by
  interval_cases d <;> rfl

theorem asciiLower_toNat (c : UInt8) :
    (asciiLower c).toNat = if 65 ≤ c.toNat ∧ c.toNat ≤ 90 then c.toNat + 32 else c.toNat := by
  unfold asciiLower
  split_ifs with h
  · exact UInt8.toNat_add_of_lt (show c.toNat + 32 < 256 by omega)
  · rfl

/-- `ParseUint` accepts a byte as a base-16 digit exactly when it is a hex digit. -/
theorem isHexDigit_iff (c : UInt8) : isHexDigit c ↔ ∃ d, digitVal c = some d ∧ d < 16 := by
  unfold isHexDigit digitVal
  split_ifs <;> simp <;> omega

/-- The table digit of a parsed digit is the byte it was parsed from, lowered. -/
theorem ldigit_digitVal {c : UInt8} {d : Nat} (hc : digitVal c = some d) (hd : d < 16) :
    ldigit d = asciiLower c := by
  apply UInt8.toNat.inj
  rw [ldigit_toNat hd, asciiLower_toNat]
  unfold digitVal at hc
  split_ifs at hc ⊢ <;> simp only [Option.some.injEq] at hc <;> omega

theorem digitVal_ldigit {d : Nat} (hd : d < 16) : digitVal (ldigit d) = some d := by
  interval_cases d <;> rfl

theorem isHexDigit_ldigit {d : Nat} (hd : d < 16) : isHexDigit (ldigit d) :=
  (isHexDigit_iff _).2 ⟨d, digitVal_ldigit hd, hd⟩

/-! ### Printing -/

@[simp] theorem length_hexFixed (u k : Nat) : (hexFixed u k).length = k := by
  induction k generalizing u with
  | zero => rfl
  | succ k ih => simp [hexFixed, ih]

theorem hexFixed_zero (k : Nat) : hexFixed 0 k = List.replicate k (ldigit 0) := by
  induction k with
  | zero => rfl
  | succ k ih => rw [hexFixed, Nat.zero_div, ih, Nat.zero_mod, List.replicate_succ']

/-- The digit loop, padded with zeros to a width the value fits in, is the fixed-width digit
string: with enough turns, the loop's digits fill the low positions. -/
theorem replicate_append_hexDigitsAux {fuel u k : Nat} (hf : u < 16 ^ fuel) (hf₀ : 0 < fuel)
    (hk : 1 ≤ k) (hu : u < 16 ^ k) :
    List.replicate (k - (hexDigitsAux fuel u).length) (ldigit 0) ++ hexDigitsAux fuel u =
      hexFixed u k := by
  induction k generalizing u fuel with
  | zero => omega
  | succ k ih =>
    obtain ⟨fuel, rfl⟩ : ∃ f, fuel = f + 1 := ⟨fuel - 1, by omega⟩
    rw [hexDigitsAux, hexFixed]
    split_ifs with hsmall
    · rw [Nat.div_eq_of_lt hsmall, Nat.mod_eq_of_lt hsmall, hexFixed_zero]
      rfl
    · have hfuel : 0 < fuel := Nat.pos_of_ne_zero fun h => by subst h; omega
      have hk1 : 1 ≤ k := Nat.pos_of_ne_zero fun h => by subst h; omega
      have ih' := ih (Nat.div_lt_of_lt_mul (by rwa [← Nat.pow_succ'])) hfuel hk1
        (Nat.div_lt_of_lt_mul (by rwa [← Nat.pow_succ']))
      rw [← ih', List.length_append, List.length_singleton, List.append_assoc,
        Nat.add_sub_add_right]

/-- **`%.<k>x` on a value of at most `k` digits prints exactly `k` digits**, the value's
digits behind zeros. -/
theorem fmtHex_eq_hexFixed {u k : Nat} (hk : 1 ≤ k) (hu : u < 16 ^ k) :
    fmtHex k u = hexFixed u k :=
  replicate_append_hexDigitsAux (Nat.lt_of_lt_of_le (Nat.lt_pow_self (by decide) u)
    (Nat.pow_le_pow_right (by decide) (Nat.le_succ u))) (Nat.succ_pos u) hk hu

/-! ### Parsing -/

/-- **The digit loop on at most sixteen digits.** It stops with a syntax error at the first
byte that is not a hex digit and otherwise accumulates the digits; while the value fits in
the digits still to come, neither overflow check fires. -/
theorem parseUintLoop_eq (s0 : GoString) {cs : GoString} {n : Nat} (hlen : cs.length ≤ 16)
    (hn : n < 16 ^ (16 - cs.length)) :
    parseUintLoop s0 n cs = if cs.all isHexDigit then .ok (cs.foldl hexStep n)
      else .error ⟨"ParseUint", s0, .errSyntax⟩ := by
  induction cs generalizing n with
  | nil => rfl
  | cons c cs ih =>
    rw [List.length_cons] at hlen hn
    rw [parseUintLoop, List.all_cons, List.foldl_cons]
    by_cases hc : isHexDigit c
    · obtain ⟨d, hd, hd16⟩ := (isHexDigit_iff c).1 hc
      have hP : 16 ^ (16 - cs.length) = 16 ^ (16 - (cs.length + 1)) * 16 := by
        rw [← Nat.pow_succ]; congr 1; omega
      have h15 : 16 ^ (16 - (cs.length + 1)) ≤ 16 ^ 15 :=
        Nat.pow_le_pow_right (by decide) (by omega)
      have hnext : n * 16 + d < 16 ^ (16 - cs.length) := by rw [hP]; omega
      have h64 : n * 16 + d < 2 ^ 64 := by
        rw [hP] at hnext; simp only [Nat.reducePow] at h15 ⊢; omega
      have e16 : n * 16 % 2 ^ 64 = n * 16 := Nat.mod_eq_of_lt (by omega)
      simp only [hd, hc, Bool.true_and, hexStep, Option.getD_some, Nat.mul_comm 16 n]
      rw [if_neg (by omega), if_neg (by simp only [cutoff, Nat.reducePow] at h15 ⊢; omega),
        e16, Nat.mod_eq_of_lt h64, if_neg (by simp only [maxVal]; omega)]
      exact ih (by omega) hnext
    · simp only [hc, Bool.false_and, if_false]
      cases hd : digitVal c with
      | none => rfl
      | some d =>
        have : 16 ≤ d := Nat.le_of_not_lt fun h => hc ((isHexDigit_iff c).2 ⟨d, hd, h⟩)
        exact if_pos this

/-- **`ParseUint(s, 16, 64)` on sixteen bytes** succeeds exactly when all of them are hex
digits, with their value. -/
theorem parseUint_eq {s : GoString} (hs : s.length = 16) :
    parseUint s = if s.all isHexDigit then .ok (UInt64.ofNat (hexValue s))
      else .error ⟨"ParseUint", s, .errSyntax⟩ := by
  have hne : s ≠ [] := by rintro rfl; simp at hs
  rw [parseUint, if_neg hne, parseUintLoop_eq s (by omega) (by rw [hs]; decide)]
  split_ifs <;> rfl

/-! ### Printing and parsing agree -/

theorem hexValue_append_singleton (l : GoString) (c : UInt8) :
    hexValue (l ++ [c]) = 16 * hexValue l + (digitVal c).getD 0 :=
  List.foldl_append ..

theorem hexValue_hexFixed (u k : Nat) : hexValue (hexFixed u k) = u % 16 ^ k := by
  induction k generalizing u with
  | zero => simp [hexFixed, hexValue, Nat.mod_one]
  | succ k ih =>
    rw [hexFixed, hexValue_append_singleton, ih, digitVal_ldigit (Nat.mod_lt _ (by decide)),
      Option.getD_some, Nat.pow_succ, Nat.mul_comm (16 ^ k), Nat.mod_mul, Nat.add_comm]

theorem all_isHexDigit_hexFixed (u k : Nat) : (hexFixed u k).all isHexDigit := by
  induction k generalizing u with
  | zero => rfl
  | succ k ih =>
    simp [hexFixed, ih, isHexDigit_ldigit (Nat.mod_lt u (show 0 < 16 by decide))]

theorem hexValue_lt {s : GoString} (hs : s.all isHexDigit) : hexValue s < 16 ^ s.length := by
  induction s using List.reverseRecOn with
  | nil => decide
  | append_singleton l c ih =>
    simp only [List.all_append, List.all_cons, List.all_nil, Bool.and_true,
      Bool.and_eq_true] at hs
    obtain ⟨d, hd, hd16⟩ := (isHexDigit_iff c).1 hs.2
    rw [hexValue_append_singleton, hd, Option.getD_some, List.length_append,
      List.length_singleton, Nat.pow_succ]
    have := ih hs.1
    omega

/-- Printing the value of a hex-digit string at its own width gives the string back in lower
case. -/
theorem hexFixed_hexValue {s : GoString} (hs : s.all isHexDigit) :
    hexFixed (hexValue s) s.length = s.map asciiLower := by
  induction s using List.reverseRecOn with
  | nil => rfl
  | append_singleton l c ih =>
    simp only [List.all_append, List.all_cons, List.all_nil, Bool.and_true,
      Bool.and_eq_true] at hs
    obtain ⟨d, hd, hd16⟩ := (isHexDigit_iff c).1 hs.2
    have hdiv : (16 * hexValue l + d) / 16 = hexValue l := by omega
    have hmod : (16 * hexValue l + d) % 16 = d := by omega
    rw [hexValue_append_singleton, hd, Option.getD_some, List.length_append,
      List.length_singleton, hexFixed, hdiv, hmod, ih hs.1, ldigit_digitVal hd hd16,
      List.map_append, List.map_singleton]

end OtelGo
