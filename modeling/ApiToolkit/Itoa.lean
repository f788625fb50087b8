import Mathlib.Data.Nat.Digits

/-!
# `itoa`

The metrics middleware (`src/middleware/metrics/metrics.go`), the Prometheus recorder of the
metrics package and the rate limiter each carry the same `itoa`. It writes the digits of `n` from the
right into `var a [12]byte`, then a `-` for a negative `n`, and returns `string(a[i:])`. Its loop is
`digitLoop`, and the function is `itoaBuf 12`.

Go's `int` is 64 bits wide (`BitVec 64`). `strconv.Itoa` prints it in decimal, as `toString` of
its value does. Twelve bytes hold the decimal text of every `int` of at most twelve characters, and
no other: on a longer one, `i--` reaches `-1` and `a[i]` panics. And `-n` wraps at `math.MinInt64`,
so that the loop sees a negative number and writes nothing, and `itoa` returns `"-"`
(`itoaBuf_eq`).
-/

namespace ApiToolkit

/-- The loop `for n > 0 { i--; a[i] = byte('0' + n%10); n /= 10 }` from the index `i`: the buffer
and the index it leaves; none where `i--` reaches `-1` and `a[i]` panics. -/
def digitLoop (n i : Nat) (a : List UInt8) : Option (List UInt8 × Nat) :=
  if n = 0 then some (a, i)
  else
    match i with
    | 0 => none
    | i + 1 => digitLoop (n / 10) i (a.set i (UInt8.ofNat (48 + n % 10)))

/-- A byte as the character it encodes in a Go string of ASCII text. -/
def byteChar (b : UInt8) : Char := Char.ofNat b.toNat

/-- `string(b)` for a byte slice of ASCII text. -/
def byteString (bs : List UInt8) : String := String.mk (bs.map byteChar)

/-- `itoa` with the buffer `var a [size]byte`. -/
def itoaBuf (size : Nat) (n : BitVec 64) : Option String :=
  if n = 0 then some "0"
  else
    let neg := n.toInt < 0
    let m := if neg then -n else n
    match digitLoop m.toInt.toNat size (List.replicate size 0) with
    | none => none
    | some (a, i) =>
      if neg then
        match i with
        | 0 => none
        | i + 1 => some (byteString ((a.set i 45).drop i))
      else some (byteString (a.drop i))

/-- `strconv.Itoa`: the decimal text of the value, with a `-` before a negative one. -/
def strconvItoa (n : BitVec 64) : String := toString n.toInt

namespace Metrics

/-- `itoa` of `src/middleware/metrics/metrics.go`. -/
def itoa (n : BitVec 64) : Option String := itoaBuf 12 n

end Metrics

namespace Metrics.Prometheus

/-- `itoa` of the Prometheus recorder of package `metrics`. -/
def itoa (n : BitVec 64) : Option String := itoaBuf 12 n

end Metrics.Prometheus

namespace RateLimit

/-- `itoa` of package `ratelimit`, which prints `Retry-After`. -/
def itoa (n : BitVec 64) : Option String := itoaBuf 12 n

end RateLimit

/-! ## Decimal digits -/

/-- The digits already built stay after the ones still to come. -/
theorem toDigitsCore_append (fuel n : Nat) (ds : List Char) :
    Nat.toDigitsCore 10 fuel n ds = Nat.toDigitsCore 10 fuel n [] ++ ds := by
  induction fuel generalizing n ds with
  | zero => rfl
  | succ fuel ih =>
    simp only [Nat.toDigitsCore]
    split_ifs
    · rfl
    · rw [ih _ (_ :: ds), ih _ [_]]
      simp

/-- Any fuel above the number gives the same digits. -/
theorem toDigitsCore_fuel : ∀ (f g n : Nat) (ds : List Char), n < f → n < g →
    Nat.toDigitsCore 10 f n ds = Nat.toDigitsCore 10 g n ds
  | 0, _, _, _, hf, _ => absurd hf (Nat.not_lt_zero _)
  | _ + 1, 0, _, _, _, hg => absurd hg (Nat.not_lt_zero _)
  | f + 1, g + 1, n, ds, hf, hg => by
    simp only [Nat.toDigitsCore]
    split_ifs
    · rfl
    · exact toDigitsCore_fuel f g _ _ (by omega) (by omega)

/-- The decimal digits of `n`: those of `n / 10`, unless `n` is a single digit, then `n % 10`. -/
theorem toDigits_ten (n : Nat) :
    Nat.toDigits 10 n = (if n < 10 then [] else Nat.toDigits 10 (n / 10)) ++ [Nat.digitChar (n % 10)] := by
  unfold Nat.toDigits
  rw [Nat.toDigitsCore]
  split_ifs with h1 h2 h2
  · rfl
  · omega
  · omega
  · rw [toDigitsCore_append, toDigitsCore_fuel n (n / 10 + 1) _ _ (by omega) (by omega)]

/-- The decimal text of a number has at least one digit. -/
theorem toDigits_ne_nil (n : Nat) : Nat.toDigits 10 n ≠ [] := by
  rw [toDigits_ten]
  simp

/-- The byte `'0' + d` of a digit `d` is the character `Nat.digitChar d`. -/
theorem byteChar_digit : ∀ d < 10, byteChar (UInt8.ofNat (48 + d)) = Nat.digitChar d := by
  decide

/-- The byte `'-'`. -/
theorem byteChar_minus : byteChar 45 = '-' := rfl

/-- Writing the byte at `i` puts it first in the buffer from `i` on. -/
theorem drop_set_self {a : List UInt8} {i : Nat} (x : UInt8) (h : i < a.length) :
    (a.set i x).drop i = x :: a.drop (i + 1) := by
  rw [List.drop_set, if_neg (Nat.lt_irrefl i), Nat.sub_self, List.drop_eq_getElem_cons h]
  rfl

/-! ## The digit loop -/

/-- With nothing left, the loop stops at once. -/
@[simp] theorem digitLoop_zero (i : Nat) (a : List UInt8) : digitLoop 0 i a = some (a, i) := by
  cases i <;> rfl

/-- A positive number whose digits fit before the index: the loop writes them just before it, and
leaves the index at the first of them. -/
theorem digitLoop_some : ∀ (i m : Nat) (a : List UInt8), 0 < m → i ≤ a.length →
    (Nat.toDigits 10 m).length ≤ i →
    ∃ a', digitLoop m i a = some (a', i - (Nat.toDigits 10 m).length) ∧ a'.length = a.length ∧
      (a'.drop (i - (Nat.toDigits 10 m).length)).map byteChar =
        Nat.toDigits 10 m ++ (a.drop i).map byteChar
  | 0, m, _, _, _, hlen => absurd hlen (by simpa using toDigits_ne_nil m)
  | i + 1, m, a, hm, hi, hlen => by
    have hset := drop_set_self (UInt8.ofNat (48 + m % 10)) (by omega : i < a.length)
    have hd := byteChar_digit (m % 10) (Nat.mod_lt _ (by omega))
    have hstep : digitLoop m (i + 1) a = digitLoop (m / 10) i (a.set i (UInt8.ofNat (48 + m % 10))) := by
      rw [digitLoop, if_neg (by omega)]
    rw [hstep, toDigits_ten m]
    rw [toDigits_ten m] at hlen
    by_cases hsmall : m < 10
    · -- one digit: the loop stops after writing it
      have h0 : m / 10 = 0 := Nat.div_eq_of_lt hsmall
      simp only [if_pos hsmall, List.nil_append, List.length_singleton, Nat.add_sub_cancel, h0]
      refine ⟨a.set i (UInt8.ofNat (48 + m % 10)), by rw [digitLoop_zero], by simp, ?_⟩
      rw [hset, List.map_cons, hd]
      rfl
    · -- more digits: those of `m / 10` go before this one
      simp only [if_neg hsmall, List.length_append, List.length_singleton] at hlen ⊢
      obtain ⟨a', h', hl', hd'⟩ := digitLoop_some i (m / 10) (a.set i (UInt8.ofNat (48 + m % 10)))
        (by omega) (by simp; omega) (by omega)
      have hidx : i + 1 - ((Nat.toDigits 10 (m / 10)).length + 1) = i - (Nat.toDigits 10 (m / 10)).length := by
        omega
      refine ⟨a', by rw [h', hidx], by simpa using hl', ?_⟩
      rw [hidx, hd', hset, List.map_cons, hd, List.append_assoc]
      rfl

/-- A positive number with more digits than the index: the loop panics. -/
theorem digitLoop_none : ∀ (i m : Nat) (a : List UInt8), 0 < m → i < (Nat.toDigits 10 m).length →
    digitLoop m i a = none
  | 0, m, _, hm, _ => by rw [digitLoop, if_neg (by omega)]
  | i + 1, m, a, hm, hlen => by
    rw [digitLoop, if_neg (by omega)]
    rw [toDigits_ten m] at hlen
    by_cases hsmall : m < 10
    · simp [hsmall] at hlen
    · simp only [if_neg hsmall, List.length_append, List.length_singleton] at hlen
      exact digitLoop_none i (m / 10) _ (by omega) (by omega)

/-! ## `itoa` against `strconv.Itoa` -/

/-- The text of `strconv.Itoa`: a `-` for a negative value, then the digits of its absolute value. -/
theorem strconvItoa_toList (n : BitVec 64) :
    (strconvItoa n).toList = (if n.toInt < 0 then ['-'] else []) ++ Nat.toDigits 10 n.toInt.natAbs := by
  unfold strconvItoa
  cases n.toInt with
  | ofNat k => rfl
  | negSucc k => rw [if_pos (Int.negSucc_lt_zero k)]; rfl

/-- The loop over a positive number from the end of an empty buffer that holds its digits: the
bytes from the index on are those digits. -/
theorem digitLoop_buffer {size k : Nat} (hk : 0 < k) (hlen : (Nat.toDigits 10 k).length ≤ size) :
    ∃ a, digitLoop k size (List.replicate size 0) = some (a, size - (Nat.toDigits 10 k).length) ∧
      a.length = size ∧ (a.drop (size - (Nat.toDigits 10 k).length)).map byteChar = Nat.toDigits 10 k := by
  obtain ⟨a, h, hl, hd⟩ := digitLoop_some size k (List.replicate size 0) hk (by simp) hlen
  exact ⟨a, h, by simpa using hl, by simpa using hd⟩

/-- A 64-bit `int` is below `2^63`. -/
theorem toInt_lt_two_pow (n : BitVec 64) : n.toInt < 2 ^ 63 := by
  rw [BitVec.toInt_eq_toNat_cond]
  have := n.isLt
  split <;> omega

/-- The length of `strconv.Itoa`'s text: the sign, then the digits. -/
theorem strconvItoa_length (n : BitVec 64) :
    (strconvItoa n).length = (if n.toInt < 0 then 1 else 0) + (Nat.toDigits 10 n.toInt.natAbs).length := by
  rw [String.length, ← String.toList, strconvItoa_toList]
  split_ifs <;> simp [Nat.add_comm]

/-- At `math.MinInt64` the negation wraps to itself, the loop writes nothing, and only the sign is
left. -/
theorem itoaBuf_intMin {size : Nat} (hsize : 0 < size) : itoaBuf size (BitVec.intMin 64) = some "-" := by
  obtain ⟨j, rfl⟩ : ∃ j, size = j + 1 := ⟨size - 1, by omega⟩
  have hneg : (BitVec.intMin 64).toInt < 0 := by decide
  simp only [itoaBuf, if_neg (by decide : BitVec.intMin 64 ≠ 0), if_pos hneg, BitVec.neg_intMin, if_true]
  rw [show (BitVec.intMin 64).toInt.toNat = 0 by omega, digitLoop_zero]
  simp only [byteString, drop_set_self 45 (by simp : j < (List.replicate (j + 1) (0 : UInt8)).length),
    List.drop_replicate, Nat.sub_self, List.replicate_zero, List.map_cons, List.map_nil]
  rfl

/-- A value that is not negative: its digits when they fit in the buffer, and a panic otherwise;
`0` is returned before the buffer is used. -/
theorem itoaBuf_of_nonneg {size : Nat} (hsize : 0 < size) {n : BitVec 64} (hn : 0 ≤ n.toInt) :
    itoaBuf size n = if (strconvItoa n).length ≤ size then some (strconvItoa n) else none := by
  have hlen := strconvItoa_length n
  rw [if_neg (by omega)] at hlen
  by_cases h0 : n = 0
  · subst h0
    have h1 : strconvItoa 0 = "0" := by decide
    rw [h1, if_pos (show "0".length ≤ size from hsize)]
    rfl
  have hk : 0 < n.toInt.natAbs := by
    rw [Int.natAbs_pos]
    exact fun h => h0 (BitVec.toInt_inj.1 (by simpa using h))
  have hm : n.toInt.toNat = n.toInt.natAbs := by omega
  simp only [itoaBuf, if_neg h0, if_neg (show ¬n.toInt < 0 by omega), if_false, hm]
  by_cases hfit : (Nat.toDigits 10 n.toInt.natAbs).length ≤ size
  · obtain ⟨a, h, -, hd⟩ := digitLoop_buffer hk hfit
    rw [h, if_pos (by omega)]
    show some (byteString (List.drop _ a)) = _
    congr 1
    apply String.ext
    show _ = (strconvItoa n).toList
    rw [strconvItoa_toList, if_neg (by omega), byteString, hd]
    rfl
  · rw [digitLoop_none size _ _ hk (by omega), if_neg (by omega)]

/-- A negative value other than `math.MinInt64`: the digits of `-n` and the sign before them when
they fit in the buffer, and a panic otherwise. -/
theorem itoaBuf_of_neg {size : Nat} {n : BitVec 64} (hneg : n.toInt < 0) (hmin : n ≠ BitVec.intMin 64) :
    itoaBuf size n = if (strconvItoa n).length ≤ size then some (strconvItoa n) else none := by
  have hlen := strconvItoa_length n
  rw [if_pos hneg] at hlen
  have hk : 0 < n.toInt.natAbs := by omega
  have hm : (-n).toInt.toNat = n.toInt.natAbs := by
    rw [BitVec.toInt_neg_of_ne_intMin hmin]
    omega
  simp only [itoaBuf, if_neg (show n ≠ 0 by rintro rfl; simp at hneg), if_pos hneg, if_true, hm]
  by_cases hfit : (Nat.toDigits 10 n.toInt.natAbs).length < size
  · obtain ⟨a, h, hl, hd⟩ := digitLoop_buffer hk hfit.le
    have hidx : size - (Nat.toDigits 10 n.toInt.natAbs).length =
        (size - 1 - (Nat.toDigits 10 n.toInt.natAbs).length) + 1 := by omega
    rw [h, hidx, if_pos (by omega)]
    show some (byteString ((a.set _ 45).drop _)) = _
    rw [drop_set_self 45 (by omega), ← hidx]
    congr 1
    apply String.ext
    show _ = (strconvItoa n).toList
    rw [strconvItoa_toList, if_pos hneg, byteString, List.map_cons, hd, byteChar_minus]
    rfl
  · rw [if_neg (by omega)]
    by_cases hfit' : (Nat.toDigits 10 n.toInt.natAbs).length = size
    · obtain ⟨a, h, -, -⟩ := digitLoop_buffer hk hfit'.le
      rw [h, hfit', Nat.sub_self]
    · rw [digitLoop_none size _ _ hk (by omega)]

/-- `itoa` with a buffer of `size > 0` bytes returns the text of `strconv.Itoa` when it fits in the
buffer, and panics when it does not; except at `math.MinInt64`, whose negation wraps to itself, where
it returns `"-"`. -/
theorem itoaBuf_eq (size : Nat) (hsize : 0 < size) (n : BitVec 64) :
    itoaBuf size n =
      if n = BitVec.intMin 64 then some "-"
      else if (strconvItoa n).length ≤ size then some (strconvItoa n) else none := by
  by_cases hmin : n = BitVec.intMin 64
  · rw [if_pos hmin, hmin, itoaBuf_intMin hsize]
  rw [if_neg hmin]
  by_cases hneg : n.toInt < 0
  · exact itoaBuf_of_neg hneg hmin
  · exact itoaBuf_of_nonneg hsize (by omega)

/-- The buffer of the source at `-1000`, a value that fits. -/
theorem itoaBuf_eq_twelve :
    0 < 12 ∧ itoaBuf 12 (-1000) =
      if (-1000 : BitVec 64) = BitVec.intMin 64 then some "-"
      else if (strconvItoa (-1000)).length ≤ 12 then some (strconvItoa (-1000)) else none :=
  ⟨by decide, itoaBuf_eq 12 (by decide) (-1000)⟩

/-- The three copies of `itoa` panic on `10^12`, whose thirteen digits do not fit in twelve bytes,
and return `"-"` for `math.MinInt64`, where `strconv.Itoa` prints both numbers. -/
theorem itoa_not_strconvItoa :
    strconvItoa 1000000000000 = "1000000000000" ∧
      Metrics.itoa 1000000000000 = none ∧ Metrics.Prometheus.itoa 1000000000000 = none ∧
      RateLimit.itoa 1000000000000 = none ∧
      strconvItoa (BitVec.intMin 64) = "-9223372036854775808" ∧
      Metrics.itoa (BitVec.intMin 64) = some "-" ∧ Metrics.Prometheus.itoa (BitVec.intMin 64) = some "-" ∧
      RateLimit.itoa (BitVec.intMin 64) = some "-" := by
  decide

end ApiToolkit
