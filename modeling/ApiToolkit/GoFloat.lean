import Mathlib.Data.Int.Log
import Mathlib.Data.Rat.Floor
import Mathlib.Tactic.Linarith
import Mathlib.Tactic.NormNum

/-!
# Go's float64 arithmetic

The float64 operations that the sources apply to integers: the conversion `float64(n)`, a quotient
and a sum, each rounded to the nearest float64 with ties to even (IEEE 754 binary64), and the
conversion `int(f)`, which discards the fraction. A float64 is the rational it denotes, and the
model has no infinities: the values it is used on are far below `2^1024`.

In the binade `[2^e, 2^(e+1))` the float64 values are the multiples of `ulp x = 2^(e-52)`, and
below `2^-1022` the multiples of `2^-1074`. Rounding stays between the grid points around its
argument (`roundFloat64_mem_grid`), so an integer below `2^53` is its own float64
(`roundFloat64_intCast`), and it moves its argument by at most half the spacing
(`abs_roundFloat64_sub_le`).

`time.Duration.Seconds` is `float64(sec) + float64(nsec)/1e9`. For a positive duration the
truncation `int(d.Seconds())` is the whole seconds or one more, and the whole seconds below `2^24`
seconds, where the spacing of the sum is finer than the nanoseconds that complete the second
(`goInt_Seconds`).
-/

namespace ApiToolkit

/-- The integer nearest to `q`, ties to the even one. -/
def roundHalfEven (q : ℚ) : ℤ :=
  if q - ⌊q⌋ < 1 / 2 then ⌊q⌋
  else if 1 / 2 < q - ⌊q⌋ then ⌊q⌋ + 1
  else if ⌊q⌋ % 2 = 0 then ⌊q⌋ else ⌊q⌋ + 1

/-- The spacing of the float64 values around a positive `x`: `2^(e-52)` in the binade
`[2^e, 2^(e+1))`, and `2^-1074` among the subnormals below `2^-1022`. -/
def ulp (x : ℚ) : ℚ := 2 ^ (max (Int.log 2 x) (-1022) - 52)

/-- The float64 nearest to `x`, ties to even. -/
def roundFloat64 (x : ℚ) : ℚ :=
  if x < 0 then -(roundHalfEven (-x / ulp (-x)) * ulp (-x)) else roundHalfEven (x / ulp x) * ulp x

/-- `int(f)` of a float64 in the range of `int`: the fraction discarded. -/
def goInt (f : ℚ) : ℤ := if 0 ≤ f then ⌊f⌋ else ⌈f⌉

/-- `time.Duration.Seconds`: `float64(sec) + float64(nsec)/1e9`, for `sec := d / Second` and
`nsec := d % Second`, each operation rounded to float64. -/
def Seconds (d : ℤ) : ℚ :=
  roundFloat64 (roundFloat64 (d.tdiv 1000000000) + roundFloat64 (roundFloat64 (d.tmod 1000000000) / 1000000000))

/-! ## Rounding to an integer -/

theorem le_roundHalfEven {q : ℚ} {m : ℤ} (h : (m : ℚ) ≤ q) : m ≤ roundHalfEven q := by
  have := Int.le_floor.2 h
  unfold roundHalfEven
  split_ifs <;> omega

theorem roundHalfEven_le {q : ℚ} {M : ℤ} (h : q ≤ M) : roundHalfEven q ≤ M := by
  have hf : ⌊q⌋ ≤ M := Int.floor_le_floor h |>.trans (Int.floor_intCast M).le
  -- rounding up happens only off the integers, below `M`
  have hup : 1 / 2 ≤ q - ⌊q⌋ → ⌊q⌋ + 1 ≤ M := fun h2 => by
    have : (⌊q⌋ : ℚ) < M := by linarith
    exact_mod_cast this
  unfold roundHalfEven
  split_ifs with h1 h2 <;> first | exact hf | exact hup (by linarith)

theorem abs_roundHalfEven_sub_le (q : ℚ) : |(roundHalfEven q : ℚ) - q| ≤ 1 / 2 := by
  have h0 := Int.floor_le q
  have h1 := Int.lt_floor_add_one q
  unfold roundHalfEven
  rw [abs_le]
  split_ifs <;> push_cast <;> constructor <;> linarith

/-! ## The grid of a binade -/

theorem ulp_pos (x : ℚ) : 0 < ulp x := zpow_pos (by norm_num) _

/-- Rounding a nonnegative value is rounding its multiple of the spacing. -/
theorem roundFloat64_of_nonneg {x : ℚ} (hx : 0 ≤ x) : roundFloat64 x = roundHalfEven (x / ulp x) * ulp x :=
  if_neg (not_lt.2 hx)

/-- Rounding stays between the grid points around a nonnegative argument. -/
theorem roundFloat64_mem_grid {x : ℚ} (hx : 0 ≤ x) {m M : ℤ} (hm : m * ulp x ≤ x) (hM : x ≤ M * ulp x) :
    m * ulp x ≤ roundFloat64 x ∧ roundFloat64 x ≤ M * ulp x := by
  have hu := ulp_pos x
  rw [roundFloat64_of_nonneg hx]
  constructor <;> apply mul_le_mul_of_nonneg_right _ hu.le <;> norm_cast
  · exact le_roundHalfEven ((le_div_iff₀ hu).2 hm)
  · exact roundHalfEven_le ((div_le_iff₀ hu).2 hM)

/-- Rounding a nonnegative value moves it by at most half the spacing. -/
theorem abs_roundFloat64_sub_le {x : ℚ} (hx : 0 ≤ x) : |roundFloat64 x - x| ≤ ulp x / 2 := by
  have hu := ulp_pos x
  have h := abs_roundHalfEven_sub_le (x / ulp x)
  have he : roundFloat64 x - x = ((roundHalfEven (x / ulp x) : ℚ) - x / ulp x) * ulp x := by
    rw [roundFloat64_of_nonneg hx, sub_mul, div_mul_cancel₀ _ hu.ne']
  calc |roundFloat64 x - x| = |(roundHalfEven (x / ulp x) : ℚ) - x / ulp x| * ulp x := by
        rw [he, abs_mul, abs_of_pos hu]
    _ ≤ 1 / 2 * ulp x := mul_le_mul_of_nonneg_right h hu.le
    _ = ulp x / 2 := by ring

/-- Below `2^k`, above the subnormals, the spacing is at most `2^(k-53)`. -/
theorem ulp_le {x : ℚ} {k : ℤ} (hx : 0 < x) (h : x < 2 ^ k) (hk : -1021 ≤ k) : ulp x ≤ 2 ^ (k - 53) := by
  have hlog : Int.log 2 x < k := (Int.lt_zpow_iff_log_lt (by norm_num) hx).1 (by exact_mod_cast h)
  exact zpow_le_zpow_right₀ (by norm_num) (by omega)

/-- Below `2^53` the spacing divides one, so every integer is a grid point. -/
theorem intCast_mem_grid {x : ℚ} (hx : 0 < x) (h : x < 2 ^ (53 : ℤ)) (n : ℤ) : ∃ N : ℤ, (n : ℚ) = N * ulp x := by
  have hlog : Int.log 2 x < 53 := (Int.lt_zpow_iff_log_lt (by norm_num) hx).1 (by exact_mod_cast h)
  refine ⟨n * 2 ^ (52 - max (Int.log 2 x) (-1022)).toNat, ?_⟩
  have he : max (Int.log 2 x) (-1022) - 52 = -((52 - max (Int.log 2 x) (-1022)).toNat : ℤ) := by omega
  rw [ulp, he, zpow_neg, zpow_natCast]
  push_cast
  rw [mul_assoc, mul_inv_cancel₀ (by positivity), mul_one]

/-- An integer below `2^53` is its own float64. -/
theorem roundFloat64_intCast {n : ℤ} (h0 : 0 ≤ n) (h : n < 2 ^ 53) : roundFloat64 n = n := by
  rcases h0.eq_or_lt with rfl | hpos
  · simp [roundFloat64, roundHalfEven]
  obtain ⟨N, hN⟩ := intCast_mem_grid (x := n) (by exact_mod_cast hpos) (by exact_mod_cast h) n
  have hg := roundFloat64_mem_grid (x := n) (by exact_mod_cast h0) hN.symm.le hN.le
  linarith [hg.1, hg.2]

/-- Zero is its own float64. -/
theorem roundFloat64_zero : roundFloat64 0 = 0 := by
  simpa using roundFloat64_intCast (n := 0) le_rfl (by norm_num)

/-- A value between two integers below `2^53` rounds between them. -/
theorem roundFloat64_between {x : ℚ} {a b : ℤ} (ha0 : 0 ≤ a) (ha : a ≤ x) (hb : x ≤ b) (hb' : b < 2 ^ 53) :
    a ≤ roundFloat64 x ∧ roundFloat64 x ≤ b := by
  rcases ((Int.cast_nonneg.2 ha0).trans ha).eq_or_lt with rfl | hx
  · rw [roundFloat64_zero]; exact ⟨ha, hb⟩
  have hlt : x < 2 ^ (53 : ℤ) := hb.trans_lt (by exact_mod_cast hb')
  obtain ⟨A, hA⟩ := intCast_mem_grid hx hlt a
  obtain ⟨B, hB⟩ := intCast_mem_grid hx hlt b
  rw [hA] at ha ⊢
  rw [hB] at hb ⊢
  exact roundFloat64_mem_grid hx.le ha hb

/-- Below `2^k`, rounding adds at most `2^(k-54)`. -/
theorem roundFloat64_le_add {x : ℚ} {k : ℤ} (hx : 0 ≤ x) (h : x < 2 ^ k) (hk : -1021 ≤ k) :
    roundFloat64 x ≤ x + 2 ^ (k - 54) := by
  rcases hx.eq_or_lt with rfl | hx
  · rw [roundFloat64_zero, zero_add]; exact (zpow_pos (by norm_num) _).le
  have h1 := (abs_le.1 (abs_roundFloat64_sub_le hx.le)).2
  have h2 : ulp x / 2 ≤ 2 ^ (k - 54) := by
    rw [show k - 54 = k - 53 - 1 by ring, zpow_sub₀ (by norm_num), zpow_one]
    exact div_le_div_of_nonneg_right (ulp_le hx h hk) (by norm_num)
  linarith

/-! ## `Duration.Seconds` -/

/-- The truncation `int(d.Seconds())` of a positive duration `d` below `2^63` nanoseconds is its
whole seconds or one more, and its whole seconds below `2^24` seconds. -/
theorem goInt_Seconds {d : ℤ} (h0 : 0 < d) (h : d < 2 ^ 63) :
    (goInt (Seconds d) = d / 1000000000 ∨ goInt (Seconds d) = d / 1000000000 + 1) ∧
      (d < 2 ^ 24 * 1000000000 → goInt (Seconds d) = d / 1000000000) := by
  have hs0 : 0 ≤ d / 1000000000 := Int.ediv_nonneg h0.le (by norm_num)
  have hn0 : 0 ≤ d % 1000000000 := Int.emod_nonneg _ (by norm_num)
  have hn1 : d % 1000000000 < 1000000000 := Int.emod_lt_of_pos _ (by norm_num)
  -- `float64(sec)` and `float64(nsec)` are exact
  have hSec : Seconds d = roundFloat64 ((d / 1000000000 : ℤ) + roundFloat64 ((d % 1000000000 : ℤ) / 1000000000)) := by
    rw [Seconds, Int.tdiv_eq_ediv h0.le (by norm_num), Int.tmod_eq_emod h0.le (by norm_num),
      roundFloat64_intCast hs0 (by omega), roundFloat64_intCast hn0 (by omega)]
  -- the quotient is a float64 in `[0, 1]`, at most `2^-54` above `nsec / 1e9 < 1`
  have hx0 : (0 : ℚ) ≤ (d % 1000000000 : ℤ) / 1000000000 := div_nonneg (by exact_mod_cast hn0) (by norm_num)
  have hx1 : ((d % 1000000000 : ℤ) : ℚ) / 1000000000 ≤ 999999999 / 1000000000 :=
    div_le_div_of_nonneg_right (by exact_mod_cast (show d % 1000000000 ≤ 999999999 by omega)) (by norm_num)
  set x : ℚ := (d % 1000000000 : ℤ) / 1000000000
  clear_value x
  obtain ⟨hq0, hq1⟩ := roundFloat64_between (x := x) (a := 0) (b := 1) le_rfl (by simpa using hx0)
    (by push_cast; linarith) (by norm_num)
  have hqx := roundFloat64_le_add (k := 0) hx0 (by norm_num; linarith) (by norm_num)
  -- the sum rounds between the whole seconds and the next integer
  set y : ℚ := (d / 1000000000 : ℤ) + roundFloat64 x with hy
  clear_value y
  have hyb := roundFloat64_between (x := y) (a := d / 1000000000) (b := d / 1000000000 + 1) hs0
    (by push_cast at hq0 ⊢; linarith) (by push_cast at hq1 ⊢; linarith) (by omega)
  have hfloor : goInt (roundFloat64 y) = ⌊roundFloat64 y⌋ :=
    if_pos ((Int.cast_nonneg.2 hs0).trans hyb.1)
  rw [hSec, hfloor]
  refine ⟨?_, fun hsmall => ?_⟩
  · rcases hyb.2.lt_or_eq with hlt | heq
    · exact .inl (Int.floor_eq_iff.2 ⟨hyb.1, by exact_mod_cast hlt⟩)
    · exact .inr (by rw [heq, Int.floor_intCast])
  -- below `2^24` seconds the sum is within `2^-30` of a value short of the next second by `1e-9`
  have hs24 : ((d / 1000000000 : ℤ) : ℚ) + 1 ≤ 2 ^ (24 : ℤ) := by
    have : d / 1000000000 + 1 ≤ 2 ^ 24 := by omega
    exact_mod_cast this
  have hqx' : roundFloat64 x ≤ x + 1 / 18014398509481984 := by norm_num at hqx ⊢; exact hqx
  have hy24 : y < 2 ^ (24 : ℤ) := by rw [hy]; linarith
  have hs0' : (0 : ℚ) ≤ (d / 1000000000 : ℤ) := Int.cast_nonneg.2 hs0
  have hyr := roundFloat64_le_add (k := 24) (by push_cast at hq0; linarith) hy24 (by norm_num)
  norm_num at hyr
  exact Int.floor_eq_iff.2 ⟨hyb.1, by linarith⟩

end ApiToolkit
