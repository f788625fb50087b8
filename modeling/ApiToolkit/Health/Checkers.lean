import ApiToolkit.Health.Aggregate
import ApiToolkit.Itoa

/-!
# The built-in checkers

`BasicChecker`, `DatabaseChecker`, `MemoryChecker` and `CustomChecker` of `src/health/checkers.go`,
each as the result its `Check` returns at a time. What a check reads from outside is an input: the
error of the pool's `Ping`, the `Alloc` of `runtime.MemStats`, the answer of the custom function.
`Details` and `Duration` are left out, as in the aggregation.

`MemoryChecker` compares the allocated megabytes with its limit and with `maxMemoryMB*8/10`, in
64-bit `int64` arithmetic. Below `2^60` the product does not wrap, and the status is the exact
comparison of the megabytes with the limit and with eight tenths of it (`MemoryChecker_status`). From
`2^60` on, `maxMemoryMB*8` wraps, and a checker with the limit `2^60` reports degraded memory when
none is allocated (the example after it).
-/

namespace ApiToolkit.Health

/-- `BasicChecker.Check`. -/
def BasicChecker.Check (now : Int) : HealthResult := ⟨HealthStatusHealthy, "Basic health check passed", now⟩

/-- `DatabaseChecker.Check`, on the text of `Ping`'s error, none when it succeeds. -/
def DatabaseChecker.Check (pingErr : Option String) (now : Int) : HealthResult :=
  match pingErr with
  | some err => ⟨HealthStatusUnhealthy, "Database ping failed: " ++ err, now⟩
  | none => ⟨HealthStatusHealthy, "Database connection healthy", now⟩

/-- `CustomChecker.Check`, on the status and the message its function returns. -/
def CustomChecker.Check (status message : String) (now : Int) : HealthResult := ⟨status, message, now⟩

/-- `MemoryChecker.Check`, on the `Alloc` of `runtime.MemStats` (a `uint64`). -/
def MemoryChecker.Check (maxMemoryMB : BitVec 64) (alloc : BitVec 64) (now : Int) : HealthResult :=
  let memoryMB : BitVec 64 := alloc / 1024 / 1024
  if 0 < maxMemoryMB.toInt ∧ maxMemoryMB.toInt < memoryMB.toInt then
    ⟨HealthStatusUnhealthy, "Memory usage too high: " ++ strconvItoa memoryMB ++ " MB (max: " ++
      strconvItoa maxMemoryMB ++ " MB)", now⟩
  else if 0 < maxMemoryMB.toInt ∧ (BitVec.sdiv (maxMemoryMB * 8) 10).toInt < memoryMB.toInt then
    ⟨HealthStatusDegraded, "Memory usage high: " ++ strconvItoa memoryMB ++ " MB (max: " ++
      strconvItoa maxMemoryMB ++ " MB)", now⟩
  else ⟨HealthStatusHealthy, "Memory usage: " ++ strconvItoa memoryMB ++ " MB", now⟩

/-- A `uint64` divided by `2^20` is an `int64` with the value of the quotient. -/
theorem toInt_div_mb (alloc : BitVec 64) : (alloc / 1024 / 1024).toInt = (alloc.toNat / 2 ^ 20 : Nat) := by
  have hlt := alloc.isLt
  have hq : (alloc / 1024 / 1024).toNat = alloc.toNat / 2 ^ 20 := by
    simp only [BitVec.toNat_udiv, BitVec.toNat_ofNat, Nat.div_div_eq_div_mul]
    rfl
  rw [BitVec.toInt_eq_toNat_cond, hq]
  split_ifs <;> omega

/-- Below `2^60`, `maxMemoryMB*8/10` is eight tenths of the limit, rounded down. -/
theorem toInt_sdiv_eight_tenths {m : BitVec 64} (h0 : 0 ≤ m.toInt) (h : m.toInt < 2 ^ 60) :
    (BitVec.sdiv (m * 8) 10).toInt = m.toInt * 8 / 10 := by
  have hm : m.toNat < 2 ^ 60 := by rw [BitVec.toInt_eq_toNat_cond] at h0 h; split_ifs at h0 h <;> omega
  have hm8 : (m * 8).toNat = m.toNat * 8 := by
    rw [BitVec.toNat_mul, show (8 : BitVec 64).toNat = 8 from rfl]; omega
  have hmsb : (m * 8).msb = false := by
    rw [BitVec.msb_eq_decide, hm8]; simp; omega
  have hmi : m.toInt = m.toNat := by rw [BitVec.toInt_eq_toNat_cond]; split_ifs <;> omega
  have hd : BitVec.sdiv (m * 8) 10 = m * 8 / 10 := by
    unfold BitVec.sdiv
    rw [hmsb]
    rfl
  rw [hd, BitVec.toInt_eq_toNat_cond, BitVec.toNat_udiv, hm8, hmi, show (10 : BitVec 64).toNat = 10 from rfl]
  split_ifs <;> omega

/-- With a limit below `2^60`, the memory checker's status is the exact comparison of the allocated
megabytes `⌊Alloc / 2^20⌋` with the limit and with eight tenths of it; a limit of zero or less turns
the check off. -/
theorem MemoryChecker_status (maxMemoryMB alloc : BitVec 64) (now : Int) (hmax : maxMemoryMB.toInt < 2 ^ 60) :
    (MemoryChecker.Check maxMemoryMB alloc now).Status =
      let mb : Int := (alloc.toNat / 2 ^ 20 : Nat)
      if 0 < maxMemoryMB.toInt ∧ maxMemoryMB.toInt < mb then HealthStatusUnhealthy
      else if 0 < maxMemoryMB.toInt ∧ maxMemoryMB.toInt * 8 / 10 < mb then HealthStatusDegraded
      else HealthStatusHealthy := by
  unfold MemoryChecker.Check
  dsimp only
  rw [toInt_div_mb]
  by_cases h0 : 0 < maxMemoryMB.toInt
  · rw [toInt_sdiv_eight_tenths h0.le hmax]
    split_ifs <;> rfl
  · simp only [h0, false_and, if_false]

/-- A limit below `2^60`, and a checker with a limit of 1000 MB and 900 MB allocated, which is
degraded. -/
theorem MemoryChecker_status_900 :
    (1000 : BitVec 64).toInt < 2 ^ 60 ∧
      (MemoryChecker.Check 1000 943718400 0).Status =
        let mb : Int := ((943718400 : BitVec 64).toNat / 2 ^ 20 : Nat)
        if 0 < (1000 : BitVec 64).toInt ∧ (1000 : BitVec 64).toInt < mb then HealthStatusUnhealthy
        else if 0 < (1000 : BitVec 64).toInt ∧ (1000 : BitVec 64).toInt * 8 / 10 < mb then HealthStatusDegraded
        else HealthStatusHealthy :=
  ⟨by decide, MemoryChecker_status 1000 943718400 0 (by decide)⟩

/-- At the limit `2^60`, beyond the bound of `MemoryChecker_status`, `maxMemoryMB*8` wraps to
`math.MinInt64`, and the checker reports degraded memory with nothing allocated. -/
example : (MemoryChecker.Check 1152921504606846976 0 0).Status = HealthStatusDegraded := by
  decide

end ApiToolkit.Health
