import Mathlib.Algebra.Order.Field.Rat
import Mathlib.Data.Nat.Digits
import Mathlib.Tactic.Linarith
import ApiToolkit.Itoa
import ApiToolkit.GoFloat

/-!
# The token-bucket rate limiter

`package ratelimit` (`src/unnamed/part_001`): one bucket per key, refilled at `RefillRate` tokens
per second up to `Capacity`, and a request passes when its bucket holds a token after the refill.
The handler reads the time before it takes the mutex, so the order in which requests reach the
buckets (`serve`) need not be the order of their timestamps: a late arrival sees a negative elapsed
time, and its refill takes tokens away.

Tokens and times are exact rationals, times in seconds. A request reaches the handler as its key,
`m.opts.Key(r)`, and the time it read, `time.Now()`; the default key `clientIP` is in
`RateLimit/Keys.lean`.

Whatever the order, the potential `tokens - RefillRate * lastSeen` of a bucket never grows, and
drops by one at each request it passes, while the cap keeps the tokens at most `Capacity`. So at most
`Capacity + RefillRate * (b - a)` requests with a timestamp in `[a, b]` pass
(`Handler_admissions_bounded`).

A request refused answers with `Retry-After`, `itoa(int(ra.Seconds()))`: the float64 seconds of
`ApiToolkit/GoFloat.lean`, truncated, and printed by the `itoa` of `ApiToolkit/Itoa.lean`, which
panics on a text of more than twelve characters. The header is the whole seconds of the duration or
one more, never the panic, and the whole seconds for any duration below `2^24` seconds
(`retryAfter_eq_seconds`).
-/

namespace ApiToolkit.RateLimit

/-- `Options`, without the key function. `RetryAfter` is a `time.Duration`: a 64-bit count of
nanoseconds. -/
structure Options where
  Capacity : ℚ
  RefillRate : ℚ
  RetryAfter : BitVec 64

/-- `bucket`. -/
structure Bucket where
  tokens : ℚ
  lastSeen : ℚ

/-- `Middleware`: the options and the buckets by key. `New` is the only way to build one, and it
makes the capacity and the refill rate positive. -/
structure Middleware where
  opts : Options
  m : String → Option Bucket
  capacity_pos : 0 < opts.Capacity
  refillRate_pos : 0 < opts.RefillRate

/-- `New`: a capacity of `20` and a refill rate of `10` in place of values that are not positive,
and no bucket. -/
def New (opts : Options) : Middleware where
  opts := { opts with
    Capacity := if opts.Capacity ≤ 0 then 20 else opts.Capacity
    RefillRate := if opts.RefillRate ≤ 0 then 10 else opts.RefillRate }
  m := fun _ => none
  capacity_pos := by dsimp only; split_ifs <;> linarith
  refillRate_pos := by dsimp only; split_ifs <;> linarith

/-- A request as the handler sees it: its key and the time it read. -/
structure Arrival where
  key : String
  now : ℚ

/-- What the handler does with a request: pass it to `next`, or answer `429` with
`"rate limit exceeded"` and the `Retry-After` header, which is `none` where `itoa` panics. -/
inductive Response
  | next
  | tooManyRequests (retryAfter : Option String)
  deriving DecidableEq

/-- `ra` of the handler: `RetryAfter`, or one second in place of a duration that is not positive. -/
def retryDuration (o : Options) : ℤ := if o.RetryAfter.toInt ≤ 0 then 1000000000 else o.RetryAfter.toInt

/-- The `Retry-After` header, `itoa(int(ra.Seconds()))`. -/
def retryAfter (o : Options) : Option String := itoa (BitVec.ofInt 64 (goInt (Seconds (retryDuration o))))

/-- The middleware with the bucket of `key` replaced. -/
def Middleware.set (mw : Middleware) (key : String) (b : Bucket) : Middleware :=
  { mw with m := Function.update mw.m key (some b) }

/-- The handler, from `m.mu.Lock()` on: the key's bucket, created full at `now` if there is none,
refilled for the time elapsed since `lastSeen` and capped, stamped with `now`, and charged one token
when it holds one. -/
def Handler (mw : Middleware) (r : Arrival) : Middleware × Response :=
  let b := (mw.m r.key).getD ⟨mw.opts.Capacity, r.now⟩
  let elapsed := r.now - b.lastSeen
  let tokens := b.tokens + elapsed * mw.opts.RefillRate
  let tokens := if tokens > mw.opts.Capacity then mw.opts.Capacity else tokens
  if tokens < 1 then (mw.set r.key ⟨tokens, r.now⟩, .tooManyRequests (retryAfter mw.opts))
  else (mw.set r.key ⟨tokens - 1, r.now⟩, .next)

/-- The requests in the order they take the mutex, each with the handler's answer. -/
def serve (mw : Middleware) : List Arrival → Middleware × List (Arrival × Response)
  | [] => (mw, [])
  | r :: rs =>
    let step := Handler mw r
    let rest := serve step.1 rs
    (rest.1, (r, step.2) :: rest.2)

@[simp] theorem set_opts (mw : Middleware) (key : String) (b : Bucket) : (mw.set key b).opts = mw.opts :=
  rfl

@[simp] theorem set_m (mw : Middleware) (key : String) (b : Bucket) (k : String) :
    (mw.set key b).m k = if k = key then some b else mw.m k := by
  simp [Middleware.set, Function.update_apply]

/-- What one request does: the bucket of its key, refilled to `tokens ≤ Capacity` and stamped with
`now`, keeps `tokens - 1` when the request passes, and `tokens` when it does not. -/
theorem Handler_cases (mw : Middleware) (r : Arrival) :
    ∃ tokens, tokens ≤ mw.opts.Capacity ∧
      (∀ bk, mw.m r.key = some bk → tokens ≤ bk.tokens + (r.now - bk.lastSeen) * mw.opts.RefillRate) ∧
      (mw.m r.key = none → tokens ≤ mw.opts.Capacity) ∧
      ((1 ≤ tokens ∧ Handler mw r = (mw.set r.key ⟨tokens - 1, r.now⟩, .next)) ∨
        (tokens < 1 ∧ Handler mw r = (mw.set r.key ⟨tokens, r.now⟩, .tooManyRequests (retryAfter mw.opts)))) := by
  -- the refilled tokens, before the cap
  obtain ⟨x, hx⟩ : ∃ x, x = ((mw.m r.key).getD ⟨mw.opts.Capacity, r.now⟩).tokens +
      (r.now - ((mw.m r.key).getD ⟨mw.opts.Capacity, r.now⟩).lastSeen) * mw.opts.RefillRate := ⟨_, rfl⟩
  refine ⟨if x > mw.opts.Capacity then mw.opts.Capacity else x, ?_, fun bk hb => ?_, fun hb => ?_, ?_⟩
  · split_ifs with h <;> linarith
  · simp only [hb, Option.getD_some] at hx
    split_ifs with h <;> linarith
  · simp only [hb, Option.getD_none, sub_self, zero_mul, add_zero] at hx
    split_ifs with h <;> linarith
  · unfold Handler
    simp only [← hx]
    by_cases h1 : (if x > mw.opts.Capacity then mw.opts.Capacity else x) < 1
    · exact .inr ⟨h1, by rw [if_pos h1]⟩
    · exact .inl ⟨not_lt.1 h1, by rw [if_neg h1]⟩

@[simp] theorem Handler_opts (mw : Middleware) (r : Arrival) : (Handler mw r).1.opts = mw.opts := by
  obtain ⟨T, -, -, -, ⟨-, he⟩ | ⟨-, he⟩⟩ := Handler_cases mw r <;> rw [he] <;> rfl

@[simp] theorem Handler_m_of_ne (mw : Middleware) (r : Arrival) {k : String} (hk : k ≠ r.key) :
    (Handler mw r).1.m k = mw.m k := by
  obtain ⟨T, -, -, -, ⟨-, he⟩ | ⟨-, he⟩⟩ := Handler_cases mw r <;> simp [he, hk]

/-! ## The `Retry-After` header -/

/-- `itoa` prints a number of up to twelve digits in full. -/
theorem itoa_ofInt {k : ℤ} (h0 : 0 ≤ k) (h : k < 10 ^ 12) : itoa (BitVec.ofInt 64 k) = some (toString k) := by
  obtain ⟨n, rfl⟩ : ∃ n : ℕ, k = n := ⟨k.toNat, by omega⟩
  have hq : (BitVec.ofInt 64 n).toInt = n := by
    rw [BitVec.toInt_ofInt, Int.bmod]
    split_ifs <;> omega
  rw [itoa, itoaBuf_of_nonneg (by omega) (by omega), strconvItoa, hq]
  exact if_pos (Nat.repr_length n 12 (by omega) (by omega))

/-- The `Retry-After` header never reaches the panic of `itoa`: for every `RetryAfter`, it is the
decimal text of the whole seconds or of one more, since the float64 sum of the seconds and the
fraction may round up to the next second; below `2^24` seconds it is the whole seconds. -/
theorem retryAfter_eq_seconds (o : Options) :
    (retryAfter o = some (toString (retryDuration o / 1000000000)) ∨
      retryAfter o = some (toString (retryDuration o / 1000000000 + 1))) ∧
      (retryDuration o < 2 ^ 24 * 1000000000 → retryAfter o = some (toString (retryDuration o / 1000000000))) := by
  have hlt := toInt_lt_two_pow o.RetryAfter
  have hpos : 0 < retryDuration o := by unfold retryDuration; split_ifs <;> omega
  have hmax : retryDuration o < 2 ^ 63 := by unfold retryDuration; split_ifs <;> omega
  have hsec : 0 ≤ retryDuration o / 1000000000 := Int.ediv_nonneg hpos.le (by norm_num)
  have hfit : ∀ k, 0 ≤ k → k ≤ retryDuration o / 1000000000 + 1 → itoa (BitVec.ofInt 64 k) = some (toString k) :=
    fun k h0 hk => itoa_ofInt h0 (by omega)
  obtain ⟨hround, hsmall⟩ := goInt_Seconds hpos hmax
  rw [retryAfter]
  refine ⟨?_, fun hs => by rw [hsmall hs, hfit _ hsec (by omega)]⟩
  rcases hround with h | h
  · exact .inl (by rw [h, hfit _ hsec (by omega)])
  · exact .inr (by rw [h, hfit _ (by omega) le_rfl])

/-- The default of one second gives `Retry-After: 1`. -/
theorem retryAfter_eq_seconds_default :
    retryDuration ⟨1, 1, 0⟩ < 2 ^ 24 * 1000000000 ∧ retryAfter ⟨1, 1, 0⟩ = some "1" :=
  have hs : retryDuration ⟨1, 1, 0⟩ < 2 ^ 24 * 1000000000 := by decide
  ⟨hs, (retryAfter_eq_seconds ⟨1, 1, 0⟩).2 hs⟩

/-! ## Tokens never exceed the capacity -/

/-- Every bucket holds at most `Capacity` tokens. -/
def Middleware.TokensLe (mw : Middleware) : Prop := ∀ k bk, mw.m k = some bk → bk.tokens ≤ mw.opts.Capacity

theorem New_tokensLe (o : Options) : (New o).TokensLe := fun _ _ h => by cases h

/-- A request leaves every bucket at most full: its own is refilled up to the cap at most, then
charged or not. -/
theorem Handler_tokensLe {mw : Middleware} (h : mw.TokensLe) (r : Arrival) : (Handler mw r).1.TokensLe := by
  intro k bk hk
  by_cases hkr : k = r.key
  · subst hkr
    obtain ⟨T, hT, -, -, ⟨-, he⟩ | ⟨-, he⟩⟩ := Handler_cases mw r <;> simp [he] at hk ⊢ <;>
      subst hk <;> dsimp only <;> linarith
  · rw [Handler_m_of_ne mw r hkr] at hk
    simpa using h k bk hk

theorem serve_opts (mw : Middleware) (rs : List Arrival) : (serve mw rs).1.opts = mw.opts := by
  induction rs generalizing mw with
  | nil => rfl
  | cons r rs ih => simp [serve, ih]

theorem serve_tokensLe {mw : Middleware} (h : mw.TokensLe) (rs : List Arrival) : (serve mw rs).1.TokensLe := by
  induction rs generalizing mw with
  | nil => exact h
  | cons r rs ih => exact ih (Handler_tokensLe h r)

/-! ## Admissions in a window -/

section Window

variable (key : String) (a b : ℚ)

/-- Whether a request and the handler's answer count against the window `[a, b]` of `key`: a request
for the key, with its timestamp in `[a, b]`, passed on. -/
def counted (x : Arrival × Response) : Bool :=
  x.1.key == key && decide (a ≤ x.1.now) && decide (x.1.now ≤ b) && x.2 == .next

/-- A bound, from the time `a` on, on the tokens the next request for `key` finds after its refill,
less `RefillRate` times its timestamp: at most `Capacity - RefillRate * a` by the cap, and at most the
bucket's potential `tokens - RefillRate * lastSeen`, which no refill raises. -/
def budget (mw : Middleware) : ℚ :=
  match mw.m key with
  | none => mw.opts.Capacity - mw.opts.RefillRate * a
  | some bk => min (mw.opts.Capacity - mw.opts.RefillRate * a) (bk.tokens - mw.opts.RefillRate * bk.lastSeen)

theorem budget_set_ne (mw : Middleware) {k : String} (bk : Bucket) (hk : k ≠ key) :
    budget key a (mw.set k bk) = budget key a mw := by
  simp [budget, Ne.symm hk]

/-- Restamping the key's bucket with a potential no greater than before keeps within the budget. -/
theorem budget_set_self_le (mw : Middleware) (bk : Bucket)
    (h : ∀ old, mw.m key = some old →
      bk.tokens - mw.opts.RefillRate * bk.lastSeen ≤ old.tokens - mw.opts.RefillRate * old.lastSeen) :
    budget key a (mw.set key bk) ≤ budget key a mw := by
  unfold budget
  simp only [set_m, if_pos rfl, set_opts]
  rcases hb : mw.m key with _ | old
  · exact min_le_left _ _
  · exact min_le_min_left _ (h old hb)

theorem budget_le (mw : Middleware) : budget key a mw ≤ mw.opts.Capacity - mw.opts.RefillRate * a := by
  unfold budget
  split
  · exact le_rfl
  · exact min_le_left _ _

/-- A request that finds `tokens` after its refill at `now ≥ a` finds at most the budget, plus
`RefillRate * now`. -/
theorem refill_le_budget {mw : Middleware} {r : Arrival} {T : ℚ} (hk : r.key = key) (hT : T ≤ mw.opts.Capacity)
    (hsome : ∀ bk, mw.m r.key = some bk → T ≤ bk.tokens + (r.now - bk.lastSeen) * mw.opts.RefillRate)
    (ha : a ≤ r.now) : T - mw.opts.RefillRate * r.now ≤ budget key a mw := by
  have hRa : mw.opts.RefillRate * a ≤ mw.opts.RefillRate * r.now :=
    mul_le_mul_of_nonneg_left ha mw.refillRate_pos.le
  unfold budget
  subst hk
  split
  · linarith
  · rename_i bk hb
    have := hsome bk hb
    exact le_min (by linarith) (by linarith)

/-- One request: the budget of `key` never grows, and it drops by one at a request counted against
`[a, b]`, which finds at least one token. -/
theorem Handler_budget (mw : Middleware) (r : Arrival) :
    budget key a (Handler mw r).1 + (if counted key a b (r, (Handler mw r).2) then 1 else 0) ≤
        budget key a mw ∧
      (counted key a b (r, (Handler mw r).2) → 1 ≤ budget key a mw + mw.opts.RefillRate * b) := by
  obtain ⟨T, hT, hsome, -, hcases⟩ := Handler_cases mw r
  by_cases hk : r.key = key
  swap
  · -- another key: its bucket is as it was, and the request does not count
    rcases hcases with ⟨-, he⟩ | ⟨-, he⟩ <;> rw [he] <;> simp [counted, hk, budget_set_ne key a mw _ hk]
  subst hk
  -- the potential of the restamped bucket is at most the old one's, whatever the order of the times
  have hpot : ∀ old, mw.m r.key = some old →
      T - mw.opts.RefillRate * r.now ≤ old.tokens - mw.opts.RefillRate * old.lastSeen := fun old hb => by
    have := hsome old hb
    linarith
  rcases hcases with ⟨h1, he⟩ | ⟨h1, he⟩ <;> rw [he] <;> dsimp only
  · -- a request that passes counts when its timestamp is in the window
    by_cases hw : a ≤ r.now ∧ r.now ≤ b
    · have hcnt : counted r.key a b (r, .next) = true := by simp [counted, hw.1, hw.2]
      have hfound := refill_le_budget r.key a rfl hT hsome hw.1
      have hRb : mw.opts.RefillRate * r.now ≤ mw.opts.RefillRate * b :=
        mul_le_mul_of_nonneg_left hw.2 mw.refillRate_pos.le
      have hnew : budget r.key a (mw.set r.key ⟨T - 1, r.now⟩) ≤ T - 1 - mw.opts.RefillRate * r.now := by
        simp [budget]
      refine ⟨by rw [if_pos hcnt]; linarith, fun _ => by linarith⟩
    · have hcnt : counted r.key a b (r, .next) = false := by simpa [counted] using hw
      have hle := budget_set_self_le r.key a mw ⟨T - 1, r.now⟩ fun old hb => by
        have := hpot old hb
        dsimp only
        linarith
      exact ⟨by simpa [hcnt] using hle, by simp [hcnt]⟩
  · -- a request refused does not count, and its bucket keeps the refilled tokens
    simpa [counted] using budget_set_self_le r.key a mw ⟨T, r.now⟩ hpot

/-- A run: the requests counted against `[a, b]` are none, or at most the budget before the run, plus
`RefillRate * b`. -/
theorem serve_budget (mw : Middleware) (rs : List Arrival) :
    ((serve mw rs).2.filter (counted key a b)).length = 0 ∨
      (((serve mw rs).2.filter (counted key a b)).length : ℚ) ≤ budget key a mw + mw.opts.RefillRate * b := by
  induction rs generalizing mw with
  | nil => simp [serve]
  | cons r rs ih =>
    obtain ⟨hdrop, hlast⟩ := Handler_budget key a b mw r
    rcases ih (Handler mw r).1 with h | h <;> simp only [serve, List.filter_cons] at h ⊢ <;>
      split_ifs at hdrop ⊢ with hc
    · exact .inr (by simp [h]; exact hlast hc)
    · exact .inl h
    · right; push_cast [List.length_cons, h]; simp only [Handler_opts] at h; linarith
    · right; simp only [Handler_opts] at h; linarith

end Window

/-- The token bucket bounds admissions per interval, in any order of the mutex: over every sequence
of requests that a middleware from `New` serves, at most `Capacity + RefillRate * (b - a)` requests
for a key with a timestamp in `[a, b]` pass, and the key's bucket never holds more than `Capacity`
tokens. -/
theorem Handler_admissions_bounded (o : Options) (rs : List Arrival) (key : String) {a b : ℚ}
    (hab : a ≤ b) :
    (((serve (New o) rs).2.filter (counted key a b)).length : ℚ) ≤
        (New o).opts.Capacity + (New o).opts.RefillRate * (b - a) ∧
      ∀ bk, (serve (New o) rs).1.m key = some bk → bk.tokens ≤ (New o).opts.Capacity := by
  refine ⟨?_, fun bk h => by simpa [serve_opts] using serve_tokensLe (New_tokensLe o) rs key bk h⟩
  have hbud := budget_le key a (New o)
  have hRab : 0 ≤ (New o).opts.RefillRate * (b - a) :=
    mul_nonneg (New o).refillRate_pos.le (sub_nonneg.2 hab)
  rcases serve_budget key a b (New o) rs with h | h
  · rw [h, Nat.cast_zero]
    linarith [(New o).capacity_pos]
  · linarith

/-- Requests for one key at times `1`, `0` and `1`, in that order of the mutex: the second one's
refill is negative. -/
theorem Handler_admissions_bounded_out_of_order :
    (0 : ℚ) ≤ 1 ∧
      (((serve (New ⟨2, 1, 0⟩) [⟨"k", 1⟩, ⟨"k", 0⟩, ⟨"k", 1⟩]).2.filter (counted "k" 0 1)).length : ℚ) ≤
          (New ⟨2, 1, 0⟩).opts.Capacity + (New ⟨2, 1, 0⟩).opts.RefillRate * (1 - 0) ∧
        ∀ bk, (serve (New ⟨2, 1, 0⟩) [⟨"k", 1⟩, ⟨"k", 0⟩, ⟨"k", 1⟩]).1.m "k" = some bk →
          bk.tokens ≤ (New ⟨2, 1, 0⟩).opts.Capacity :=
  ⟨zero_le_one, Handler_admissions_bounded ⟨2, 1, 0⟩ _ "k" zero_le_one⟩

end ApiToolkit.RateLimit
