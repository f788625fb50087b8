import ApiToolkit.RateLimit.Bucket
import ApiToolkit.Strings

/-!
# The keys of the buckets

`New` keys the buckets by `clientIP` when no key function is given. `clientIP` trusts the request:
it takes the first entry of `X-Forwarded-For`, trimmed, and falls back to the host of `RemoteAddr`
only where the header is empty. `net.SplitHostPort` is Go's library and enters as a parameter.

The bound of `Handler_admissions_bounded` is per key, and a bucket that does not exist yet is full.
So requests whose keys no bucket has yet all pass, at any time and in any order, while the capacity
is at least one (`serve_fresh_pass`). Under `clientIP` a client chooses its key: requests that each
carry their own plain `X-Forwarded-For` all pass, however many arrive at once
(`serve_forged_xff_pass`). The other way round, no refill lifts a bucket above `Capacity`, and `New`
keeps a capacity between zero and one: such a limiter refuses every request
(`serve_refuses_below_one`).
-/

namespace ApiToolkit.RateLimit

/-- What `clientIP` reads of a request, `r.Header.Get("X-Forwarded-For")` and `r.RemoteAddr`, and
the time the handler reads after it. -/
structure Request where
  XForwardedFor : String
  RemoteAddr : String
  now : ℚ
  deriving DecidableEq

/-- `clientIP`, with `net.SplitHostPort`'s host, or none where it returns an error. -/
def clientIP (SplitHostPort : String → Option String) (r : Request) : String :=
  if r.XForwardedFor ≠ "" then trimSpace (splitFirst r.XForwardedFor ',')
  else (SplitHostPort r.RemoteAddr).getD r.RemoteAddr

/-- A request as the handler of a limiter made by `New` without a key function sees it: its key
`clientIP(r)` and the time it read. -/
def arrival (SplitHostPort : String → Option String) (r : Request) : Arrival :=
  ⟨clientIP SplitHostPort r, r.now⟩

/-- A plain `X-Forwarded-For`: not empty, one entry, no white space around it. -/
def plainHeader (xff : String) : Prop := xff ≠ "" ∧ ',' ∉ xff.toList ∧ trimSpace xff = xff

instance : DecidablePred plainHeader :=
  fun xff => inferInstanceAs (Decidable (xff ≠ "" ∧ ',' ∉ xff.toList ∧ trimSpace xff = xff))

/-- The key of a request with a plain `X-Forwarded-For` is the header itself. -/
theorem clientIP_of_plainHeader (SplitHostPort : String → Option String) {r : Request}
    (h : plainHeader r.XForwardedFor) : clientIP SplitHostPort r = r.XForwardedFor := by
  obtain ⟨hne, hc, ht⟩ := h
  rw [clientIP, if_pos hne, splitFirst_of_not_mem hc, ht]

/-! ## Fresh keys -/

/-- A request whose key has no bucket passes while the capacity is at least one: its new bucket is
full. -/
theorem Handler_fresh {mw : Middleware} {r : Arrival} (hr : mw.m r.key = none) (h1 : 1 ≤ mw.opts.Capacity) :
    (Handler mw r).2 = .next := by
  have hcap : ¬(if mw.opts.Capacity + (r.now - r.now) * mw.opts.RefillRate > mw.opts.Capacity then
      mw.opts.Capacity else mw.opts.Capacity + (r.now - r.now) * mw.opts.RefillRate) < 1 := by
    rw [sub_self, zero_mul, add_zero, ite_self]
    exact not_lt.2 h1
  simp only [Handler, hr, Option.getD_none]
  rw [if_neg hcap]

/-- Requests whose keys are distinct and have no bucket yet all pass, while the capacity is at least
one, whatever their times. -/
theorem serve_fresh_pass : ∀ (mw : Middleware) (rs : List Arrival), 1 ≤ mw.opts.Capacity →
    (rs.map (·.key)).Nodup → (∀ r ∈ rs, mw.m r.key = none) → ∀ x ∈ (serve mw rs).2, x.2 = .next
  | _, [], _, _, _ => by simp [serve]
  | mw, r :: rs, h1, hnd, hfresh => by
    obtain ⟨hr, hnd⟩ := List.nodup_cons.1 hnd
    have hrest : ∀ r' ∈ rs, (Handler mw r).1.m r'.key = none := fun r' hr' => by
      have hne : r'.key ≠ r.key := fun he => hr (by simpa [he] using List.mem_map_of_mem (·.key) hr')
      rw [Handler_m_of_ne mw r hne]
      exact hfresh r' (List.mem_cons_of_mem _ hr')
    simp only [serve, List.mem_cons, forall_eq_or_imp]
    exact ⟨Handler_fresh (hfresh r (List.mem_cons_self _ _)) h1,
      serve_fresh_pass _ rs (by rwa [Handler_opts]) hnd hrest⟩

/-- `New` keeps a positive capacity. -/
theorem New_capacity {o : Options} (h0 : 0 < o.Capacity) : (New o).opts.Capacity = o.Capacity :=
  if_neg (not_le.2 h0)

/-- Under the default key, a client that gives each request its own plain `X-Forwarded-For` gets
every request through a fresh limiter whose capacity is at least one, at any times and however many
arrive at once: the limit of each key never applies. -/
theorem serve_forged_xff_pass (o : Options) (h1 : 1 ≤ o.Capacity) (SplitHostPort : String → Option String)
    (rs : List Request) (hnd : (rs.map (·.XForwardedFor)).Nodup)
    (hplain : ∀ r ∈ rs, plainHeader r.XForwardedFor) :
    ∀ x ∈ (serve (New o) (rs.map (arrival SplitHostPort))).2, x.2 = .next := by
  have hkeys : (rs.map (arrival SplitHostPort)).map (·.key) = rs.map (·.XForwardedFor) := by
    rw [List.map_map]
    exact List.map_congr_left fun r hr => clientIP_of_plainHeader SplitHostPort (hplain r hr)
  refine serve_fresh_pass _ _ (by rw [New_capacity (by linarith)]; exact h1) (hkeys ▸ hnd) fun _ _ => rfl

/-- Three requests from one address, each with its own forged header, at one instant. -/
def forgedRequests : List Request := ["1", "2", "3"].map fun x => ⟨x, "10.0.0.1:4000", 0⟩

/-- The three forged requests all pass a limiter of capacity one. -/
theorem serve_forged_xff_pass_three :
    1 ≤ (1 : ℚ) ∧ (forgedRequests.map (·.XForwardedFor)).Nodup ∧
      (∀ r ∈ forgedRequests, plainHeader r.XForwardedFor) ∧
      ∀ x ∈ (serve (New ⟨1, 1, 0⟩) (forgedRequests.map (arrival fun _ => none))).2, x.2 = .next :=
  have hnd : (forgedRequests.map (·.XForwardedFor)).Nodup := by decide
  have hplain : ∀ r ∈ forgedRequests, plainHeader r.XForwardedFor := by decide
  ⟨le_refl 1, hnd, hplain, serve_forged_xff_pass ⟨1, 1, 0⟩ (le_refl 1) (fun _ => none) _ hnd hplain⟩

/-! ## A capacity below one -/

/-- Below a capacity of one, every request is refused: the refill never lifts a bucket above the
capacity. -/
theorem Handler_refuses {mw : Middleware} (h1 : mw.opts.Capacity < 1) (r : Arrival) :
    (Handler mw r).2 = .tooManyRequests (retryAfter mw.opts) := by
  obtain ⟨T, hT, -, -, ⟨h, -⟩ | ⟨-, he⟩⟩ := Handler_cases mw r
  · exact absurd (h.trans hT) (not_le.2 h1)
  · rw [he]

/-- A limiter made with a capacity between zero and one, which `New` keeps, refuses every request of
every run with `429`, whatever the refill rate and the times. -/
theorem serve_refuses_below_one (o : Options) (h0 : 0 < o.Capacity) (h1 : o.Capacity < 1) (rs : List Arrival) :
    ∀ x ∈ (serve (New o) rs).2, x.2 = .tooManyRequests (retryAfter o) := by
  have hcap : (New o).opts.Capacity < 1 := by rw [New_capacity h0]; exact h1
  suffices ∀ (mw : Middleware) (rs : List Arrival), mw.opts = (New o).opts →
      ∀ x ∈ (serve mw rs).2, x.2 = .tooManyRequests (retryAfter o) from this _ rs rfl
  intro mw rs
  induction rs generalizing mw with
  | nil => simp [serve]
  | cons r rs ih =>
    intro hopts
    simp only [serve, List.mem_cons, forall_eq_or_imp]
    refine ⟨?_, ih _ (by rw [Handler_opts, hopts])⟩
    rw [Handler_refuses (hopts ▸ hcap), hopts]
    rfl

/-- A limiter of capacity one half refuses a request. -/
theorem serve_refuses_below_one_half :
    0 < (1 / 2 : ℚ) ∧ (1 / 2 : ℚ) < 1 ∧
      ∀ x ∈ (serve (New ⟨1 / 2, 10, 0⟩) [⟨"k", 0⟩]).2, x.2 = .tooManyRequests (retryAfter ⟨1 / 2, 10, 0⟩) :=
  ⟨by norm_num, by norm_num, serve_refuses_below_one ⟨1 / 2, 10, 0⟩ (by norm_num) (by norm_num) _⟩

end ApiToolkit.RateLimit
