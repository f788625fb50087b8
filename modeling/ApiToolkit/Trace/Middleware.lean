import ApiToolkit.Trace.TraceParent

/-!
# The trace middleware

`Middleware` of `src/middleware/trace/trace.go` on one request: it keeps the trace ID of an incoming
`traceparent` that parses (when `TrustIncoming` is set), or draws a new one, always draws a new span
ID, puts both in the request's context, and echoes them in the response's `traceparent`.

`newTraceID` and `newSpanID` hex-encode random bytes, after setting the first byte to `1` when all
are zero, so whatever `rand.Read` leaves in the array, the ID is valid (`isValidID_newID`). The
header the middleware sets therefore parses, and it carries the trace ID that `GetTraceID` returns
on the request passed to `next` (`traceparent_roundtrip`).
-/

namespace ApiToolkit.Trace

/-- A lowercase hex digit of `encoding/hex`. -/
def hexDigit (n : Nat) : Char := if n < 10 then Char.ofNat (48 + n) else Char.ofNat (87 + n)

/-- `hex.EncodeToString`: two digits per byte, the high half first. -/
def encodeToString (b : List UInt8) : List Char :=
  b.flatMap fun x => [hexDigit (x.toNat / 16), hexDigit (x.toNat % 16)]

/-- `allZero`. -/
def allZero (b : List UInt8) : Bool := b.all (· == 0)

/-- The bytes that `rand.Read` leaves in a `[n]byte`: any `n` bytes, since its error is ignored. -/
structure Draw (n : Nat) where
  bytes : List UInt8
  length_eq : bytes.length = n

/-- The body shared by `newTraceID` and `newSpanID`: all-zero bytes get `b[0] = 1`, then the hex
encoding. -/
def newID {n : Nat} (d : Draw n) : List Char :=
  encodeToString (if allZero d.bytes then d.bytes.set 0 1 else d.bytes)

/-- `newTraceID`, from 16 random bytes. -/
def newTraceID (d : Draw 16) : List Char := newID d

/-- `newSpanID`, from 8 random bytes. -/
def newSpanID (d : Draw 8) : List Char := newID d

/-- The hex digits of the values below 16 are lowercase hex, and only that of `0` is `0`. -/
theorem hexDigit_spec : ∀ k < 16, isHexByte (hexDigit k) ∧ (hexDigit k = '0' ↔ k = 0) := by
  decide

/-- Two hex digits per byte. -/
theorem length_encodeToString (b : List UInt8) : (encodeToString b).length = 2 * b.length := by
  induction b with
  | nil => rfl
  | cons x b ih => simp [encodeToString] at ih ⊢; omega

/-- The hex text of bytes is lowercase hex. -/
theorem isLowerHex_encodeToString (b : List UInt8) : isLowerHex (encodeToString b) := by
  have h16 : ∀ x : UInt8, x.toNat / 16 < 16 ∧ x.toNat % 16 < 16 := fun x => by
    have : x.toNat < 256 := x.val.isLt
    omega
  simp only [isLowerHex, encodeToString, List.all_flatMap, List.all_eq_true]
  intro x _
  simp [(hexDigit_spec _ (h16 x).1).1, (hexDigit_spec _ (h16 x).2).1]

/-- The encoding of bytes with a nonzero one is not all `0`. -/
theorem allZeroHex_encodeToString {b : List UInt8} (h : ∃ x ∈ b, x ≠ 0) :
    allZeroHex (encodeToString b) = false := by
  obtain ⟨x, hx, hx0⟩ := h
  have hlt : x.toNat < 256 := x.val.isLt
  have hne : x.toNat ≠ 0 := fun h0 => hx0 (UInt8.toNat.inj (by simpa using h0))
  rw [Bool.eq_false_iff]
  intro hall
  have hd := List.all_eq_true.1 hall
  have h1 := hd (hexDigit (x.toNat / 16)) (List.mem_flatMap.2 ⟨x, hx, by simp⟩)
  have h2 := hd (hexDigit (x.toNat % 16)) (List.mem_flatMap.2 ⟨x, hx, by simp⟩)
  simp only [beq_iff_eq] at h1 h2
  have := (hexDigit_spec _ (by omega)).2.1 h1
  have := (hexDigit_spec _ (by omega)).2.1 h2
  omega

/-- The guard leaves a nonzero byte in a nonempty array. -/
theorem exists_ne_zero_guard (b : List UInt8) (hb : 0 < b.length) :
    ∃ x ∈ (if allZero b then b.set 0 1 else b), x ≠ 0 := by
  split_ifs with h
  · obtain ⟨y, ys, rfl⟩ := List.exists_cons_of_length_pos hb
    exact ⟨1, by simp, by decide⟩
  · simpa [allZero] using h

/-- Whatever the random bytes, a new ID of `n > 0` bytes is valid: `2 * n` lowercase hex digits,
not all zero. -/
theorem isValidID_newID {n : Nat} (d : Draw n) (hn : 0 < n) : isValidID (2 * n) (newID d) := by
  have hlen : (if allZero d.bytes then d.bytes.set 0 1 else d.bytes).length = n := by
    split_ifs <;> simp [d.length_eq]
  refine isValidID_iff.2 ⟨?_, isLowerHex_encodeToString _, allZeroHex_encodeToString ?_⟩
  · rw [newID, length_encodeToString, hlen]
  · exact exists_ne_zero_guard _ (by rw [d.length_eq]; exact hn)

/-- A new trace ID is valid, whatever bytes were drawn. -/
theorem isValidTraceID_newTraceID (d : Draw 16) : isValidTraceID (newTraceID d) :=
  isValidID_newID d (by decide)

/-- A new span ID is valid, whatever bytes were drawn. -/
theorem isValidSpanID_newSpanID (d : Draw 8) : isValidSpanID (newSpanID d) :=
  isValidID_newID d (by decide)

/-! ## The middleware -/

/-- `Options`. -/
structure Options where
  TrustIncoming : Bool
  SampledFlag : UInt8

/-- A request as the middleware reads it and passes it on: its `traceparent` header, empty when
absent, and the trace and span IDs of its context. -/
structure Request where
  traceparent : List Char
  traceID : Option (List Char)
  spanID : Option (List Char)

/-- `GetTraceID`: the trace ID of the request's context, or the empty string. -/
def GetTraceID (r : Request) : List Char := r.traceID.getD []

/-- `withTrace`: the request with the two IDs in its context. -/
def withTrace (r : Request) (traceID spanID : List Char) : Request :=
  { r with traceID := some traceID, spanID := some spanID }

/-- The handler that `Middleware opts` wraps around `next`, on one request: the `traceparent` it
sets on the response and the request it passes to `next`, from the bytes that `newTraceID` and
`newSpanID` draw. -/
def Middleware (opts : Options) (r : Request) (traceBytes : Draw 16) (spanBytes : Draw 8) :
    List Char × Request :=
  let sampled : UInt8 :=
    if opts.SampledFlag ≠ 0x00 ∧ opts.SampledFlag ≠ 0x01 then 0x01 else opts.SampledFlag
  let incoming : List Char :=
    if opts.TrustIncoming ∧ r.traceparent ≠ [] then
      ((parseTraceParent r.traceparent).map (·.1)).getD []
    else []
  let traceID := if incoming = [] ∨ isValidTraceID incoming = false then newTraceID traceBytes else incoming
  let spanID := newSpanID spanBytes
  (formatTraceParent traceID spanID sampled, withTrace r traceID spanID)

/-- The trace ID the middleware keeps: the incoming one when it is valid, otherwise a new one. -/
theorem isValidTraceID_chosen (incoming : List Char) (d : Draw 16) :
    isValidTraceID (if incoming = [] ∨ isValidTraceID incoming = false then newTraceID d else incoming) := by
  split_ifs with h
  · exact isValidTraceID_newTraceID d
  · simpa using (not_or.1 h).2

/-- The flag the middleware uses: `SampledFlag` when it is `0x00` or `0x01`, otherwise `0x01`. -/
theorem sampled_flag (x : UInt8) :
    (if x ≠ 0x00 ∧ x ≠ 0x01 then (0x01 : UInt8) else x) = 0x00 ∨
      (if x ≠ 0x00 ∧ x ≠ 0x01 then (0x01 : UInt8) else x) = 0x01 := by
  split_ifs with h
  · exact .inr rfl
  · by_cases h0 : x = 0x00
    · exact .inl h0
    · exact .inr (by simpa [h0] using h)

/-- The header the middleware sets is made of the trace ID it put in the request's context, a valid
span ID and the flag `0x00` or `0x01`. -/
theorem Middleware_parts (opts : Options) (r : Request) (traceBytes : Draw 16) (spanBytes : Draw 8) :
    ∃ t s f, isValidTraceID t ∧ isValidSpanID s ∧ (f = 0x00 ∨ f = 0x01) ∧
      Middleware opts r traceBytes spanBytes = (formatTraceParent t s f, withTrace r t s) :=
  ⟨_, _, _, isValidTraceID_chosen _ traceBytes, isValidSpanID_newSpanID spanBytes,
    sampled_flag opts.SampledFlag, rfl⟩

/-- A formatted `traceparent` parses back to its parts, and the middleware echoes a header that
parses: for every valid trace ID `t`, every valid span ID `s` and every flag `f` in `{0x00, 0x01}`,
`parseTraceParent (formatTraceParent t s f) = (t, s, f, true)`; and for every request and every bytes
that `newTraceID` and `newSpanID` draw, the `traceparent` that `Middleware` sets parses, with the
trace ID that `GetTraceID` returns on the request passed to `next`. -/
theorem traceparent_roundtrip :
    (∀ (t s : List Char) (f : UInt8), isValidTraceID t → isValidSpanID s → (f = 0x00 ∨ f = 0x01) →
      parseTraceParent (formatTraceParent t s f) = some (t, s, f)) ∧
    ∀ (opts : Options) (r : Request) (traceBytes : Draw 16) (spanBytes : Draw 8), ∃ spanID f,
      parseTraceParent (Middleware opts r traceBytes spanBytes).1 =
        some (GetTraceID (Middleware opts r traceBytes spanBytes).2, spanID, f) := by
  refine ⟨fun t s f ht hs hf => parseTraceParent_format ht hs hf, fun opts r tb sb => ?_⟩
  obtain ⟨t, s, f, ht, hs, hf, h⟩ := Middleware_parts opts r tb sb
  exact ⟨s, f, by rw [h]; exact parseTraceParent_format ht hs hf⟩

/-- The round trip at the identifiers of the W3C example, sampled. -/
theorem traceparent_roundtrip_sample :
    isValidTraceID "4bf92f3577b34da6a3ce929d0e0e4736".toList ∧ isValidSpanID "00f067aa0ba902b7".toList ∧
      ((0x01 : UInt8) = 0x00 ∨ (0x01 : UInt8) = 0x01) ∧
      parseTraceParent (formatTraceParent "4bf92f3577b34da6a3ce929d0e0e4736".toList "00f067aa0ba902b7".toList 0x01) =
        some ("4bf92f3577b34da6a3ce929d0e0e4736".toList, "00f067aa0ba902b7".toList, 0x01) :=
  ⟨by decide, by decide, by decide, traceparent_roundtrip.1 _ _ _ (by decide) (by decide) (by decide)⟩

end ApiToolkit.Trace
