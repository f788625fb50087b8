import Mathlib.Data.List.Basic

/-!
# The `traceparent` header

`parseTraceParent` and `formatTraceParent` of `src/middleware/trace/trace.go`. A Go string is its
bytes; each byte is the `Char` of the same code, so the ASCII text of the format reads as itself and
`len` is the length of the list.

`formatTraceParent` joins the version `00`, the trace ID, the parent ID and the flags with `-`, and
`parseTraceParent` reads such a header back to its parts (`parseTraceParent_format`). The parser
checks the length, splits at every `-`, and checks the first four fields only: it accepts exactly
the headers of 55 to 200 bytes that are `00-`, a valid trace ID, `-`, a valid parent ID, `-`, two
lowercase hex digits, and then nothing or a `-` followed by anything (`parseTraceParent_eq_some_iff`).
So it also accepts headers with extra fields, which the W3C format for version `00` does not have
(`parseTraceParent_accepts_extra_field`).
-/

namespace ApiToolkit.Trace

/-- A byte of `isLowerHex`: `0`-`9` or `a`-`f`. -/
def isHexByte (c : Char) : Bool := ('0' ≤ c && c ≤ '9') || ('a' ≤ c && c ≤ 'f')

/-- `isLowerHex`. -/
def isLowerHex (s : List Char) : Bool := s.all isHexByte

/-- `allZeroHex`. -/
def allZeroHex (s : List Char) : Bool := s.all (· == '0')

/-- The check shared by `isValidTraceID` and `isValidSpanID`: `n` lowercase hex digits, not all
zero. -/
def isValidID (n : Nat) (s : List Char) : Bool := s.length == n && isLowerHex s && !allZeroHex s

/-- `isValidTraceID`: 32 lowercase hex digits, not all zero. -/
def isValidTraceID (s : List Char) : Bool := isValidID 32 s

/-- `isValidSpanID`: 16 lowercase hex digits, not all zero. -/
def isValidSpanID (s : List Char) : Bool := isValidID 16 s

/-- `parseTraceParent`: the trace ID, the parent ID and the flags, or none where the source returns
`ok = false`. -/
def parseTraceParent (s : List Char) : Option (List Char × List Char × UInt8) :=
  if s.length < 55 ∨ s.length > 200 then none
  else
    match s.splitOn '-' with
    | ver :: tid :: pid :: fl :: _ =>
      if ver.length ≠ 2 ∨ ver ≠ "00".toList then none
      else if !isValidTraceID tid || !isValidSpanID pid || fl.length ≠ 2 || !isLowerHex fl then none
      else some (tid, pid, if fl = "00".toList then 0x00 else 0x01)
    | _ => none

/-- `formatTraceParent`. -/
def formatTraceParent (traceID spanID : List Char) (sampled : UInt8) : List Char :=
  let flag := if sampled = 0x01 then "01".toList else "00".toList
  "00-".toList ++ traceID ++ "-".toList ++ spanID ++ "-".toList ++ flag

/-- Lowercase hex digits hold no `-`. -/
theorem dash_not_mem_of_isLowerHex {s : List Char} (h : isLowerHex s) : '-' ∉ s := fun hd => by
  have := List.all_eq_true.1 h '-' hd
  simp [isHexByte] at this

/-- The three checks of `isValidID`. -/
theorem isValidID_iff {n : Nat} {s : List Char} :
    isValidID n s ↔ s.length = n ∧ isLowerHex s ∧ allZeroHex s = false := by
  simp [isValidID, and_assoc]

/-- A valid trace ID is lowercase hex. -/
theorem isLowerHex_of_isValidTraceID {s : List Char} (h : isValidTraceID s) : isLowerHex s :=
  (isValidID_iff.1 h).2.1

/-- A valid span ID is lowercase hex. -/
theorem isLowerHex_of_isValidSpanID {s : List Char} (h : isValidSpanID s) : isLowerHex s :=
  (isValidID_iff.1 h).2.1

/-- A valid trace ID has 32 digits. -/
theorem length_of_isValidTraceID {s : List Char} (h : isValidTraceID s) : s.length = 32 :=
  (isValidID_iff.1 h).1

/-- A valid span ID has 16 digits. -/
theorem length_of_isValidSpanID {s : List Char} (h : isValidSpanID s) : s.length = 16 :=
  (isValidID_iff.1 h).1

/-! ## Splitting at `-` -/

/-- A field without `-`, then `-`: the split takes the field and goes on after the `-`. -/
theorem splitOn_field {xs : List Char} (h : '-' ∉ xs) (rest : List Char) :
    (xs ++ '-' :: rest).splitOn '-' = xs :: rest.splitOn '-' :=
  List.splitOnP_first _ xs (fun x hx hd => h (by simpa using (beq_iff_eq.1 hd) ▸ hx)) '-' (by simp) rest

/-- A field without `-` alone is split into itself. -/
theorem splitOn_last {xs : List Char} (h : '-' ∉ xs) : xs.splitOn '-' = [xs] :=
  List.splitOnP_eq_single _ xs fun x hx hd => h (by simpa using (beq_iff_eq.1 hd) ▸ hx)

/-- The fields of a header are joined by `-`: the last field that the parser checks ends the header,
or a `-` follows it. -/
theorem eq_of_splitOn {s ver tid pid fl : List Char} {more : List (List Char)}
    (h : s.splitOn '-' = ver :: tid :: pid :: fl :: more) :
    ∃ rest, s = ver ++ '-' :: tid ++ '-' :: pid ++ '-' :: fl ++ rest ∧
      (rest = [] ∨ rest.head? = some '-') := by
  have hs := List.intercalate_splitOn s '-'
  rw [h] at hs
  cases more with
  | nil => exact ⟨[], by rw [← hs]; simp [List.intercalate], .inl rfl⟩
  | cons m more =>
    exact ⟨'-' :: [ '-' ].intercalate (m :: more), by rw [← hs]; simp [List.intercalate], .inr rfl⟩

/-- Fields without `-` joined by `-`, followed by nothing or by a `-` and anything: the split gives
the four fields first. -/
theorem splitOn_of_eq {ver tid pid fl rest : List Char} (hver : '-' ∉ ver) (htid : '-' ∉ tid)
    (hpid : '-' ∉ pid) (hfl : '-' ∉ fl) (hrest : rest = [] ∨ rest.head? = some '-') :
    ∃ more, (ver ++ '-' :: tid ++ '-' :: pid ++ '-' :: fl ++ rest).splitOn '-' =
      ver :: tid :: pid :: fl :: more := by
  simp only [List.append_assoc, List.cons_append]
  rw [splitOn_field hver, splitOn_field htid, splitOn_field hpid]
  rcases hrest with rfl | hrest
  · exact ⟨[], by rw [List.append_nil, splitOn_last hfl]⟩
  · rcases rest with _ | ⟨c, r⟩
    · cases hrest
    · obtain rfl : c = '-' := by simpa using hrest
      exact ⟨_, by rw [splitOn_field hfl r]⟩

/-! ## What the parser accepts -/

/-- A header of 55 to 200 bytes made of `00-`, a valid trace ID, `-`, a valid parent ID, `-`, two
lowercase hex digits and nothing or a `-` and anything, parses to its IDs and flags. -/
theorem parseTraceParent_of_fields {t p fl rest : List Char}
    (h55 : 55 ≤ ("00-".toList ++ t ++ '-' :: p ++ '-' :: fl ++ rest).length)
    (h200 : ("00-".toList ++ t ++ '-' :: p ++ '-' :: fl ++ rest).length ≤ 200)
    (ht : isValidTraceID t) (hp : isValidSpanID p) (hfl : fl.length = 2) (hflhex : isLowerHex fl)
    (hrest : rest = [] ∨ rest.head? = some '-') :
    parseTraceParent ("00-".toList ++ t ++ '-' :: p ++ '-' :: fl ++ rest) =
      some (t, p, if fl = "00".toList then 0x00 else 0x01) := by
  obtain ⟨more, hs⟩ := splitOn_of_eq (by decide : '-' ∉ "00".toList)
    (dash_not_mem_of_isLowerHex (isLowerHex_of_isValidTraceID ht))
    (dash_not_mem_of_isLowerHex (isLowerHex_of_isValidSpanID hp)) (dash_not_mem_of_isLowerHex hflhex) hrest
  have hnest : "00-".toList ++ t ++ '-' :: p ++ '-' :: fl ++ rest =
      "00".toList ++ '-' :: t ++ '-' :: p ++ '-' :: fl ++ rest := rfl
  have hcheck : ¬ (("00".toList).length ≠ 2 ∨ "00".toList ≠ "00".toList) := by decide
  have hvalid : ¬ ((!isValidTraceID t || !isValidSpanID p || fl.length ≠ 2 || !isLowerHex fl) = true) := by
    simp [ht, hp, hfl, hflhex]
  unfold parseTraceParent
  rw [if_neg (by omega), hnest, hs]
  simp only [if_neg hcheck, if_neg hvalid]

/-- `parseTraceParent` accepts exactly the headers of 55 to 200 bytes made of `00-`, a valid trace
ID, `-`, a valid parent ID, `-` and two lowercase hex digits, followed by nothing or by a `-` and
anything; the flags are `0x00` for `00` and `0x01` for the other digits. -/
theorem parseTraceParent_eq_some_iff (h t p : List Char) (f : UInt8) :
    parseTraceParent h = some (t, p, f) ↔
      55 ≤ h.length ∧ h.length ≤ 200 ∧ isValidTraceID t ∧ isValidSpanID p ∧
      ∃ fl rest, h = "00-".toList ++ t ++ '-' :: p ++ '-' :: fl ++ rest ∧ fl.length = 2 ∧
        isLowerHex fl ∧ (rest = [] ∨ rest.head? = some '-') ∧
        f = if fl = "00".toList then 0x00 else 0x01 := by
  constructor
  · intro hp
    unfold parseTraceParent at hp
    by_cases hlen : h.length < 55 ∨ h.length > 200
    · simp [hlen] at hp
    rw [if_neg hlen] at hp
    split at hp
    · rename_i ver tid pid fl more hsplit
      by_cases hver : ver.length ≠ 2 ∨ ver ≠ "00".toList
      · rw [if_pos hver] at hp; cases hp
      by_cases hvalid : (!isValidTraceID tid || !isValidSpanID pid || fl.length ≠ 2 || !isLowerHex fl) = true
      · rw [if_neg hver, if_pos hvalid] at hp; cases hp
      rw [if_neg hver, if_neg hvalid, Option.some.injEq, Prod.mk.injEq, Prod.mk.injEq] at hp
      obtain ⟨rfl, rfl, rfl⟩ := hp
      simp only [Bool.or_eq_true, Bool.not_eq_true', decide_eq_true_eq, not_or, Bool.not_eq_false,
        ne_eq, not_not] at hvalid hver
      obtain ⟨rest, hh, hrest⟩ := eq_of_splitOn hsplit
      exact ⟨by omega, by omega, hvalid.1.1.1, hvalid.1.1.2, fl, rest, by rw [hh, hver.2]; rfl,
        hvalid.1.2, hvalid.2, hrest, rfl⟩
    · simp at hp
  · rintro ⟨h55, h200, ht, hp, fl, rest, rfl, hfl, hflhex, hrest, rfl⟩
    exact parseTraceParent_of_fields h55 h200 ht hp hfl hflhex hrest

/-- `formatTraceParent` of a valid trace ID, a valid span ID and the flag `0x00` or `0x01` parses back
to its parts. -/
theorem parseTraceParent_format {t s : List Char} {f : UInt8} (ht : isValidTraceID t)
    (hs : isValidSpanID s) (hf : f = 0x00 ∨ f = 0x01) :
    parseTraceParent (formatTraceParent t s f) = some (t, s, f) := by
  have hlen : (formatTraceParent t s f).length = 55 := by
    rcases hf with rfl | rfl <;>
      simp [formatTraceParent, length_of_isValidTraceID ht, length_of_isValidSpanID hs]
  obtain ⟨fl, hfl, hhex, hf', hform⟩ : ∃ fl : List Char, fl.length = 2 ∧ isLowerHex fl ∧
      (f = if fl = "00".toList then 0x00 else 0x01) ∧
      formatTraceParent t s f = "00-".toList ++ t ++ '-' :: s ++ '-' :: fl ++ [] := by
    rcases hf with rfl | rfl
    · exact ⟨"00".toList, rfl, by decide, rfl, by simp [formatTraceParent]⟩
    · exact ⟨"01".toList, rfl, by decide, rfl, by simp [formatTraceParent]⟩
  rw [hform] at hlen ⊢
  rw [hf']
  exact parseTraceParent_of_fields (by omega) (by omega) ht hs hfl hhex (.inl rfl)

/-- A header with a fifth field: the parser accepts it. -/
def headerWithExtraField : List Char :=
  "00-4bf92f3577b34da6a3ce929d0e0e4736-00f067aa0ba902b7-01-x".toList

/-- `parseTraceParent` accepts `00-4bf92f3577b34da6a3ce929d0e0e4736-00f067aa0ba902b7-01-x`, a header of
57 bytes with a fifth field. -/
theorem parseTraceParent_accepts_extra_field :
    headerWithExtraField.length = 57 ∧
      parseTraceParent headerWithExtraField =
        some ("4bf92f3577b34da6a3ce929d0e0e4736".toList, "00f067aa0ba902b7".toList, 0x01) := by
  decide

end ApiToolkit.Trace
