import ApiToolkit.Itoa
import ApiToolkit.Endpoints.List
import ApiToolkit.Migrator.FileName

/-!
# Go's decimal parsers

The environment adapter (`src/envvar/envvar.go`), the list query and the migrator read numbers with
Go's `strconv.ParseUint`, `strconv.ParseInt` and `strconv.Atoi`, in base ten as they call them.
`ParseUint` runs one loop over the digits (`parseUintLoop`). It stops at the first byte that is not a
digit (a syntax error) and at the first step past `maxVal` (a range error). `ParseInt` strips one
sign, hands the rest to `ParseUint` and checks the signed range. `Atoi` on fewer than nineteen bytes
takes a fast path that accumulates in a wrapping `int` with no range check, and otherwise calls
`ParseInt(s, 10, 0)`. Go's `int` is 64 bits wide. The value a call returns next to an error is left
out: every caller here drops it.

`ParseUint` accepts exactly the nonempty digit strings below `2^bitSize` (`ParseUint_eq_ok_iff`).
`ParseInt` reads the signed decimal value that the list query's `Atoi` and the migrator's
`ParseInt` model (`ParseInt_toInt`, `ParseInt_digits`). The fast path of `Atoi` gives what the slow
path gives (`Atoi_eq_ParseInt`), since eighteen digits never wrap.
-/

namespace ApiToolkit.Strconv

/-- The kind of a `*strconv.NumError`: `ErrSyntax`, `ErrRange`, or the error of a bad `bitSize`. -/
inductive NumError
  | errSyntax
  | errRange
  | errBitSize
  deriving DecidableEq, Repr

/-- The decimal value of the digits `cs` read after the value `acc`. -/
def valueFrom (acc : Nat) (cs : List Char) : Nat :=
  cs.foldl (fun n c => 10 * n + (c.toNat - '0'.toNat)) acc

/-- `cutoff`, the smallest `uint64` whose product with ten overflows: `maxUint64/10 + 1`. -/
def cutoff10 : Nat := (2 ^ 64 - 1) / 10 + 1

/-- The loop of `ParseUint` in base ten, from the value `n`: a syntax error at a byte that is not a
digit, a range error where `n * 10` or `n * 10 + d` would pass `maxVal`. -/
def parseUintLoop (maxVal : Nat) : Nat → List Char → Except NumError Nat
  | n, [] => .ok n
  | n, c :: cs =>
    if isDigit c then
      if cutoff10 ≤ n then .error .errRange
      else
        let n := n * 10 % 2 ^ 64
        let n1 := (n + (c.toNat - '0'.toNat)) % 2 ^ 64
        if n1 < n ∨ maxVal < n1 then .error .errRange else parseUintLoop maxVal n1 cs
    else .error .errSyntax

/-- `strconv.ParseUint(s, 10, bitSize)`. -/
def ParseUint (s : String) (bitSize : Nat) : Except NumError Nat :=
  if s = "" then .error .errSyntax
  else
    let bitSize := if bitSize = 0 then 64 else bitSize
    if 64 < bitSize then .error .errBitSize
    else parseUintLoop (2 ^ bitSize - 1) 0 s.toList

/-- The sign that `ParseInt` and `Atoi` pick off: a leading `+` or `-`, and the rest. -/
def signed : List Char → Bool × List Char
  | '+' :: r => (false, r)
  | '-' :: r => (true, r)
  | r => (false, r)

/-- `strconv.ParseInt(s, 10, bitSize)`: a range error of `ParseUint` goes on with `maxVal`, which
the signed range check then rejects. -/
def ParseInt (s : String) (bitSize : Nat) : Except NumError (BitVec 64) :=
  if s = "" then .error .errSyntax
  else
    let (neg, body) := signed s.toList
    let r := ParseUint (String.mk body) bitSize
    match r with
    | .error .errSyntax => .error .errSyntax
    | .error .errBitSize => .error .errBitSize
    | _ =>
      let bitSize := if bitSize = 0 then 64 else bitSize
      let un := match r with
        | .ok u => u
        | .error _ => 2 ^ bitSize - 1
      let cutoff := 2 ^ (bitSize - 1)
      if !neg ∧ cutoff ≤ un then .error .errRange
      else if neg ∧ cutoff < un then .error .errRange
      else
        let n := BitVec.ofNat 64 un
        .ok (if neg then -n else n)

/-- The fast loop of `Atoi`, `n = n*10 + int(ch)` in a wrapping `int`; none at a byte that is not
a digit. -/
def atoiLoop (n : BitVec 64) : List Char → Option (BitVec 64)
  | [] => some n
  | c :: cs => if isDigit c then atoiLoop (n * 10 + BitVec.ofNat 64 (c.toNat - '0'.toNat)) cs else none

/-- `strconv.Atoi`: the fast path below nineteen bytes, `ParseInt(s, 10, 0)` otherwise. -/
def Atoi (s : String) : Except NumError (BitVec 64) :=
  let sLen := s.utf8ByteSize
  if 0 < sLen ∧ sLen < 19 then
    let (neg, body) := signed s.toList
    if body = [] then .error .errSyntax
    else
      match atoiLoop 0 body with
      | none => .error .errSyntax
      | some n => .ok (if neg then -n else n)
  else ParseInt s 0

/-- The decimal reading of a sign and its digits that the list query's `Atoi` makes: none unless
the digits are nonempty, decimal, and the signed value fits a 64-bit `int`. -/
def signedValue (neg : Bool) (ds : List Char) : Option Int :=
  if ds = [] ∨ ds.all isDigit = false then none
  else
    let n : Int := if neg then -(digitsValue ds : Int) else digitsValue ds
    if -2 ^ 63 ≤ n ∧ n < 2 ^ 63 then some n else none

/-- An unsigned decimal of `bits` bits: nonempty digits whose value is below `2^bits`. -/
def unsignedValue (bits : Nat) (s : String) : Option Nat :=
  if s ≠ "" ∧ s.toList.all isDigit ∧ digitsValue s.toList < 2 ^ bits then some (digitsValue s.toList)
  else none

/-! ## The digit loop -/

@[simp]
theorem valueFrom_nil (acc : Nat) : valueFrom acc [] = acc := rfl

@[simp]
theorem valueFrom_cons (acc : Nat) (c : Char) (cs : List Char) :
    valueFrom acc (c :: cs) = valueFrom (10 * acc + (c.toNat - '0'.toNat)) cs := rfl

/-- Reading more digits never lowers the value. -/
theorem le_valueFrom : ∀ (acc : Nat) (cs : List Char), acc ≤ valueFrom acc cs
  | _, [] => le_rfl
  | acc, c :: cs => le_trans (by omega) (le_valueFrom (10 * acc + (c.toNat - '0'.toNat)) cs)

/-- A digit's value is at most nine. -/
theorem digit_sub_le {c : Char} (h : isDigit c) : c.toNat - '0'.toNat ≤ 9 := by
  have := Migrator.isDigit_toNat h
  have h0 : '0'.toNat = 48 := rfl
  omega

/-- The loop succeeds exactly on digits whose value stays within `maxVal`, with that value. -/
theorem parseUintLoop_eq_ok_iff {maxVal : Nat} (hmax : maxVal < 2 ^ 64) :
    ∀ (n : Nat) (cs : List Char) (v : Nat), n ≤ maxVal →
      (parseUintLoop maxVal n cs = .ok v ↔
        (∀ c ∈ cs, isDigit c) ∧ valueFrom n cs ≤ maxVal ∧ v = valueFrom n cs)
  | n, [], v, hn => by
    simp only [parseUintLoop, valueFrom_nil, Except.ok.injEq]
    exact ⟨fun h => ⟨by simp, hn, h.symm⟩, fun h => h.2.2.symm⟩
  | n, c :: cs, v, hn => by
    have hge := le_valueFrom (10 * n + (c.toNat - '0'.toNat)) cs
    by_cases hc : isDigit c
    · have hd := digit_sub_le hc
      by_cases hcut : cutoff10 ≤ n
      · -- ten times `n` is past `uint64`
        have : cutoff10 = 1844674407370955162 := rfl
        rw [parseUintLoop, if_pos hc, if_pos hcut, valueFrom_cons]
        constructor
        · intro h; cases h
        · rintro ⟨-, hle, -⟩; omega
      · have h10 : n * 10 % 2 ^ 64 = n * 10 := Nat.mod_eq_of_lt (by unfold cutoff10 at hcut; omega)
        simp only [parseUintLoop, hc, if_true, if_neg hcut, h10, valueFrom_cons, List.forall_mem_cons]
        by_cases hwrap : n * 10 + (c.toNat - '0'.toNat) < 2 ^ 64
        · rw [Nat.mod_eq_of_lt hwrap]
          by_cases hbig : maxVal < n * 10 + (c.toNat - '0'.toNat)
          · rw [if_pos (.inr hbig)]
            constructor
            · intro h; cases h
            · rintro ⟨-, hle, -⟩; omega
          · rw [if_neg (by omega), parseUintLoop_eq_ok_iff hmax _ cs v (by omega), Nat.mul_comm n 10]
            simp [hc]
        · -- the sum wraps, and the wrapped value is below `n * 10`
          rw [if_pos (.inl (by omega))]
          constructor
          · intro h; cases h
          · rintro ⟨-, hle, -⟩; omega
    · simp [parseUintLoop, hc]

/-- `ParseUint(s, 10, bitSize)` accepts exactly the nonempty decimal strings below `2^bitSize`,
with their value. -/
theorem ParseUint_eq_ok_iff {bitSize : Nat} (hb : bitSize ≤ 64) (s : String) (v : Nat) :
    ParseUint s bitSize = .ok v ↔ s ≠ "" ∧ (∀ c ∈ s.toList, isDigit c) ∧
      digitsValue s.toList < 2 ^ (if bitSize = 0 then 64 else bitSize) ∧ v = digitsValue s.toList := by
  have hpow : 2 ^ (if bitSize = 0 then 64 else bitSize) ≤ 2 ^ 64 :=
    Nat.pow_le_pow_right (by omega) (by split_ifs <;> omega)
  have hpos : 0 < 2 ^ (if bitSize = 0 then 64 else bitSize) := Nat.pos_pow_of_pos _ (by omega)
  unfold ParseUint
  by_cases hs : s = ""
  · simp [hs]
  rw [if_neg hs, if_neg (by split_ifs <;> omega), parseUintLoop_eq_ok_iff (by omega) 0 _ v (Nat.zero_le _)]
  simp only [ne_eq, hs, not_false_eq_true, true_and]
  show _ ∧ digitsValue s.toList ≤ _ ∧ _ ↔ _
  constructor
  · rintro ⟨h1, h2, h3⟩; exact ⟨h1, by omega, h3⟩
  · rintro ⟨h1, h2, h3⟩; exact ⟨h1, by omega, h3⟩

/-- For a bit size from one to sixty-four, `ParseUint` succeeds on the unsigned decimals of that
size, with their value, and fails on everything else. -/
theorem ParseUint_toOption {bits : Nat} (h0 : 0 < bits) (hb : bits ≤ 64) (s : String) :
    (ParseUint s bits).toOption = unsignedValue bits s := by
  have hsize : (if bits = 0 then 64 else bits) = bits := if_neg (by omega)
  unfold unsignedValue
  cases h : ParseUint s bits with
  | ok u =>
    obtain ⟨hs, hd, hlt, rfl⟩ := (ParseUint_eq_ok_iff hb s u).1 h
    rw [hsize] at hlt
    rw [if_pos ⟨hs, List.all_eq_true.2 hd, hlt⟩]
    rfl
  | error e =>
    rw [if_neg]
    · rfl
    rintro ⟨hs, hd, hlt⟩
    have := (ParseUint_eq_ok_iff hb s _).2 ⟨hs, List.all_eq_true.1 hd, by rw [hsize]; exact hlt, rfl⟩
    rw [h] at this
    cases this

example : ParseUint "18446744073709551615" 64 = .ok (2 ^ 64 - 1) := rfl

example : ParseUint "18446744073709551616" 64 = .error .errRange := rfl

/-! ## `ParseInt` reads the signed decimal value -/

/-- The string of a character list is empty exactly when the list is. -/
theorem string_mk_eq_empty {l : List Char} : String.mk l = "" ↔ l = [] :=
  ⟨fun h => congrArg String.data h, fun h => h ▸ rfl⟩

/-- A sign and a value of at most `2^63` (below it when there is no sign) is an `int64` of that
value. -/
theorem toInt_signed (neg : Bool) {u : Nat} (hu : if neg then u ≤ 2 ^ 63 else u < 2 ^ 63) :
    (if neg then -BitVec.ofNat 64 u else BitVec.ofNat 64 u).toInt = if neg then -(u : Int) else u := by
  cases neg <;> simp only [if_true, if_false, Bool.false_eq_true] at hu ⊢ <;>
    simp only [BitVec.toInt_eq_toNat_cond, BitVec.toNat_neg, BitVec.toNat_ofNat] <;> split_ifs <;> omega

/-- The range check that ends `ParseInt` at 64 bits keeps the signed value of an unsigned `un` below
`2^64` exactly where it fits an `int64`. -/
theorem rangeCheck_toInt (neg : Bool) (un : Nat) (hun : un < 2 ^ 64) :
    (if (!neg) = true ∧ 2 ^ 63 ≤ un then (Except.error .errRange : Except NumError (BitVec 64))
      else if neg = true ∧ 2 ^ 63 < un then .error .errRange
      else .ok (if neg then -BitVec.ofNat 64 un else BitVec.ofNat 64 un)).toOption.map BitVec.toInt =
      let n : Int := if neg then -(un : Int) else un
      if -2 ^ 63 ≤ n ∧ n < 2 ^ 63 then some n else none := by
  have hfit : (if neg then un ≤ 2 ^ 63 else un < 2 ^ 63) ↔
      -2 ^ 63 ≤ (if neg then -(un : Int) else un) ∧ (if neg then -(un : Int) else un) < 2 ^ 63 := by
    cases neg <;> simp only [if_true, if_false, Bool.false_eq_true] <;> omega
  have hcheck : ¬((!neg) = true ∧ 2 ^ 63 ≤ un) ∧ ¬(neg = true ∧ 2 ^ 63 < un) ↔
      (if neg then un ≤ 2 ^ 63 else un < 2 ^ 63) := by
    cases neg <;> simp
  dsimp only
  by_cases h : (if neg then un ≤ 2 ^ 63 else un < 2 ^ 63)
  · obtain ⟨h1, h2⟩ := hcheck.2 h
    rw [if_neg h1, if_neg h2, if_pos (hfit.1 h)]
    exact congrArg some (toInt_signed neg h)
  · rw [if_neg (mt hfit.2 h)]
    by_cases h1 : (!neg) = true ∧ 2 ^ 63 ≤ un
    · rw [if_pos h1]; rfl
    · rw [if_neg h1, if_pos (not_not.1 fun h2 => h (hcheck.1 ⟨h1, h2⟩))]; rfl

/-- `ParseInt(s, 10, 64)` succeeds exactly when the signed decimal reading of `s` does, with that
value. -/
theorem ParseInt_toInt (s : String) :
    (ParseInt s 64).toOption.map BitVec.toInt = signedValue (signed s.toList).1 (signed s.toList).2 := by
  unfold ParseInt
  by_cases hs : s = ""
  · subst hs; rfl
  rw [if_neg hs]
  generalize signed s.toList = p
  obtain ⟨neg, body⟩ := p
  dsimp only
  by_cases hd : body ≠ [] ∧ (∀ c ∈ body, isDigit c) ∧ digitsValue body < 2 ^ 64
  · have hok : ParseUint (String.mk body) 64 = .ok (digitsValue body) :=
      (ParseUint_eq_ok_iff le_rfl _ _).2 ⟨fun h => hd.1 (string_mk_eq_empty.1 h), hd.2.1, hd.2.2, rfl⟩
    rw [hok]
    exact (rangeCheck_toInt neg _ hd.2.2).trans
      (by simp only [signedValue, hd.1, List.all_eq_true.2 hd.2.1, false_or, if_false, Bool.true_eq_false])
  · -- the digits are missing, not decimal, or past `uint64`: both sides fail
    obtain ⟨e, he⟩ : ∃ e, ParseUint (String.mk body) 64 = .error e := by
      cases h : ParseUint (String.mk body) 64 with
      | ok u =>
        obtain ⟨hne, hdig, hlt, -⟩ := (ParseUint_eq_ok_iff le_rfl _ _).1 h
        exact absurd ⟨fun hb => hne (string_mk_eq_empty.2 hb), hdig, hlt⟩ hd
      | error e => exact ⟨e, rfl⟩
    have hnone : signedValue neg body = none := by
      unfold signedValue
      by_cases hb : body = [] ∨ body.all isDigit = false
      · rw [if_pos hb]
      rw [if_neg hb]
      have hbig : 2 ^ 64 ≤ digitsValue body := by
        by_contra hlt
        refine hd ⟨fun h => hb (.inl h), fun c hc => ?_, by omega⟩
        by_contra hc'
        exact hb (.inr (List.all_eq_false.2 ⟨c, hc, hc'⟩))
      exact if_neg (by cases neg <;> simp only [if_true, if_false, Bool.false_eq_true] <;> omega)
    rw [he, hnone]
    cases e
    · rfl
    · exact (rangeCheck_toInt neg (2 ^ 64 - 1) (by omega)).trans
        (if_neg (by cases neg <;> simp only [if_true, if_false, Bool.false_eq_true] <;> omega))
    · rfl

/-- A bit size of zero is the size of `int`, 64 bits. -/
theorem ParseInt_zero (s : String) : ParseInt s 0 = ParseInt s 64 := rfl

/-- The list query's `Atoi` is the signed decimal reading after `signed` picks off the sign. -/
theorem endpointsAtoi_eq_signedValue (s : String) :
    Endpoints.Atoi s = signedValue (signed s.toList).1 (signed s.toList).2 := by
  unfold Endpoints.Atoi
  rcases s.toList with _ | ⟨c, r⟩
  · rfl
  by_cases h1 : c = '-'
  · subst h1; rfl
  by_cases h2 : c = '+'
  · subst h2; rfl
  have hs : signed (c :: r) = (false, c :: r) := by unfold signed; split <;> simp_all
  rw [hs]
  split
  next neg ds heq =>
    -- the match of the list query's `Atoi` picks no sign off `c :: r` either
    obtain ⟨rfl, rfl⟩ : neg = false ∧ ds = c :: r := by split at heq <;> simp_all
    rfl

/-- A list that starts with a digit has no sign to pick off. -/
theorem signed_of_digit {c : Char} (h : isDigit c) (l : List Char) : signed (c :: l) = (false, c :: l) := by
  have hp : c ≠ '+' := by rintro rfl; exact absurd h (by decide)
  have hm : c ≠ '-' := by rintro rfl; exact absurd h (by decide)
  unfold signed
  split <;> simp_all

/-- On the nonempty digit group of a migration's file name, `strconv.ParseInt(s, 10, 64)` is the
migrator's `ParseInt`. -/
theorem ParseInt_digits {ds : List Char} (hne : ds ≠ []) (hd : ∀ c ∈ ds, isDigit c) :
    (ParseInt (String.mk ds) 64).toOption.map BitVec.toInt = Migrator.ParseInt ds := by
  obtain ⟨c, l, rfl⟩ := List.exists_cons_of_ne_nil hne
  rw [ParseInt_toInt, show (String.mk (c :: l)).toList = c :: l from rfl,
    signed_of_digit (hd c (List.mem_cons_self _ _))]
  simp only [signedValue, Migrator.ParseInt, List.all_eq_true.2 hd, reduceCtorEq, false_or,
    Bool.true_eq_false, if_false, Bool.false_eq_true]
  by_cases h : digitsValue (c :: l) < 2 ^ 63
  · rw [if_pos (by omega), if_pos h]
  · rw [if_neg (by omega), if_neg h]

/-- The group `"0042"` of a file name reads as `42` either way. -/
theorem ParseInt_digits_0042 :
    ((['0', '0', '4', '2'] ≠ [] ∧ ∀ c ∈ ['0', '0', '4', '2'], isDigit c) ∧
      (ParseInt (String.mk ['0', '0', '4', '2']) 64).toOption.map BitVec.toInt =
        Migrator.ParseInt ['0', '0', '4', '2']) :=
  ⟨⟨by decide, by decide⟩, ParseInt_digits (by decide) (by decide)⟩

/-! ## The fast path of `Atoi` -/

/-- On digits whose value cannot pass `2^64`, the loop of `ParseUint(s, 10, 64)` never reports a
range error. -/
theorem parseUintLoop_short : ∀ (cs : List Char) (n : Nat), (n + 1) * 10 ^ cs.length ≤ 2 ^ 64 →
    parseUintLoop (2 ^ 64 - 1) n cs = if cs.all isDigit then .ok (valueFrom n cs) else .error .errSyntax
  | [], n, _ => rfl
  | c :: cs, n, h => by
    have hpow : (n + 1) * 10 * 10 ^ cs.length ≤ 2 ^ 64 := by
      rw [Nat.mul_assoc, ← Nat.pow_succ']; exact h
    have h10 : (n + 1) * 10 ≤ 2 ^ 64 :=
      le_trans (Nat.le_mul_of_pos_right _ (Nat.pos_pow_of_pos _ (by omega))) hpow
    by_cases hc : isDigit c
    · have hd := digit_sub_le hc
      have hcut : ¬cutoff10 ≤ n := by unfold cutoff10; omega
      have hm : n * 10 % 2 ^ 64 = n * 10 := Nat.mod_eq_of_lt (by omega)
      have hs : (n * 10 + (c.toNat - '0'.toNat)) % 2 ^ 64 = n * 10 + (c.toNat - '0'.toNat) :=
        Nat.mod_eq_of_lt (by omega)
      rw [parseUintLoop, if_pos hc, if_neg hcut]
      simp only [hm, hs]
      rw [if_neg (by omega), parseUintLoop_short cs _ (le_trans (Nat.mul_le_mul_right _ (by omega)) hpow)]
      simp [hc, Nat.mul_comm n 10]
    · simp [parseUintLoop, hc]

/-- The wrapping loop of `Atoi` computes the value modulo `2^64`. -/
theorem atoiLoop_ofNat : ∀ (cs : List Char) (a : Nat),
    atoiLoop (BitVec.ofNat 64 a) cs = if cs.all isDigit then some (BitVec.ofNat 64 (valueFrom a cs)) else none
  | [], _ => rfl
  | c :: cs, a => by
    by_cases hc : isDigit c
    · have hstep : BitVec.ofNat 64 a * 10 + BitVec.ofNat 64 (c.toNat - '0'.toNat) =
          BitVec.ofNat 64 (10 * a + (c.toNat - '0'.toNat)) := by
        apply BitVec.eq_of_toNat_eq
        simp only [BitVec.toNat_add, BitVec.toNat_mul, BitVec.toNat_ofNat]
        simp [Nat.add_mod, Nat.mul_mod, Nat.mul_comm]
      rw [atoiLoop, if_pos hc, hstep, atoiLoop_ofNat cs]
      simp [hc]
    · simp [atoiLoop, hc]

/-- A string has at most as many characters as bytes. -/
theorem length_le_utf8ByteSize (s : String) : s.length ≤ s.utf8ByteSize := by
  obtain ⟨l⟩ := s
  show l.length ≤ String.utf8ByteSize.go l
  induction l with
  | nil => exact le_rfl
  | cons c l ih =>
    simp only [List.length_cons, String.utf8ByteSize.go]
    have := Char.utf8Size_pos c
    omega

/-- Picking off the sign never lengthens the list. -/
theorem signed_length (l : List Char) : (signed l).2.length ≤ l.length := by
  unfold signed
  split <;> simp

/-- The fast path of `Atoi` returns what `ParseInt(s, 10, 0)` returns: fewer than nineteen bytes
hold at most eighteen digits, whose value neither wraps the `int` nor leaves its range. -/
theorem Atoi_eq_ParseInt (s : String) : Atoi s = ParseInt s 0 := by
  unfold Atoi
  by_cases hfast : 0 < s.utf8ByteSize ∧ s.utf8ByteSize < 19
  swap
  · rw [if_neg hfast]
  rw [if_pos hfast, ParseInt_zero]
  have hs : s ≠ "" := by rintro rfl; exact absurd hfast.1 (by decide)
  have hlen : (signed s.toList).2.length < 19 :=
    lt_of_le_of_lt (signed_length _) (lt_of_le_of_lt (length_le_utf8ByteSize s) hfast.2)
  unfold ParseInt
  rw [if_neg hs]
  generalize signed s.toList = p at hlen
  obtain ⟨neg, body⟩ := p
  dsimp only at hlen ⊢
  by_cases hb : body = []
  · subst hb; rfl
  rw [if_neg hb]
  have hne : String.mk body ≠ "" := fun h => hb (string_mk_eq_empty.1 h)
  have hpow : (0 + 1) * 10 ^ body.length ≤ 2 ^ 64 :=
    calc (0 + 1) * 10 ^ body.length = 10 ^ body.length := by rw [Nat.zero_add, Nat.one_mul]
      _ ≤ 10 ^ 18 := Nat.pow_le_pow_right (by omega) (by omega)
      _ ≤ 2 ^ 64 := by decide
  have hloop : ParseUint (String.mk body) 64 =
      if body.all isDigit then .ok (valueFrom 0 body) else .error .errSyntax := by
    rw [ParseUint, if_neg hne]
    exact parseUintLoop_short body 0 hpow
  rw [hloop, show (0 : BitVec 64) = BitVec.ofNat 64 0 from rfl, atoiLoop_ofNat]
  by_cases hall : body.all isDigit
  · -- at most eighteen digits: below `2^63`, so both range checks pass
    have hlt : valueFrom 0 body < 10 ^ 18 := by
      have := Migrator.foldl_digits_lt body 0 (List.all_eq_true.1 hall)
      exact lt_of_lt_of_le this (by rw [Nat.zero_add, Nat.one_mul]; exact Nat.pow_le_pow_right (by omega) (by omega))
    simp only [hall, if_true]
    have h63 : valueFrom 0 body < 9223372036854775808 := lt_of_lt_of_le hlt (by decide)
    cases neg <;> simp <;> rw [if_neg (by omega)]
  · simp [hall]

/-- `ParseInt(s, 10, 64)` succeeds on the strings that the list query's `Atoi` reads, with the same
value. -/
theorem ParseInt_toInt_eq_atoi (s : String) :
    (ParseInt s 64).toOption.map BitVec.toInt = Endpoints.Atoi s := by
  rw [ParseInt_toInt, endpointsAtoi_eq_signedValue]

/-- Go's `Atoi` refines the list query's `Atoi`: it succeeds on the same strings, with the same
value. -/
theorem Atoi_toInt (s : String) : (Atoi s).toOption.map BitVec.toInt = Endpoints.Atoi s := by
  rw [Atoi_eq_ParseInt, ParseInt_zero, ParseInt_toInt_eq_atoi]

end ApiToolkit.Strconv
