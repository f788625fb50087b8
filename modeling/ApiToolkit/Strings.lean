import Mathlib.Data.List.Basic

/-!
# Go's string functions

The functions of Go's `strings`, `strconv` and `unicode` packages that more than one package of the
toolkit calls, on Lean strings: the migrator reads versions with `strconv.ParseInt` and trims its
scripts with `strings.TrimSpace`, the list endpoints read numbers with `strconv.Atoi` and trim
the query's keys and values, the environment adapter and the JSON middleware test texts with
`strings.Contains` and `strings.HasSuffix`, and the validator and the rate limiter's `clientIP`
take the first part of `strings.Split`.
-/

namespace ApiToolkit

/-- An ASCII digit: `\d` of Go's `regexp`, and the digits `strconv` reads. -/
def isDigit (c : Char) : Bool := '0' ≤ c && c ≤ '9'

/-- The value of a string of decimal digits. -/
def digitsValue (ds : List Char) : Nat := ds.foldl (fun n c => 10 * n + (c.toNat - '0'.toNat)) 0

/-- `unicode.IsSpace`: `\t`, `\n`, `\v`, `\f`, `\r`, space, U+0085 and U+00A0, and the other
characters of Unicode's White_Space property. -/
def isSpace (c : Char) : Bool :=
  match c.toNat with
  | 0x09 | 0x0A | 0x0B | 0x0C | 0x0D | 0x20 | 0x85 | 0xA0 | 0x1680 | 0x2028 | 0x2029 | 0x202F
  | 0x205F | 0x3000 => true
  | n => 0x2000 ≤ n && n ≤ 0x200A

/-- `strings.TrimSpace`. -/
def trimSpace (s : String) : String :=
  String.mk ((s.toList.dropWhile isSpace).reverse.dropWhile isSpace).reverse

/-- Whether `sub` occurs in `s`, from the first position on. -/
def containsChars (sub : List Char) : List Char → Bool
  | [] => sub.isPrefixOf []
  | c :: cs => sub.isPrefixOf (c :: cs) || containsChars sub cs

/-- `strings.Contains(s, substr)`. -/
def Contains (s substr : String) : Bool := containsChars substr.toList s.toList

/-- `strings.HasSuffix(s, suffix)`. -/
def HasSuffix (s suffix : String) : Bool := suffix.toList.isSuffixOf s.toList

/-- `strings.Split(s, sep)[0]` for a one-character `sep`: the text before the first `sep`, all of it
where there is none. -/
def splitFirst (s : String) (sep : Char) : String := String.mk (s.toList.takeWhile (· != sep))

/-- The part before the first `sep` of a text split as a part without `sep`, then nothing or `sep`
and the rest, is that part. -/
theorem splitFirst_eq_of_append {s name : String} {sep : Char} {rest : List Char}
    (hs : s.toList = name.toList ++ rest) (hname : sep ∉ name.toList) (hrest : rest = [] ∨ rest.head? = some sep) :
    splitFirst s sep = name := by
  have hpre : ∀ c ∈ name.toList, (c != sep) = true := fun c hc => bne_iff_ne.2 fun he => hname (he ▸ hc)
  have htail : rest.takeWhile (· != sep) = [] := by
    rcases hrest with rfl | h
    · rfl
    · cases rest with
      | nil => rfl
      | cons c r =>
        simp only [List.head?_cons, Option.some.injEq] at h
        simp [List.takeWhile_cons, h]
  unfold splitFirst
  rw [hs, List.takeWhile_append_of_pos hpre, htail, List.append_nil]
  rfl

/-- A text without `sep` is its own first part. -/
theorem splitFirst_of_not_mem {s : String} {sep : Char} (h : sep ∉ s.toList) : splitFirst s sep = s := by
  unfold splitFirst
  rw [List.takeWhile_eq_self_iff.2 fun c hc => bne_iff_ne.2 fun (he : c = sep) => h (he ▸ hc)]
  rfl

end ApiToolkit
