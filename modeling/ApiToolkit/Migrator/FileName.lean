import ApiToolkit.Migrator.Basic
import ApiToolkit.Strings
import Mathlib.Algebra.Group.Nat.Basic

/-!
# File names

`parseFileName` and the parts of Go's library that the loader calls on names and contents:
`filepath.Base`, the match of `fileRe`, and `strconv.ParseInt`; `strings.TrimSpace` is in
`ApiToolkit/Strings.lean`.

`fileRe` is `^(\d{8,14})_([a-zA-Z0-9_\-]+)\.(up|down)\.sql$`. Its groups meet at characters that
the groups before them cannot hold: the digits end at the first `_`, and the name, whose class has
no `.`, ends at the first `.`. So a name matches in at most one way, and `fileRe.match` finds the
groups by scanning: the longest run of digits, then `_`, then the longest run of name characters,
then exactly `.up.sql` or `.down.sql`.
-/

namespace ApiToolkit.Migrator

/-- The class `[a-zA-Z0-9_\-]`. -/
def isNameChar (c : Char) : Bool := c.isAlphanum || c == '_' || c == '-'

/-- The groups of a match of `fileRe`: the version's digits, the name, and the direction. -/
def fileRe.match (s : String) : Option (List Char × List Char × Direction) :=
  let ds := s.toList.takeWhile isDigit
  match s.toList.dropWhile isDigit with
  | '_' :: rest =>
    let n := rest.takeWhile isNameChar
    let tail := rest.dropWhile isNameChar
    if 8 ≤ ds.length ∧ ds.length ≤ 14 ∧ n ≠ [] then
      if tail = ".up.sql".toList then some (ds, n, .up)
      else if tail = ".down.sql".toList then some (ds, n, .down)
      else none
    else none
  | _ => none

/-- `filepath.Base` on a slash-separated path: its last element, without trailing slashes; `"."`
for the empty path and `"/"` for a path of slashes only. -/
def filepathBase (path : String) : String :=
  if path = "" then "." else
    let p := (path.toList.reverse.dropWhile (· == '/')).reverse
    if p = [] then "/" else String.mk (p.reverse.takeWhile (· != '/')).reverse

/-- `strconv.ParseInt(s, 10, 64)` on a string of digits: its value, or the range error above
`2^63 - 1`. -/
def ParseInt (ds : List Char) : Option Int :=
  if digitsValue ds < 2 ^ 63 then some (digitsValue ds) else none

/-- `parseFileName`: the version, name and direction of a script's file name, with the SQL and
checksum still empty. -/
def parseFileName (name : String) : Option Migration :=
  match fileRe.match (filepathBase name) with
  | none => none
  | some (ds, n, d) =>
    match ParseInt ds with
    | none => none
    | some ver =>
      some { Version := ver, Name := String.mk n, Dir := d, File := name, SQL := "", Checksum := "" }

/-! ## The grammar of `fileRe` -/

/-- The text of the third group of `fileRe` for a direction. -/
def dirText : Direction → List Char
  | .up => "up".toList
  | .down => "down".toList

/-- `s` matches `^(\d{8,14})_([a-zA-Z0-9_\-]+)\.(up|down)\.sql$` with the groups `ds`, `n` and the
text of `dir`: the anchored pattern read as a language, each group by its class and its bounds. -/
structure FileReMatch (s ds n : List Char) (dir : Direction) : Prop where
  eq : s = ds ++ '_' :: n ++ '.' :: dirText dir ++ ".sql".toList
  digits : ∀ c ∈ ds, isDigit c
  min : 8 ≤ ds.length
  max : ds.length ≤ 14
  name_ne : n ≠ []
  name : ∀ c ∈ n, isNameChar c

/-- A digit is a byte from `'0'` to `'9'`. -/
theorem isDigit_toNat {c : Char} (h : isDigit c) : 48 ≤ c.toNat ∧ c.toNat ≤ 57 := by
  simp only [isDigit, Bool.and_eq_true, decide_eq_true_eq] at h
  exact ⟨h.1, h.2⟩

/-- The value of `k` digits after the value `acc` is below `(acc + 1) * 10^k`. -/
theorem foldl_digits_lt : ∀ (ds : List Char) (acc : Nat), (∀ c ∈ ds, isDigit c) →
    ds.foldl (fun n c => 10 * n + (c.toNat - '0'.toNat)) acc < (acc + 1) * 10 ^ ds.length
  | [], acc, _ => by simp
  | c :: cs, acc, h => by
    have hd : c.toNat - '0'.toNat ≤ 9 := by
      have h0 : '0'.toNat = 48 := rfl
      have := isDigit_toNat (h c (List.mem_cons_self _ _))
      omega
    have ih := foldl_digits_lt cs (10 * acc + (c.toNat - '0'.toNat)) fun d hd => h d (List.mem_cons_of_mem _ hd)
    calc _ < (10 * acc + (c.toNat - '0'.toNat) + 1) * 10 ^ cs.length := ih
      _ ≤ (acc + 1) * 10 * 10 ^ cs.length := Nat.mul_le_mul_right _ (by omega)
      _ = (acc + 1) * 10 ^ (c :: cs).length := by rw [List.length_cons, Nat.pow_succ, Nat.mul_assoc,
          Nat.mul_comm 10]

/-- At most fourteen digits are below `10^14`, and so within `strconv.ParseInt`'s range. -/
theorem ParseInt_of_digits {ds : List Char} (h : ∀ c ∈ ds, isDigit c) (hlen : ds.length ≤ 14) :
    digitsValue ds < 10 ^ 14 ∧ ParseInt ds = some (digitsValue ds : Int) := by
  have hlt : digitsValue ds < 10 ^ 14 :=
    calc digitsValue ds < (0 + 1) * 10 ^ ds.length := foldl_digits_lt ds 0 h
      _ ≤ 10 ^ 14 := by rw [Nat.zero_add, Nat.one_mul]; exact Nat.pow_le_pow_right (by omega) hlen
  exact ⟨hlt, if_pos (by omega)⟩

/-- A name of the grammar is matched with its groups. -/
theorem fileRe_match_of_fileReMatch {s : String} {ds n : List Char} {dir : Direction}
    (h : FileReMatch s.toList ds n dir) : fileRe.match s = some (ds, n, dir) := by
  have hsep : isDigit '_' = false := by decide
  have hdot : isNameChar '.' = false := by decide
  have hds : s.toList.takeWhile isDigit = ds ∧ s.toList.dropWhile isDigit = '_' :: (n ++ '.' :: dirText dir ++ ".sql".toList) := by
    rw [h.eq, List.append_assoc, List.cons_append]
    simp [List.takeWhile_append_of_pos h.digits, List.dropWhile_append_of_pos h.digits, hsep]
  have hn : (n ++ '.' :: dirText dir ++ ".sql".toList).takeWhile isNameChar = n ∧
      (n ++ '.' :: dirText dir ++ ".sql".toList).dropWhile isNameChar = '.' :: dirText dir ++ ".sql".toList := by
    rw [List.append_assoc]
    simp [List.takeWhile_append_of_pos h.name, List.dropWhile_append_of_pos h.name, hdot]
  unfold fileRe.match
  split
  · rename_i rest hdrop
    rw [hds.2] at hdrop
    cases hdrop
    dsimp only
    rw [hds.1, hn.1, hn.2, if_pos ⟨h.min, h.max, h.name_ne⟩]
    cases dir <;> rfl
  · rename_i hother
    exact absurd hds.2 (hother _)

/-- A match of `fileRe.match` is a name of the grammar, with the groups it returns. -/
theorem fileReMatch_of_fileRe_match {s : String} {ds n : List Char} {dir : Direction}
    (h : fileRe.match s = some (ds, n, dir)) : FileReMatch s.toList ds n dir := by
  unfold fileRe.match at h
  split at h
  · rename_i rest hdrop
    dsimp only at h
    have hs : s.toList = s.toList.takeWhile isDigit ++ '_' ::
        (rest.takeWhile isNameChar ++ rest.dropWhile isNameChar) := by
      rw [List.takeWhile_append_dropWhile, ← hdrop, List.takeWhile_append_dropWhile]
    have hdig : ∀ c ∈ s.toList.takeWhile isDigit, isDigit c := fun _ hc => List.mem_takeWhile_imp hc
    have hname : ∀ c ∈ rest.takeWhile isNameChar, isNameChar c := fun _ hc => List.mem_takeWhile_imp hc
    split_ifs at h with hb hup hdown <;> cases h
    · refine ⟨hs.trans ?_, hdig, hb.1, hb.2.1, hb.2.2, hname⟩
      rw [hup]
      simp only [dirText, List.append_assoc, List.cons_append]
      rfl
    · refine ⟨hs.trans ?_, hdig, hb.1, hb.2.1, hb.2.2, hname⟩
      rw [hdown]
      simp only [dirText, List.append_assoc, List.cons_append]
      rfl
  · cases h

/-- No well-formed migration file name is skipped: for every name, `parseFileName` returns a script
exactly when the base of the name matches `fileRe`. The script's version is the decimal value of
the digit group, which is below `10^14`, so the error branch of `strconv.ParseInt` is never taken;
its name is the second group and its direction the third. -/
theorem parseFileName_iff_fileRe (name : String) :
    ((parseFileName name).isSome ↔ ∃ ds n dir, FileReMatch (filepathBase name).toList ds n dir) ∧
    (∀ m, parseFileName name = some m ↔ ∃ ds n dir, FileReMatch (filepathBase name).toList ds n dir ∧
      m = { Version := digitsValue ds, Name := String.mk n, Dir := dir, File := name, SQL := "",
            Checksum := "" }) ∧
    ∀ ds n dir, FileReMatch (filepathBase name).toList ds n dir →
      digitsValue ds < 10 ^ 14 ∧ ParseInt ds = some (digitsValue ds : Int) := by
  have hsome : ∀ m, parseFileName name = some m ↔ ∃ ds n dir,
      FileReMatch (filepathBase name).toList ds n dir ∧
      m = { Version := digitsValue ds, Name := String.mk n, Dir := dir, File := name, SQL := "",
            Checksum := "" } := by
    intro m
    constructor
    · intro h
      unfold parseFileName at h
      split at h
      · cases h
      · rename_i ds n dir hmatch
        have hre := fileReMatch_of_fileRe_match hmatch
        rw [(ParseInt_of_digits hre.digits hre.max).2] at h
        cases h
        exact ⟨ds, n, dir, hre, rfl⟩
    · rintro ⟨ds, n, dir, hre, rfl⟩
      unfold parseFileName
      rw [fileRe_match_of_fileReMatch hre]
      dsimp only
      rw [(ParseInt_of_digits hre.digits hre.max).2]
  refine ⟨?_, hsome, fun ds n dir hre => ParseInt_of_digits hre.digits hre.max⟩
  rw [Option.isSome_iff_exists]
  constructor
  · rintro ⟨m, hm⟩
    obtain ⟨ds, n, dir, hre, -⟩ := (hsome m).1 hm
    exact ⟨ds, n, dir, hre⟩
  · rintro ⟨ds, n, dir, hre⟩
    exact ⟨_, (hsome _).2 ⟨ds, n, dir, hre, rfl⟩⟩

end ApiToolkit.Migrator
