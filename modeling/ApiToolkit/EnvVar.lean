import ApiToolkit.Strconv
import ApiToolkit.GoMap

/-!
# The environment adapter

`Adapter` of `src/envvar/envvar.go`. The getters read a variable with the library's `envvar.Get`
(`get`, the empty string for an unset variable) and parse it with `strconv`. An empty value, or one
that the parser rejects, gives the default. The four getters are one definition, `getOr`, applied
to each getter's parser and conversion. The `MustGet...` variants read with the library's
`envvar.MustGet` (`mustGet`; its panic is the error) and panic with a message that names the key and
the value. They are one definition too, `mustParse`, applied to each variant's parser and type
name.

The signed getters return the decimal reading of the variable, or the default
(`GetIntOr_toInt`); `Atoi`'s fast path makes `GetIntOr` no different from `GetInt64Or`. The
unsigned getters return the unsigned decimal of 32 or 64 bits (`GetUintOr_toNat`). On a variable
that both libraries read alike, each `MustGet...` returns what its getter returns, or panics where
the getter falls back (`MustGet_variants_getOr`).

`DumpRedacted` folds `os.Environ()` into a map, one `dumpStep` per entry. `strings.ToUpper` is a
parameter (`toUpper`): Go maps every Unicode letter, and the results hold for any such function.
The dump holds, for each key, the value of its last entry, with `***` for a key whose upper case
names a secret (`DumpRedacted_entries`).
-/

namespace ApiToolkit.EnvVar

open Strconv

/-! ## Go's helpers -/

/-- `strings.Cut(s, sep)` for a one-character separator: the text before its first occurrence, the
text after it, and whether it occurs. -/
def Cut (s : String) (sep : Char) : String × String × Bool :=
  match s.toList.span (· != sep) with
  | (before, _ :: after) => (String.mk before, String.mk after, true)
  | (_, []) => (s, "", false)

/-! ## The getters -/

section Getters

variable (get : String → String)

/-- `Get`: the raw value, and whether it is nonempty. -/
def Get (key : String) : String × Bool := (get key, get key != "")

/-- The body of the `Get...Or` getters: the default for an empty value or one that `parse` rejects,
and otherwise the parsed value converted to the getter's type. -/
def getOr {α : Type} (parse : String → Except NumError α) (conv : α → BitVec 64) (key : String)
    (dflt : BitVec 64) : BitVec 64 :=
  let v := get key
  if v = "" then dflt
  else
    match parse v with
    | .ok i => conv i
    | .error _ => dflt

/-- `GetIntOr`: `strconv.Atoi`. -/
def GetIntOr (key : String) (dflt : BitVec 64) : BitVec 64 := getOr get Atoi id key dflt

/-- `GetInt64Or`: `strconv.ParseInt(v, 10, 64)`. -/
def GetInt64Or (key : String) (dflt : BitVec 64) : BitVec 64 := getOr get (ParseInt · 64) id key dflt

/-- `GetUintOr`: `strconv.ParseUint(v, 10, 32)`, then `uint(i)`. -/
def GetUintOr (key : String) (dflt : BitVec 64) : BitVec 64 :=
  getOr get (ParseUint · 32) (BitVec.ofNat 64) key dflt

/-- `GetUint64Or`: `strconv.ParseUint(v, 10, 64)`. -/
def GetUint64Or (key : String) (dflt : BitVec 64) : BitVec 64 :=
  getOr get (ParseUint · 64) (BitVec.ofNat 64) key dflt

/-- `GetDurationOr`: `a.GetInt64Or(key, def)`. -/
def GetDurationOr (key : String) (dflt : BitVec 64) : BitVec 64 := GetInt64Or get key dflt

/-- A getter returns the reading `spec` of its variable, or the default where there is none, when
`spec` reads what the parser accepts and nothing from the empty string. -/
theorem getOr_spec {α β : Type} (parse : String → Except NumError α) (conv : α → BitVec 64)
    (f : BitVec 64 → β) (spec : String → Option β)
    (hspec : ∀ v, v ≠ "" → (parse v).toOption.map (f ∘ conv) = spec v) (hempty : spec "" = none)
    (key : String) (dflt : BitVec 64) :
    f (getOr get parse conv key dflt) = (spec (get key)).getD (f dflt) := by
  unfold getOr
  by_cases hv : get key = ""
  · rw [if_pos hv, hv, hempty]; rfl
  rw [if_neg hv, ← hspec _ hv]
  cases parse (get key) <;> rfl

/-- `GetIntOr`, `GetInt64Or` and `GetDurationOr` return the decimal value of the variable, signed
and within the 64-bit range, or the default where it has none. -/
theorem GetIntOr_toInt (key : String) (dflt : BitVec 64) :
    (GetIntOr get key dflt).toInt = (Endpoints.Atoi (get key)).getD dflt.toInt ∧
      (GetInt64Or get key dflt).toInt = (Endpoints.Atoi (get key)).getD dflt.toInt ∧
      (GetDurationOr get key dflt).toInt = (Endpoints.Atoi (get key)).getD dflt.toInt := by
  have h64 := getOr_spec get (ParseInt · 64) id BitVec.toInt Endpoints.Atoi
    (fun v _ => ParseInt_toInt_eq_atoi v) rfl key dflt
  have hAtoi := getOr_spec get Atoi id BitVec.toInt Endpoints.Atoi
    (fun v _ => by rw [Atoi_eq_ParseInt, ParseInt_zero]; exact ParseInt_toInt_eq_atoi v) rfl key dflt
  exact ⟨hAtoi, h64, h64⟩

/-- The value `uint64` conversion keeps a parsed unsigned decimal of at most 64 bits. -/
theorem ParseUint_toNat {bits : Nat} (h0 : 0 < bits) (hb : bits ≤ 64) (v : String) :
    (ParseUint v bits).toOption.map (BitVec.toNat ∘ BitVec.ofNat 64) = unsignedValue bits v := by
  rw [ParseUint_toOption h0 hb]
  unfold unsignedValue
  split_ifs with h
  · have : digitsValue v.toList < 2 ^ 64 :=
      lt_of_lt_of_le h.2.2 (Nat.pow_le_pow_right (by omega) hb)
    simp only [Option.map_some', Function.comp_apply, BitVec.toNat_ofNat, Nat.mod_eq_of_lt this]
  · rfl

/-- `GetUintOr` and `GetUint64Or` return the unsigned decimal value of the variable, below `2^32`
and `2^64`, or the default where it has none: no sign, no space, nothing past the range. -/
theorem GetUintOr_toNat (key : String) (dflt : BitVec 64) :
    (GetUintOr get key dflt).toNat = (unsignedValue 32 (get key)).getD dflt.toNat ∧
      (GetUint64Or get key dflt).toNat = (unsignedValue 64 (get key)).getD dflt.toNat :=
  ⟨getOr_spec get _ _ BitVec.toNat _ (fun v _ => ParseUint_toNat (by omega) (by omega) v) rfl key dflt,
    getOr_spec get _ _ BitVec.toNat _ (fun v _ => ParseUint_toNat (by omega) (by omega) v) rfl key dflt⟩

end Getters

/-! ## The `MustGet...` variants -/

section Must

variable (mustGet : String → Except String String)

/-- The body of the `MustGet...` variants: the library's panic, the parsed value converted, or a
panic that names the key, the type and the value. -/
def mustParse {α : Type} (parse : String → Except NumError α) (conv : α → BitVec 64) (kind : String)
    (key : String) : Except String (BitVec 64) :=
  match mustGet key with
  | .error p => .error p
  | .ok v =>
    match parse v with
    | .ok i => .ok (conv i)
    | .error _ => .error ("environment variable " ++ key ++ " is not a valid " ++ kind ++ ": " ++ v)

/-- `MustGetInt64`. -/
def MustGetInt64 (key : String) : Except String (BitVec 64) := mustParse mustGet (ParseInt · 64) id "int64" key

/-- `MustGetUint`. -/
def MustGetUint (key : String) : Except String (BitVec 64) :=
  mustParse mustGet (ParseUint · 32) (BitVec.ofNat 64) "uint" key

/-- `MustGetUint64`. -/
def MustGetUint64 (key : String) : Except String (BitVec 64) :=
  mustParse mustGet (ParseUint · 64) (BitVec.ofNat 64) "uint64" key

/-- `MustGetDuration`: `a.MustGetInt64(key)`. -/
def MustGetDuration (key : String) : Except String (BitVec 64) := MustGetInt64 mustGet key

/-- On a variable that `envvar.MustGet` and `envvar.Get` read alike, a `MustGet...` variant returns
what its getter returns, whatever the default; or it panics naming the key, the type and the value,
and then the getter returns the default. The parser must reject the empty string. -/
theorem mustParse_getOr (get : String → String) {α : Type} {parse : String → Except NumError α}
    {conv : α → BitVec 64} (kind : String) (hempty : ∀ i, parse "" ≠ .ok i) {key : String}
    (hread : mustGet key = .ok (get key)) (dflt : BitVec 64) :
    mustParse mustGet parse conv kind key = .ok (getOr get parse conv key dflt) ∨
      (mustParse mustGet parse conv kind key =
          .error ("environment variable " ++ key ++ " is not a valid " ++ kind ++ ": " ++ get key) ∧
        getOr get parse conv key dflt = dflt) := by
  unfold mustParse getOr
  rw [hread]
  dsimp only
  cases hp : parse (get key) with
  | ok i =>
    have hv : get key ≠ "" := fun h => hempty i (h ▸ hp)
    exact .inl (by rw [if_neg hv])
  | error e => exact .inr ⟨rfl, by split_ifs <;> rfl⟩

/-- `strconv.ParseInt` rejects the empty string. -/
theorem ParseInt_empty (bitSize : Nat) (i : BitVec 64) : ParseInt "" bitSize ≠ .ok i := nofun

/-- `strconv.ParseUint` rejects the empty string. -/
theorem ParseUint_empty (bitSize i : Nat) : ParseUint "" bitSize ≠ .ok i := nofun

/-- A `MustGet...` result `m` beside its getter's result `g`: the same value; or the panic that
names the key, the type `kind` and the value `v`, with the getter at the default. -/
def AgreesWith (m : Except String (BitVec 64)) (g : BitVec 64) (kind key v : String) (dflt : BitVec 64) :
    Prop :=
  m = .ok g ∨ (m = .error ("environment variable " ++ key ++ " is not a valid " ++ kind ++ ": " ++ v) ∧ g = dflt)

/-- On a variable that `envvar.MustGet` and `envvar.Get` read alike, each `MustGet...` variant
returns what its getter returns, whatever the default, or panics where the getter falls back:
`MustGetInt64` beside `GetInt64Or`, `MustGetUint` beside `GetUintOr`, `MustGetUint64` beside
`GetUint64Or`, and `MustGetDuration` beside `GetDurationOr`, whose panic calls the value an
invalid `int64`. -/
theorem MustGet_variants_getOr (get : String → String) {key : String}
    (hread : mustGet key = .ok (get key)) (dflt : BitVec 64) :
    AgreesWith (MustGetInt64 mustGet key) (GetInt64Or get key dflt) "int64" key (get key) dflt ∧
      AgreesWith (MustGetUint mustGet key) (GetUintOr get key dflt) "uint" key (get key) dflt ∧
      AgreesWith (MustGetUint64 mustGet key) (GetUint64Or get key dflt) "uint64" key (get key) dflt ∧
      AgreesWith (MustGetDuration mustGet key) (GetDurationOr get key dflt) "int64" key (get key) dflt :=
  have h64 := mustParse_getOr mustGet get "int64" (ParseInt_empty 64) hread dflt
  ⟨h64, mustParse_getOr mustGet get "uint" (ParseUint_empty 32) hread dflt,
    mustParse_getOr mustGet get "uint64" (ParseUint_empty 64) hread dflt, h64⟩

/-- The variants and the getters on a variable that both libraries read as `"42"`. -/
theorem MustGet_variants_getOr_42 :
    (fun _ => .ok "42" : String → Except String String) "N" = .ok ((fun _ => "42") "N") ∧
      (AgreesWith (MustGetInt64 (fun _ => .ok "42") "N") (GetInt64Or (fun _ => "42") "N" 7) "int64" "N" "42" 7 ∧
        AgreesWith (MustGetUint (fun _ => .ok "42") "N") (GetUintOr (fun _ => "42") "N" 7) "uint" "N" "42" 7 ∧
        AgreesWith (MustGetUint64 (fun _ => .ok "42") "N") (GetUint64Or (fun _ => "42") "N" 7) "uint64" "N" "42" 7 ∧
        AgreesWith (MustGetDuration (fun _ => .ok "42") "N") (GetDurationOr (fun _ => "42") "N" 7) "int64" "N" "42"
          7) :=
  ⟨rfl, MustGet_variants_getOr (fun _ => .ok "42") (fun _ => "42") rfl 7⟩

end Must

/-! ## `DumpRedacted` -/

section Dump

variable (toUpper : String → String)

/-- The test of `DumpRedacted` on the upper-cased key: it names a secret, a token or a password,
or ends in `_KEY`. -/
def isSensitive (upper : String) : Bool :=
  Contains upper "SECRET" || Contains upper "TOKEN" || Contains upper "PASSWORD" ||
    HasSuffix upper "_KEY"

/-- One pass of the loop of `DumpRedacted` over an entry `kv` of `os.Environ()`. -/
def dumpStep (out : StrMap) (kv : String) : StrMap :=
  let (k, v, ok) := Cut kv '='
  if !ok then out
  else
    let upper := toUpper k
    if isSensitive upper then out.set k "***" else out.set k v

/-- `DumpRedacted` on the entries `os.Environ()` returns. -/
def DumpRedacted (environ : List String) : StrMap := environ.foldl (dumpStep toUpper) GoMap.empty

/-- The key and value of an entry of the environment, where it holds a `=`. -/
def entryOf (kv : String) : Option (String × String) :=
  match Cut kv '=' with
  | (k, v, true) => some (k, v)
  | (_, _, false) => none

/-- The value of the last entry of `k` in the environment. -/
def lastValue (environ : List String) (k : String) : Option String :=
  (((environ.filterMap entryOf).reverse.find? (·.1 == k))).map Prod.snd

/-- The value `DumpRedacted` shows for the value `v` of the key `k`. -/
def shown (k v : String) : String := if isSensitive (toUpper k) then "***" else v

/-- One pass of the loop sets the key of an entry with a `=`, and nothing else. -/
theorem get_dumpStep (out : StrMap) (kv k : String) :
    (dumpStep toUpper out kv).get k =
      (((entryOf kv).filter (·.1 == k)).map fun p => shown toUpper p.1 p.2).or (out.get k) := by
  unfold dumpStep entryOf shown
  rcases Cut kv '=' with ⟨k', v, _ | _⟩
  · rfl
  · by_cases hk : k' = k
    · subst hk
      by_cases hs : isSensitive (toUpper k') <;> simp [hs, Option.filter]
    · by_cases hs : isSensitive (toUpper k') <;> simp [hs, hk, Option.filter, beq_false_of_ne hk]

/-- The last entry of `k` is in the tail of the environment if it has one there, and otherwise
it is the head. -/
theorem lastValue_cons (kv : String) (environ : List String) (k : String) :
    lastValue (kv :: environ) k =
      (lastValue environ k).or (((entryOf kv).filter (·.1 == k)).map Prod.snd) := by
  unfold lastValue
  rcases h : entryOf kv with _ | ⟨k', v⟩
  · simp [List.filterMap_cons, h]
  · simp only [List.filterMap_cons, h, List.reverse_cons, List.find?_append, Option.map_or']
    by_cases hk : k' = k
    · subst hk; simp [Option.filter]
    · simp [Option.filter, beq_false_of_ne hk]

/-- The loop from the map `out`: each key of the environment gets the shown value of its last
entry, and every other key keeps its value in `out`. -/
theorem get_foldl_dumpStep (environ : List String) (out : StrMap) (k : String) :
    (environ.foldl (dumpStep toUpper) out).get k =
      ((lastValue environ k).map (shown toUpper k)).or (out.get k) := by
  induction environ generalizing out with
  | nil => rfl
  | cons kv environ ih =>
    rw [List.foldl_cons, ih, get_dumpStep, lastValue_cons, Option.map_or', Option.or_assoc]
    congr 2
    rcases entryOf kv with _ | ⟨k', v⟩
    · rfl
    · by_cases hk : k' = k
      · subst hk; simp [Option.filter]
      · simp [Option.filter, beq_false_of_ne hk]

/-- `DumpRedacted` holds an entry for each key of the environment and no other: the value of the
key's last entry, or `***` for a key whose upper case names a secret, a token or a password, or ends
in `_KEY`. -/
theorem DumpRedacted_entries (environ : List String) (k v : String) :
    (k, v) ∈ (DumpRedacted toUpper environ).entries ↔
      ∃ v0, lastValue environ k = some v0 ∧ v = if isSensitive (toUpper k) then "***" else v0 := by
  rw [GoMap.mem_entries_iff, DumpRedacted, get_foldl_dumpStep, GoMap.get_empty, Option.or_none]
  unfold shown
  constructor
  · intro h
    obtain ⟨v0, h0, rfl⟩ := Option.map_eq_some'.1 h
    exact ⟨v0, h0, rfl⟩
  · rintro ⟨v0, h0, rfl⟩
    rw [h0]
    rfl

end Dump

end ApiToolkit.EnvVar
